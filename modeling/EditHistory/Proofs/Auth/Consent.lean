import EditHistory.Proofs.Auth.Redirect

/-!
# What an address for consent says

The address to open in a browser says who asks for access, and for what.  It has six parameters, three of them with
values from the configuration, and none of these values can reach beyond its own place: whatever characters it has,
the address has the same six parameters, each is read back as it was, and two configurations with the same address ask
for the same.

## Main definitions

* `Config.ofTexts` — a configuration whose entries are texts
* `parameters` — what its address says, name by name

## Main statements

* `consentUrl_ofTexts` — the address
* `consentUrl_says` — its query, taken apart and read back
-/

namespace EditHistory.Auth

open EditHistory.Text Web

/-- A configuration whose entries are texts.  The secret does not show in the address. -/
def Config.ofTexts (clientId redirectUrl : String) (scopes : List String) (clientSecret : Value) : Config :=
  ⟨.str clientId, .list (scopes.map .str), .str redirectUrl, clientSecret⟩

/-- The names of the parameters of the address for consent. -/
def parameterNames : List String :=
  ["client_id", "redirect_uri", "response_type", "scope", "access_type", "prompt"]

/-- The parameters of the address for consent: their names and values, in order. -/
def parameters (clientId redirectUrl : String) (scopes : List String) : List (String × String) :=
  parameterNames.zip [clientId, redirectUrl, "code", String.intercalate " " scopes, "offline", "consent"]

/-- A parameter as it is written. -/
def piece (p : String × String) : List Char :=
  p.1.toList ++ '=' :: Form.encode p.2.toList

theorem texts?_map_str (names : List String) : texts? (names.map .str) = some names := by
  induction names with
  | nil => rfl
  | cons name names ih => rw [List.map_cons, texts?, ih, Option.map_some]

theorem consentUrl_ofTexts (clientId redirectUrl : String) (scopes : List String) (clientSecret : Value) :
    consentUrl (.ofTexts clientId redirectUrl scopes clientSecret) =
      .ok (consentEndpoint ++ "?" ++ formText (parameters clientId redirectUrl scopes)) := by
  have joined : scopeText (.list (scopes.map .str)) = .ok (String.intercalate " " scopes) := by
    rw [scopeText, texts?_map_str]
  show (scopeText (.list (scopes.map .str))).map _ = _
  rw [joined]
  rfl

/-- The address at which consent is given in its parts. -/
theorem toList_consentEndpoint : consentEndpoint.toList =
    Address.Site.text ⟨"https".toList, "accounts.google.com".toList, "o/oauth2/auth".toList⟩ := by decide

theorem fst_mem_parameterNames {p : String × String} {clientId redirectUrl : String} {scopes : List String}
    (mem : p ∈ parameters clientId redirectUrl scopes) : p.1 ∈ parameterNames :=
  (List.of_mem_zip mem).1

/-- The names of the parameters are written as they are. -/
theorem isPlain_of_mem_parameterNames : ∀ name ∈ parameterNames, name.toList.all Form.isPlain = true := by decide

theorem encodePair_parameter {p : String × String} {clientId redirectUrl : String} {scopes : List String}
    (mem : p ∈ parameters clientId redirectUrl scopes) : Form.encodePair (p.1.toList, p.2.toList) = piece p := by
  have name : Form.encode p.1.toList = p.1.toList :=
    Form.encode_of_plain (List.all_eq_true.mp (isPlain_of_mem_parameterNames p.1 (fst_mem_parameterNames mem)))
  rw [Form.encodePair, name, piece]

/-- A parameter is cut at its only equals sign. -/
theorem cutAt_piece {p : String × String} {clientId redirectUrl : String} {scopes : List String}
    (mem : p ∈ parameters clientId redirectUrl scopes) :
    cutAt '=' (piece p) = (p.1.toList, some (Form.encode p.2.toList)) := by
  refine cutAt_append_cons (fun sign => ?_) _
  have plain := List.all_eq_true.mp (isPlain_of_mem_parameterNames p.1 (fst_mem_parameterNames mem)) _ sign
  cases plain

example : piece ("scope", "é&a=b #") = "scope=%C3%A9%26a%3Db+%23".toList := by decide

/-- The query of the address, taken apart at its ampersands. -/
theorem splitOn_formText_parameters (clientId redirectUrl : String) (scopes : List String) :
    splitOn '&' (formText (parameters clientId redirectUrl scopes)).toList =
      (parameters clientId redirectUrl scopes).map piece := by
  have pieces : splitOn '&' (formText (parameters clientId redirectUrl scopes)).toList =
      ((parameters clientId redirectUrl scopes).map fun p => (p.1.toList, p.2.toList)).map Form.encodePair := by
    rw [formText, String.toList_ofList]
    exact Form.splitOn_render _ _
  rw [pieces, List.map_map]
  exact List.map_congr_left fun p mem => encodePair_parameter mem

/-- The parameters can be told from the text of the query. -/
theorem formText_injective : Function.Injective formText := by
  have texts : Function.Injective fun p : String × String => (p.1.toList, p.2.toList) := by
    intro p q same
    obtain ⟨name, value⟩ := Prod.mk.inj same
    exact Prod.ext (String.toList_inj.mp name) (String.toList_inj.mp value)
  intro ps qs same
  exact List.map_injective_iff.mpr texts (Form.render_injective (String.ofList_injective same))

/-- The query of the address, whatever pairs it is made of. -/
theorem query_consent (pairs : List (String × String)) :
    Address.query (consentEndpoint ++ "?" ++ formText pairs).toList = .ok (formText pairs).toList := by
  have listed : (consentEndpoint ++ "?" ++ formText pairs).toList =
      Address.Site.text ⟨"https".toList, "accounts.google.com".toList, "o/oauth2/auth".toList⟩ ++
        '?' :: (formText pairs).toList := by
    rw [String.toList_append, String.toList_append, toList_consentEndpoint, List.append_assoc]
    rfl
  have written : (formText pairs).toList = Form.render (pairs.map fun p => (p.1.toList, p.2.toList)) := by
    rw [formText, String.toList_ofList]
  rw [listed, written]
  exact Address.query_site (by decide) (fun _ mem => Form.toNat_of_mem_render mem)
    (Form.not_mem_render (d := '#') rfl ⟨by decide, by decide⟩ _)

/-- Pairs that have been written are read back, except for those without a value. -/
theorem read_formText (pairs : List (String × String)) :
    Form.read (formText pairs).toList = (pairs.filter fun p => p.2 ≠ "").map fun p => (p.1.toList, p.2.toList) := by
  rw [formText, String.toList_ofList, Form.read_render, List.filter_map]
  refine congrArg (List.map _) (List.filter_congr fun p _ => ?_)
  have empty : p.2.toList = [] ↔ p.2 = "" := by
    rw [← String.toList_inj]
    rfl
  simp only [Function.comp_apply, ne_eq, empty]

/-- The same parameters come only from the same client, address and scopes. -/
theorem eq_of_parameters_eq {clientId clientId' redirectUrl redirectUrl' : String} {scopes scopes' : List String}
    (same : parameters clientId redirectUrl scopes = parameters clientId' redirectUrl' scopes') :
    clientId = clientId' ∧ redirectUrl = redirectUrl' ∧
      String.intercalate " " scopes = String.intercalate " " scopes' := by
  simp only [parameters, parameterNames, List.zip_cons_cons, List.cons.injEq, Prod.mk.injEq, true_and] at same
  exact ⟨same.1, same.2.1, same.2.2.1⟩

/-- **What an address for consent says**, for every configuration whose entries are texts.  Its query has six pieces
between ampersands, the parameters one by one, each a name and a value with an equals sign between them and none in the
value; a value is read back character for character, and so are all parameters together, except for those without a
value.  The same address comes only from configurations with the same client, the same address to go back to and the
same scopes, joined by spaces. -/
theorem consentUrl_says (clientId redirectUrl : String) (scopes : List String) (clientSecret : Value) :
    ∃ url query, consentUrl (.ofTexts clientId redirectUrl scopes clientSecret) = .ok url ∧
      Address.query url.toList = .ok query ∧
      (splitOn '&' query).length = 6 ∧
      splitOn '&' query = (parameters clientId redirectUrl scopes).map piece ∧
      (∀ p ∈ parameters clientId redirectUrl scopes, ∃ value,
        cutAt '=' (piece p) = (p.1.toList, some value) ∧ '=' ∉ value ∧ Form.decode value = p.2.toList) ∧
      Form.read query =
        ((parameters clientId redirectUrl scopes).filter fun p => p.2 ≠ "").map (fun p => (p.1.toList, p.2.toList)) ∧
      ∀ clientId' redirectUrl' scopes' clientSecret',
        consentUrl (.ofTexts clientId' redirectUrl' scopes' clientSecret') = .ok url →
          clientId' = clientId ∧ redirectUrl' = redirectUrl ∧
            String.intercalate " " scopes' = String.intercalate " " scopes := by
  have pieces := splitOn_formText_parameters clientId redirectUrl scopes
  refine ⟨_, _, consentUrl_ofTexts .., query_consent _, ?_, pieces,
    fun p mem => ⟨_, cutAt_piece mem, Form.not_mem_encode rfl _, Form.decode_encode _⟩, read_formText _, ?_⟩
  · rw [pieces]
    rfl
  · intro clientId' redirectUrl' scopes' clientSecret' same
    rw [consentUrl_ofTexts] at same
    have texts := congrArg String.toList (Except.ok.inj same)
    simp only [String.toList_append, List.append_cancel_left_eq] at texts
    exact eq_of_parameters_eq (formText_injective (String.toList_inj.mp texts))

end EditHistory.Auth
