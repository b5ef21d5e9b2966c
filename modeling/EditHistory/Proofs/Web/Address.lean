import EditHistory.Proofs.Web.Form
import EditHistory.Web.Address
import Mathlib.Data.List.TakeDrop

/-!
# The query of an address

The query of an address on a host with an ordinary name is what follows the question mark, provided that no fragment
comes after it and that it has no blanks, which would be dropped.

## Main definitions

* `Address.Site` — the front of an address: the scheme, the host and the path
* `Address.Site.isOrdinary` — a front in which nothing has a meaning of its own

## Main statements

* `Address.query_site` — the query of an address
-/

namespace EditHistory.Web.Address

open EditHistory.Text

/-- The front of an address on a host; the path is what follows the slash after the host. -/
structure Site where
  scheme : List Char
  host : List Char
  path : List Char

namespace Site

/-- The front of an address as it is written. -/
def text (site : Site) : List Char :=
  site.scheme ++ ':' :: '/' :: '/' :: (site.host ++ '/' :: site.path)

/-- Whether a character may stand in an ordinary name of a host, or in its port. -/
def isHostChar (c : Char) : Bool :=
  c != '/' && c != '?' && c != '#' && c != '[' && c != ']' && !disguises.contains c

/-- Whether the front of an address has a scheme and an ordinary host, ends before the query, and has no blanks. -/
def isOrdinary (site : Site) : Bool :=
  site.scheme.head?.any Char.isAlpha && site.scheme.all isSchemeChar && site.host.all isHostChar &&
    site.path.all (fun c => c != '?' && c != '#') && site.text.all fun c => 0x20 < c.toNat

end Site

/-- Of an address without blanks and control characters nothing is dropped. -/
theorem clean_of_printable {cs : List Char} (printable : ∀ c ∈ cs, 0x20 < c.toNat) : clean cs = cs := by
  have solid : cs.dropWhile (fun c => c.toNat ≤ 0x20) = cs := by
    cases cs with
    | nil => rfl
    | cons c cs =>
        have first := printable c List.mem_cons_self
        exact List.dropWhile_cons_of_neg (by simpa using first)
  rw [clean, solid]
  refine List.filter_eq_self.mpr fun c mem => ?_
  have above := printable c mem
  simp only [Bool.and_eq_true, bne_iff_ne]
  refine ⟨⟨?_, ?_⟩, ?_⟩ <;>
    · rintro rfl
      exact absurd above (by decide)

theorem dropScheme_append {scheme : List Char} (letter : scheme.head?.any Char.isAlpha = true)
    (named : scheme.all isSchemeChar = true) (rest : List Char) : dropScheme (scheme ++ ':' :: rest) = rest := by
  have absent : ':' ∉ scheme := fun mem => by cases List.all_eq_true.mp named _ mem
  rw [dropScheme, cutAt_append_cons absent]
  cases scheme with
  | nil => cases letter
  | cons c scheme =>
      rw [List.all_cons, Bool.and_eq_true] at named
      rw [List.head?_cons, Option.any_some] at letter
      simp only [letter, named.2, Bool.and_self, if_true]

theorem takeHost_append {host : List Char} (ordinary : host.all Site.isHostChar = true) (rest : List Char) :
    takeHost ('/' :: '/' :: (host ++ '/' :: rest)) = (host, '/' :: rest) := by
  have inside : ∀ c ∈ host, (c != '/' && c != '?' && c != '#') = true := by
    intro c mem
    have its := List.all_eq_true.mp ordinary c mem
    unfold Site.isHostChar at its
    simp only [Bool.and_eq_true] at its ⊢
    exact its.1.1.1
  show List.span _ (host ++ '/' :: rest) = _
  rw [List.span_eq_takeWhile_dropWhile, List.takeWhile_append_of_pos inside, List.dropWhile_append_of_pos inside]
  simp

theorem bracketFault?_of_ordinary {host : List Char} (ordinary : host.all Site.isHostChar = true) :
    bracketFault? host = none := by
  have absent (c : Char) (bracket : Site.isHostChar c = false) : host.contains c = false := by
    rw [Bool.eq_false_iff]
    intro mem
    have its := List.all_eq_true.mp ordinary c (List.contains_iff_mem.mp mem)
    rw [bracket] at its
    cases its
  rw [bracketFault?, absent '[' rfl, absent ']' rfl]
  rfl

theorem not_disguised_of_ordinary {host : List Char} (ordinary : host.all Site.isHostChar = true) :
    host.any disguises.contains = false := by
  rw [List.any_eq_false]
  intro c mem
  have its := List.all_eq_true.mp ordinary c mem
  unfold Site.isHostChar at its
  simp only [Bool.and_eq_true, Bool.not_eq_true'] at its
  rw [its.2]
  exact Bool.false_ne_true

/-- **The query of an address** after an ordinary front. -/
theorem query_site {site : Site} (ordinary : site.isOrdinary = true) {cs : List Char}
    (printable : ∀ c ∈ cs, 0x20 < c.toNat) (whole : '#' ∉ cs) : query (site.text ++ '?' :: cs) = .ok cs := by
  unfold Site.isOrdinary at ordinary
  simp only [Bool.and_eq_true] at ordinary
  obtain ⟨⟨⟨⟨letter, named⟩, host⟩, path⟩, front⟩ := ordinary
  have parts : site.text ++ '?' :: cs =
      site.scheme ++ ':' :: '/' :: '/' :: (site.host ++ '/' :: (site.path ++ '?' :: cs)) := by
    simp [Site.text]
  have solid : clean (site.text ++ '?' :: cs) =
      site.scheme ++ ':' :: '/' :: '/' :: (site.host ++ '/' :: (site.path ++ '?' :: cs)) := by
    rw [← parts]
    refine clean_of_printable fun c mem => ?_
    rcases List.mem_append.mp mem with mem | mem
    · exact of_decide_eq_true (List.all_eq_true.mp front c mem)
    · rcases List.mem_cons.mp mem with rfl | mem
      · decide
      · exact printable c mem
  have absent (d : Char) (mark : (d != '?' && d != '#') = false) : d ∉ site.path := by
    intro mem
    have its := List.all_eq_true.mp path d mem
    rw [mark] at its
    cases its
  have uncut : cutAt '#' ('/' :: (site.path ++ '?' :: cs)) = ('/' :: (site.path ++ '?' :: cs), none) := by
    refine cutAt_of_not_mem ?_
    simp [absent '#' rfl, whole]
  have cut : cutAt '?' (('/' :: site.path) ++ '?' :: cs) = ('/' :: site.path, some cs) := by
    refine cutAt_append_cons ?_ cs
    simp [absent '?' rfl]
  rw [List.cons_append] at cut
  simp only [query, solid, dropScheme_append letter named, takeHost_append host, bracketFault?_of_ordinary host,
    not_disguised_of_ordinary host, uncut, cut, Bool.false_eq_true, if_false, Option.getD_some]

end EditHistory.Web.Address
