import EditHistory.Proofs.Auth.Store
import EditHistory.Proofs.Value.Field

/-!
# Loading a token from any file

Whatever is at the place of the token file, nothing or a directory or any bytes, loading it changes no file.  If what it
holds can be read as a token, this is the token that is loaded, and otherwise nobody has signed in.  There is one
exception: an expiry that is an integer beyond the largest double is neither a time nor taken for a malformed one, and
loading fails.

## Main definitions

* `Token.HasHugeExpiry` — data with an expiry that is too large

## Main statements

* `Token.read_eq_tooLarge_iff` — the data that make loading fail
* `Store.load_any` — loading from any file
-/

namespace EditHistory.Auth

open Number

/-- Data of a token with an expiry that is too large for a double. -/
structure Token.HasHugeExpiry (v : Value) : Prop where
  access : ∃ w, v.get? "access_token" = some w
  expiry : ∃ n, v.get? "expiry_time" = some (.int n) ∧ overflow ≤ n.natAbs

/-- The expiry of a token that has none is a double. -/
theorem Token.toDouble_getOr_eq_tooLarge_iff (v : Value) :
    (v.getOr "expiry_time" (.float 0.0)).toDouble = .error .tooLarge ↔
      ∃ n, v.get? "expiry_time" = some (.int n) ∧ overflow ≤ n.natAbs := by
  rw [Value.toDouble_eq_tooLarge_iff, Value.getOr]
  cases v.get? "expiry_time" with
  | none => exact iff_of_false nofun nofun
  | some w => simp only [Option.getD_some, Option.some.injEq]

theorem Token.read_eq_tooLarge_iff (v : Value) : Token.read v = .error (.expiry .tooLarge) ↔ HasHugeExpiry v := by
  have split : HasHugeExpiry v ↔ (∃ w, v.require "access_token" = .ok w) ∧
      (v.getOr "expiry_time" (.float 0.0)).toDouble = .error .tooLarge := by
    rw [toDouble_getOr_eq_tooLarge_iff]
    simp only [Value.require_eq_ok_iff]
    exact ⟨fun ⟨access, expiry⟩ => ⟨access, expiry⟩, fun ⟨access, expiry⟩ => ⟨access, expiry⟩⟩
  rw [split, read]
  cases v.require "access_token" with
  | error e => simp
  | ok access => cases (v.getOr "expiry_time" (.float 0.0)).toDouble <;> simp

namespace Store

/-- **Loading from any file** changes no file.  It fails just if the file holds the data of a token whose expiry is too
large.  It gives a token just if the data can be read as this token, and in all other cases nobody has signed in. -/
theorem load_any (store : Store) (files : Files) :
    (store.load files).state = files ∧
      ((store.load files).outcome = .error .mk ↔ ∃ v, store.readValue files = .ok v ∧ Token.HasHugeExpiry v) ∧
      (∀ token, (store.load files).outcome = .ok (some token) ↔
        ∃ v, store.readValue files = .ok v ∧ Token.read v = .ok token) ∧
      ((store.load files).outcome = .ok none ↔
        ∀ v, store.readValue files = .ok v → ¬ Token.HasHugeExpiry v ∧ ∀ token, Token.read v ≠ .ok token) := by
  simp only [← Token.read_eq_tooLarge_iff]
  unfold load
  cases store.readValue files with
  | error e => cases e <;> simp
  | ok v =>
    simp only [Except.ok.injEq, exists_eq_left', forall_eq']
    cases Token.read v with
    | ok token => simp
    | error e =>
        rcases e with field | (_ | _ | _) <;> simp

/-- The data of a token that is to expire after more seconds than a double can count. -/
def endlessData : Value := .object [("access_token", .str "a"), ("expiry_time", .int (10 ^ 400))]

/-- A tree with these data in the token file. -/
def endlessTree : Files := ⟨[(["token.json"], .file (Text.utf8 (Json.pretty endlessData)))]⟩

theorem load_any_of_endless :
    (Store.load ⟨⟨false, ["token.json"]⟩⟩ endlessTree).outcome = .error .mk ∧
      (Store.load ⟨⟨false, ["token.json"]⟩⟩ ⟨[(["token.json"], .dir)]⟩).outcome = .ok none := by
  have short : (natText (10 ^ 400)).length ≤ digitLimit := by decide +kernel
  have writable : Json.IsWritable endlessData := ⟨by decide, trivial, short, trivial⟩
  have there : endlessTree.locate ⟨false, ["token.json"]⟩ =
      .ok (["token.json"], .file (Text.utf8 (Json.pretty endlessData))) := rfl
  have huge : Token.HasHugeExpiry endlessData := ⟨⟨_, rfl⟩, _, rfl, by decide +kernel⟩
  obtain ⟨-, fails, -⟩ := load_any ⟨⟨false, ["token.json"]⟩⟩ endlessTree
  obtain ⟨-, -, -, signedOut⟩ := load_any ⟨⟨false, ["token.json"]⟩⟩ ⟨[(["token.json"], .dir)]⟩
  exact ⟨fails.mpr ⟨_, readValue_of_locate there writable, huge⟩, signedOut.mpr nofun⟩

end Store

end EditHistory.Auth
