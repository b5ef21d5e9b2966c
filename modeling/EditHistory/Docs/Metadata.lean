import EditHistory.Value.Field

/-!
# What a service says about a document

The description of a document and the list of its revisions, as far as they are used.  The fields keep whatever the
service sent.

## Main definitions

* `User`, `Metadata`, `RevisionEntry` — the descriptions
* `User.read`, `Metadata.read`, `RevisionEntry.readAll` — the descriptions in an answer
-/

namespace EditHistory.Docs

/-- Who changed something. -/
structure User where
  displayName : Value
  emailAddress : Value
  photoLink : Value

/-- The user in an answer; none, if there is nothing. -/
def User.read (v : Value) : Except FieldError (Option User) :=
  if v.truthy then
    match v with
    | .object _ =>
      .ok (some ⟨v.getOr "displayName" (.str ""), v.getOr "emailAddress" (.str ""), v.getOr "photoLink" .null⟩)
    | _ => .error .noFields
  else .ok none

/-- The description of a document. -/
structure Metadata where
  id : Value
  name : Value
  mimeType : Value
  createdTime : Value
  modifiedTime : Value
  lastModifyingUser : Option User

/-- The description of a document in an answer. -/
def Metadata.read (v : Value) : Except FieldError Metadata := do
  let id ← v.require "id"
  let user ← User.read (v.getOr "lastModifyingUser" .null)
  return ⟨id, v.getOr "name" (.str ""), v.getOr "mimeType" (.str ""), v.getOr "createdTime" (.str ""),
    v.getOr "modifiedTime" (.str ""), user⟩

/-- An entry of the list of revisions. -/
structure RevisionEntry where
  id : Value
  timestamp : Value
  modifyingUser : Option User

namespace RevisionEntry

/-- An entry in an answer. -/
def read (v : Value) : Except FieldError RevisionEntry := do
  let id ← v.require "id"
  let user ← User.read (v.getOr "modifyingUser" .null)
  return ⟨id, v.getOr "modifiedTime" (.str ""), user⟩

/-- The items that a value consists of: an object consists of its names, a text of its characters. -/
def parts (v : Value) : Except FieldError (List Value) :=
  match v with
  | .list items => .ok items
  | .object fields => .ok (fields.map fun f => .str f.1)
  | .str s => .ok (s.toList.map fun c => .str (String.ofList [c]))
  | _ => .error .notIndexed

/-- The list of revisions in an answer. -/
def readAll (v : Value) : Except FieldError (List RevisionEntry) :=
  match v with
  | .object _ => (parts (v.getOr "revisions" (.list []))).bind fun items => items.mapM read
  | _ => .error .noFields

end RevisionEntry

end EditHistory.Docs
