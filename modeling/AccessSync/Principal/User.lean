import AccessSync.Principal.Permission
import AccessSync.Text.Integer
/-!
# Users

A user as the APIs write it. An id is a text; a number is taken as its digits.
-/

namespace AccessSync

/-- An id written as a text, a number or nothing. -/
def readId : Json → Option String
  | .string s => some s
  | .null => some ""
  | v => v.int64?.map fun n => Text.ofInt n.toInt

structure Email where
  primary : Bool
  value : String
  deriving DecidableEq, Repr

namespace Email

def read (v : Json) : Option Email := do
  let r ← v.record? ["primary", "value"]
  let primary ← r.field "primary" false Json.bool?
  let value ← r.field "value" "" Json.string?
  return ⟨primary, value⟩

def toJson (e : Email) : Json :=
  .object [("primary", .bool e.primary), ("value", .string e.value)]

end Email

structure User where
  id : String
  schemas : List String
  emails : List Email
  userName : String
  displayName : String
  active : Bool
  permissions : Permissions
  deriving DecidableEq, Repr

namespace User

/-- The address marked as primary, the first one if there are several. -/
def primaryEmail? (u : User) : Option String := (u.emails.find? (·.primary)).map (·.value)

def ownFieldNames : List String := ["id", "schemas", "emails", "userName", "displayName", "active"]

/-- Reads a user that stands within so many arrays and objects. -/
def read (enclosing : Nat) (v : Json) : Option User := do
  let r ← v.openRecord? ownFieldNames Permissions.fieldNames enclosing
  let id ← r.field "id" "" readId
  let schemas ← r.field "schemas" [] (Json.list? Json.string?)
  let emails ← r.field "emails" [] (Json.list? Email.read)
  let userName ← r.field "userName" "" Json.string?
  let displayName ← r.field "displayName" "" Json.string?
  let active ← r.field "active" false Json.bool?
  let permissions ← Permissions.ofRecord? r
  return ⟨id, schemas, emails, userName, displayName, active, permissions⟩

def toJson (u : User) : Json :=
  .object (("id", .string u.id) :: Json.listField "schemas" .string u.schemas ++
    [("emails", Json.ofList Email.toJson u.emails), ("userName", .string u.userName),
     ("displayName", .string u.displayName), ("active", .bool u.active)] ++ u.permissions.fields)

end User

end AccessSync
