import AccessSync.Principal.User
/-!
# Service principals

An identity of a program. Rules name it by its application id, the directory by the id that the
platform gave it.
-/

namespace AccessSync

structure ServicePrincipal where
  id : String
  displayName : String
  active : Bool
  applicationId : String
  permissions : Permissions
  deriving DecidableEq, Repr

namespace ServicePrincipal

def ownFieldNames : List String := ["id", "displayName", "active", "applicationId"]

/-- Reads a service principal that stands within so many arrays and objects. -/
def read (enclosing : Nat) (v : Json) : Option ServicePrincipal := do
  let r ← v.openRecord? ownFieldNames Permissions.fieldNames enclosing
  let id ← r.field "id" "" readId
  let displayName ← r.field "displayName" "" Json.string?
  let active ← r.field "active" false Json.bool?
  let applicationId ← r.field "applicationId" "" Json.string?
  let permissions ← Permissions.ofRecord? r
  return ⟨id, displayName, active, applicationId, permissions⟩

def toJson (s : ServicePrincipal) : Json :=
  .object ([("id", .string s.id), ("displayName", .string s.displayName),
    ("active", .bool s.active), ("applicationId", .string s.applicationId)] ++
    s.permissions.fields)

end ServicePrincipal

end AccessSync
