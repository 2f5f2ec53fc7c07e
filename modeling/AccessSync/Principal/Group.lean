import AccessSync.Principal.Name
import AccessSync.Principal.User
/-!
# Groups

A group with its members. A member is known by id; where the platform wrote it, a reference tells
its kind too.
-/

namespace AccessSync

structure Member where
  id : String
  displayName : String
  /-- Kind and id, `Users/123`. -/
  reference : String
  deriving DecidableEq, Repr

namespace Member

/-- A member of which only the id is known. -/
def ofId (id : String) : Member := ⟨id, "", ""⟩

/-- Kind and id of the member that a reference names. -/
def readReference (text : String) : Except PrincipalFault (PrincipalKind × String) :=
  PrincipalName.read (.malformedMember text) text

/-- Kind and id as the reference tells them. -/
def principal (m : Member) : Except PrincipalFault (PrincipalKind × String) :=
  readReference m.reference

def read (v : Json) : Option Member := do
  let r ← v.record? ["value", "display", "$ref"]
  let id ← r.field "value" "" Json.string?
  let displayName ← r.field "display" "" Json.string?
  let reference ← r.field "$ref" "" Json.string?
  return ⟨id, displayName, reference⟩

def toJson (m : Member) : Json :=
  .object (("value", .string m.id) :: Json.textField "display" m.displayName ++
    Json.textField "$ref" m.reference)

end Member

structure Group where
  id : String
  displayName : String
  members : List Member
  /-- Where the group belongs, as the platform names it. -/
  resourceType : String
  schemas : List String
  permissions : Permissions
  deriving DecidableEq, Repr

namespace Group

/-- The group belongs to the account and not to one workspace. -/
def isAccountGroup (g : Group) : Bool := g.resourceType = "Group"

def hasMember (g : Group) (id : String) : Bool := g.members.any (·.id = id)

/-- The group with a member of that id, and whether it was missing. -/
def addMember (g : Group) (id : String) : Bool × Group :=
  if g.hasMember id then (false, g)
  else (true, { g with members := g.members ++ [Member.ofId id] })

/-- The group without all members of that id, and whether there was one. -/
def removeMember (g : Group) (id : String) : Bool × Group :=
  (g.hasMember id, { g with members := g.members.filter (·.id ≠ id) })

/-- The metadata of a group, a record of its resource type. -/
def readMeta (v : Json) : Option String := do
  let r ← v.record? ["resourceType"]
  r.field "resourceType" "" Json.string?

def metaField (resourceType : String) : List (String × Json) :=
  if resourceType = "" then [] else [("meta", .object [("resourceType", .string resourceType)])]

def ownFieldNames : List String := ["id", "displayName", "members", "meta", "schemas"]

/-- Reads a group that stands within so many arrays and objects. -/
def read (enclosing : Nat) (v : Json) : Option Group := do
  let r ← v.openRecord? ownFieldNames Permissions.fieldNames enclosing
  let id ← r.field "id" "" readId
  let displayName ← r.field "displayName" "" Json.string?
  let members ← r.field "members" [] (Json.list? Member.read)
  let resourceType ← r.field "meta" "" readMeta
  let schemas ← r.field "schemas" [] (Json.list? Json.string?)
  let permissions ← Permissions.ofRecord? r
  return ⟨id, displayName, members, resourceType, schemas, permissions⟩

def toJson (g : Group) : Json :=
  .object ([("id", .string g.id), ("displayName", .string g.displayName)] ++
    Json.listField "members" Member.toJson g.members ++ metaField g.resourceType ++
    Json.listField "schemas" .string g.schemas ++ g.permissions.fields)

end Group

end AccessSync
