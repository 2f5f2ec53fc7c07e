import AccessSync.Resource.Basic
/-!
# Entitlements and grants

An entitlement is something that can be granted on a resource, and a grant says that a principal has
it. Both are named by joining what they are made of with colons.
-/

namespace AccessSync

/-- What an entitlement stands for. -/
inductive Purpose where
  /-- Membership. -/
  | assignment
  | permission
  deriving DecidableEq, Repr

def Purpose.name : Purpose → String
  | .assignment => "assignment"
  | .permission => "permission"

def Purpose.read (v : Json) : Option Purpose :=
  v.word?.bind fun s => [Purpose.assignment, .permission].find? fun p => p.name = s

/-- Something that can be granted on a resource. -/
structure Entitlement where
  id : String
  resource : Resource
  slug : String
  displayName : String
  description : String
  purpose : Purpose
  /-- Types of the resources that it can be granted to. -/
  grantableTo : List String

namespace Entitlement

/-- The slug of membership. -/
def member : String := "member"

/-- The name of the entitlement with that slug. -/
def idOf (resource : ResourceId) (slug : String) : String :=
  resource.resourceType ++ ":" ++ resource.resource ++ ":" ++ slug

/-- An entitlement that any principal can be granted. -/
def ofPurpose (purpose : Purpose) (resource : Resource) (slug : String) : Entitlement :=
  ⟨idOf resource.id slug, resource, slug, "", "", purpose,
    ResourceType.principals.map ResourceType.id⟩

def assignment (resource : Resource) (slug : String) : Entitlement :=
  ofPurpose .assignment resource slug

def permission (resource : Resource) (slug : String) : Entitlement :=
  ofPurpose .permission resource slug

def described (e : Entitlement) (displayName description : String) : Entitlement :=
  { e with displayName, description }

/-- Reads an entitlement that stands within so many arrays and objects. -/
def read (enclosing : Nat) (v : Json) : Option Entitlement := do
  let r ← v.record? ["id", "resource", "slug", "display_name", "description", "purpose",
    "grantable_to"]
  let id ← r.required "id" Json.string?
  let resource ← r.required "resource" (Resource.read (enclosing + 1))
  let slug ← r.required "slug" Json.string?
  let displayName ← r.required "display_name" Json.string?
  let description ← r.required "description" Json.string?
  let purpose ← r.required "purpose" Purpose.read
  let grantableTo ← r.required "grantable_to" (Json.list? Json.string?)
  return ⟨id, resource, slug, displayName, description, purpose, grantableTo⟩

def toJson (e : Entitlement) : Json :=
  .object [("id", .string e.id), ("resource", e.resource.toJson), ("slug", .string e.slug),
    ("display_name", .string e.displayName), ("description", .string e.description),
    ("purpose", .string e.purpose.name), ("grantable_to", Json.ofList .string e.grantableTo)]

end Entitlement

/-- That a principal has an entitlement. -/
structure Grant where
  id : String
  entitlement : Entitlement
  principal : ResourceId
  /-- Entitlements whose holders have this one through the principal. -/
  expandable : Option (List String)

namespace Grant

/-- The name of a grant of the entitlement. -/
def idOf (entitlementId : String) (principal : ResourceId) : String :=
  entitlementId ++ ":" ++ principal.text

/-- The grant of the permission with that slug. -/
def ofSlug (resource : Resource) (slug : String) (principal : ResourceId)
    (expandable : Option (List String)) : Grant :=
  let entitlement := Entitlement.permission resource slug
  ⟨idOf entitlement.id principal, entitlement, principal, expandable⟩

def readExpandable (v : Json) : Option (List String) := do
  let r ← v.record? ["entitlement_ids"]
  r.required "entitlement_ids" (Json.list? Json.string?)

/-- Reads a grant that stands within so many arrays and objects. -/
def read (enclosing : Nat) (v : Json) : Option Grant := do
  let r ← v.record? ["id", "entitlement", "principal", "expandable"]
  let id ← r.required "id" Json.string?
  let entitlement ← r.required "entitlement" (Entitlement.read (enclosing + 1))
  let principal ← r.required "principal" ResourceId.read
  let expandable ← r.optional "expandable" (Json.nullable? readExpandable)
  return ⟨id, entitlement, principal, expandable⟩

def expandableToJson (ids : List String) : Json :=
  .object [("entitlement_ids", Json.ofList .string ids)]

def toJson (g : Grant) : Json :=
  .object [("id", .string g.id), ("entitlement", g.entitlement.toJson),
    ("principal", g.principal.toJson), ("expandable", Json.ofOption expandableToJson g.expandable)]

end Grant

end AccessSync
