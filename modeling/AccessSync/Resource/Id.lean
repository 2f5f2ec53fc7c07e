import AccessSync.Principal.Kind
import AccessSync.Json.Record
/-!
# Names of resources

A resource is whatever is handed to the host: the account, its workspaces, principals and roles. It
is named by its type and an id. The id of a group names its parent too, in a path of two or four
segments; `ofPath` reads such a path and `groupPath` writes it.
-/

namespace AccessSync

/-- The types of resources. -/
inductive ResourceType where
  | account
  | workspace
  | user
  | group
  | servicePrincipal
  | role
  deriving DecidableEq, Repr

namespace ResourceType

def id : ResourceType → String
  | .account => "account"
  | .workspace => "workspace"
  | .user => "user"
  | .group => "group"
  | .servicePrincipal => "service_principal"
  | .role => "role"

def displayName : ResourceType → String
  | .account => "Account"
  | .workspace => "Workspace"
  | .user => "User"
  | .group => "Group"
  | .servicePrincipal => "Service Principal"
  | .role => "Role"

/-- How the host shows resources of the type. -/
inductive Trait where
  | user
  | group
  | role
  deriving DecidableEq, Repr

def Trait.name : Trait → String
  | .user => "user"
  | .group => "group"
  | .role => "role"

def traits : ResourceType → List Trait
  | .account => []
  | .workspace => [.group]
  | .user => [.user]
  | .group => [.group]
  | .servicePrincipal => [.group]
  | .role => [.role]

/-- Nothing can be granted on resources of the type. -/
def hasNoEntitlements (t : ResourceType) : Bool := t = .user

def all : List ResourceType := [.account, .workspace, .user, .group, .servicePrincipal, .role]

def ofId? (id : String) : Option ResourceType := all.find? (·.id = id)

/-- The type of a principal's resource. -/
def ofPrincipal : PrincipalKind → ResourceType
  | .user => .user
  | .group => .group
  | .servicePrincipal => .servicePrincipal

/-- The types of all principals. -/
def principals : List ResourceType := [.user, .group, .servicePrincipal]

end ResourceType

/-- Why a resource's id or profile does not tell what it has to. -/
inductive ResourceFault where
  | malformedId (text : String)
  | noProfileEntry (resource key : String)
  | noWorkspaceId (resource : String)
  | noRoleName (resource : String)
  deriving DecidableEq, Repr

def ResourceFault.message : ResourceFault → String
  | .malformedId text => text
  | .noProfileEntry resource key => resource ++ ": profile has no " ++ key
  | .noWorkspaceId resource => resource ++ ": missing workspace id"
  | .noRoleName resource => resource ++ ": cannot derive role name"

/-- The name of a resource. The host may hand in a type that is none of ours. -/
structure ResourceId where
  resourceType : String
  resource : String
  deriving DecidableEq, Repr

namespace ResourceId

def ofType (t : ResourceType) (resource : String) : ResourceId := ⟨t.id, resource⟩

def text (r : ResourceId) : String := r.resourceType ++ ":" ++ r.resource

/-- The resource is of that type. -/
def isA (r : ResourceId) (t : ResourceType) : Bool := r.resourceType = t.id

/-- The kind of principal that the resource is. -/
def principalKind? (r : ResourceId) : Option PrincipalKind :=
  PrincipalKind.all.find? fun k => r.isA (.ofPrincipal k)

def isPrincipal (r : ResourceId) : Bool := r.principalKind?.isSome

/-- The parent, if one is named, and the resource of a path `type/id` or
`parent type/parent id/type/id`. -/
def ofPath (path : String) : Except ResourceFault (Option ResourceId × ResourceId) :=
  match (Text.splitOn '/' path.toList).map String.ofList with
  | [resourceType, resource] => .ok (none, ⟨resourceType, resource⟩)
  | [parentType, parent, resourceType, resource] =>
    .ok (some ⟨parentType, parent⟩, ⟨resourceType, resource⟩)
  | _ => .error (.malformedId path)

/-- The path of a group, after that of its parent. -/
def groupPath (groupId : String) : Option ResourceId → String
  | some p =>
    p.resourceType ++ "/" ++ p.resource ++ "/" ++ ResourceType.group.id ++ "/" ++ groupId
  | none => ResourceType.group.id ++ "/" ++ groupId

def read (v : Json) : Option ResourceId := do
  let r ← v.record? ["resource_type", "resource"]
  let resourceType ← r.required "resource_type" Json.string?
  let resource ← r.required "resource" Json.string?
  return ⟨resourceType, resource⟩

def toJson (r : ResourceId) : Json :=
  .object [("resource_type", .string r.resourceType), ("resource", .string r.resource)]

end ResourceId

end AccessSync
