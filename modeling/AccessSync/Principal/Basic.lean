import AccessSync.Principal.Group
import AccessSync.Principal.ServicePrincipal
/-!
# Principals

Whoever can hold a permission, of any kind.
-/

namespace AccessSync

inductive Principal where
  | user (u : User)
  | group (g : Group)
  | servicePrincipal (s : ServicePrincipal)
  deriving DecidableEq, Repr

namespace Principal

def kind : Principal → PrincipalKind
  | .user _ => .user
  | .group _ => .group
  | .servicePrincipal _ => .servicePrincipal

/-- The id that the platform gave it. -/
def id : Principal → String
  | .user u => u.id
  | .group g => g.id
  | .servicePrincipal s => s.id

def permissions : Principal → Permissions
  | .user u => u.permissions
  | .group g => g.permissions
  | .servicePrincipal s => s.permissions

def setPermissions (permissions : Permissions) : Principal → Principal
  | .user u => .user { u with permissions }
  | .group g => .group { g with permissions }
  | .servicePrincipal s => .servicePrincipal { s with permissions }

/-- The principal with a permission, and whether it was missing. -/
def addPermission (p : Principal) (kind : PermissionKind) (value : String) : Bool × Principal :=
  let (changed, permissions) := p.permissions.add kind value
  (changed, p.setPermissions permissions)

/-- The principal without a permission, and whether it was there. -/
def removePermission (p : Principal) (kind : PermissionKind) (value : String) :
    Bool × Principal :=
  let (changed, permissions) := p.permissions.remove kind value
  (changed, p.setPermissions permissions)

/-- Reads a principal of that kind. -/
def read (v : Json) : PrincipalKind → Option Principal
  | .user => (User.read 0 v).map .user
  | .group => (Group.read 0 v).map .group
  | .servicePrincipal => (ServicePrincipal.read 0 v).map .servicePrincipal

def toJson : Principal → Json
  | .user u => u.toJson
  | .group g => g.toJson
  | .servicePrincipal s => s.toJson

end Principal

end AccessSync
