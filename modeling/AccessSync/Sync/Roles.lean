import AccessSync.Sync.Holder
import AccessSync.Sync.Listing
/-!
# Roles

The roles of the account and the entitlements of a workspace are known beforehand. Nobody lists who
holds one, so the grants of a role are found by going through all service principals, then all
groups and then all users. A role is granted by editing the principal.
-/

namespace AccessSync.Sync

def accountRoles : List String := ["account_admin"]

def workspaceRoles : List String :=
  ["workspace-access", "databricks-sql-access", "allow-cluster-create",
   "allow-instance-pool-create"]

def roleNameKey : String := "role_name"

/-- The roles under a parent. -/
def rolesUnder (parent : ResourceId) : List String :=
  if parent.isA .account then accountRoles
  else if parent.isA .workspace then workspaceRoles
  else []

def roleResource (role : String) (parent : ResourceId) : Resource :=
  let id := if parent.isA .workspace then parent.resource ++ ":" ++ role else role
  (((Resource.ofType .role id role).withParent (some parent)).withText roleNameKey role).keepPlace
    parent

/-- The name in the id `workspace:name` of a workspace's role. -/
def workspaceRoleName? (id : String) : Option String :=
  match Text.splitOn ':' id.toList with
  | [_, name] => if name = [] then none else some (String.ofList name)
  | _ => none

/-- The permission that a role resource stands for. -/
def permissionName (role : Resource) (scope : Scope) : Except ResourceFault String :=
  let named := if scope.isAccount then some role.id.resource else workspaceRoleName? role.id.resource
  match named.or (role.profile.text? roleNameKey) with
  | some name => .ok name
  | none => .error (.noRoleName role.id.text)

def roleEntitlements (role : Resource) : SyncPage Entitlement :=
  .only [(Entitlement.assignment role Entitlement.member).described (role.displayName ++ " role")
    (role.displayName ++ " Databricks role")]

/-- One page of a directory, of which those that hold the role are granted it. The second result is
where the listing starts next. -/
def pageGrants {α : Type} (c : Client) (d : Directory α) (attributes : List String) (scope : Scope)
    (start : UInt32) (holds : α → Bool) (grant : α → Call Grant) : Call (List Grant × String) := do
  let listing ← c.list d scope (windowTerms start attributes)
  let grants ← (listing.items.filter holds).mapM grant
  return (grants, nextOf start listing)

/-- The frames of the walk, in the order in which they are pushed. -/
def walkFrames : List ResourceType := [.user, .group, .servicePrincipal]

/-- The stack with the frames of the walk instead of its top one. -/
def beginWalk (stack : PageStack) : PageStack :=
  let below := (stack.pop?.map (·.2)).getD stack
  walkFrames.foldl (fun s t => s.push (.ofType t.id)) below

/-- The grants of one page of the walk and the stack to go on with. -/
def walk (c : Client) (role : Resource) (scope : Scope) (name : String) (place : Place) :
    Call (List Grant × PageStack) := do
  let kind := PermissionKind.ofScope scope
  let member (h : Holder) : Grant := h.grant role Entitlement.member
  let advance (page : Call (List Grant × String)) : Call (List Grant × PageStack) := do
    let (grants, next) ← page
    return (grants, ← Call.ofExcept .pageToken (place.stack.advance next))
  match ResourceType.ofId? place.stack.resourceType with
  | some .role => return ([], beginWalk place.stack)
  | some .user =>
    advance (pageGrants c .users Query.userRoleAttributes scope place.start
      (fun u => u.permissions.contains kind name) fun u => do
        return member (← c.holder .user u.id))
  | some .group =>
    advance (pageGrants c .groups Query.groupRoleAttributes scope place.start
      (fun g => g.isAccountGroup && g.permissions.contains kind name) fun g => do
        return member (← c.holder .group g.id))
  | some .servicePrincipal =>
    advance (pageGrants c .servicePrincipals Query.servicePrincipalRoleAttributes scope place.start
      (fun s => s.permissions.contains kind name) fun s => do
        return member (← c.holder .servicePrincipal s.id))
  | _ => Call.fail (.pageToken (.unexpectedType place.stack.resourceType))

def roleGrants (c : Client) (role : Resource) (token : String) : Call (SyncPage Grant) := do
  let scope ← Call.ofExcept .resourceId role.scope
  let name ← Call.ofExcept .resourceId (role.requireText roleNameKey)
  let place ← resume token .role
  let (grants, stack) ← walk c role scope name place
  return ⟨grants, stack.token, none⟩

/-- Fetches a principal, edits its permissions and writes it back if they changed. -/
def changeRole (c : Client) (principal : ResourceId) (role : Resource)
    (edit : Principal → PermissionKind → String → Bool × Principal) : Call Unit := do
  let kind ← Call.ofExcept .principal (principal.requirePrincipal "role membership")
  let scope ← Call.ofExcept .resourceId role.scope
  let name ← Call.ofExcept .resourceId (permissionName role scope)
  let id ← Call.ofExcept .resourceId principal.platformId
  let (target, _) ← c.getPrincipal scope kind id
  match edit target (.ofScope scope) name with
  | (false, _) => return
  | (true, target) => do
    let _ ← c.putPrincipal scope target

def roles (c : Client) : Adapter where
  resourceType := .role
  list parent _ := under parent fun parent =>
    pure (.only ((rolesUnder parent).map (roleResource · parent)))
  entitlements resource _ := pure (roleEntitlements resource)
  grants resource token := roleGrants c resource token
  grant principal e := changeRole c principal e.resource Principal.addPermission
  revoke g := changeRole c g.principal g.entitlement.resource Principal.removePermission

end AccessSync.Sync
