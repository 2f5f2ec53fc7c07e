import AccessSync.Client.Workspaces
import AccessSync.Sync.Account
import AccessSync.Sync.Listing
/-!
# Workspaces

Membership of a workspace is an assignment that the account's API manages, so there is something to
grant only where that API is available. A workspace that knows no assignments has no members.
-/

namespace AccessSync.Sync

def workspaceIdKey : String := "workspace_id"

def workspaceResource (w : Workspace) (parent : ResourceId) : Resource :=
  (((Resource.ofType .workspace w.deploymentName w.name).withParent (some parent)).withProfile
    workspaceIdKey (.ofInt w.id.toInt)).withChildType .role

/-- The number of the workspace that a resource is. -/
def workspaceId (r : Resource) : Except ResourceFault Int64 :=
  match r.profile.int64? workspaceIdKey with
  | some id => .ok id
  | none => .error (.noWorkspaceId r.id.text)

/-- The workspace is to be synced; no list means all are. -/
def isAllowed (allowed : List String) (w : Workspace) : Bool :=
  allowed.isEmpty || w.deploymentName ∈ allowed

def listWorkspaces (c : Client) (allowed : List String) (parent : ResourceId) :
    Call (SyncPage Resource) := do
  let (workspaces, rateLimit) ← c.listWorkspaces
  return .last ((workspaces.filter (isAllowed allowed)).map (workspaceResource · parent)) rateLimit

def workspaceEntitlements (r : Resource) : Call (SyncPage Entitlement) := do
  if ← accountAvailable then
    let member := r.displayName ++ " " ++ Entitlement.member
    return .only [(Entitlement.assignment r Entitlement.member).described member
      (member ++ " in Databricks")]
  else return .empty

/-- The grant that an assignment stands for. -/
def assignmentGrant (c : Client) (r : Resource) (a : Assignment) : Call Grant := do
  let some assignee := a.principal | Call.fail (.principal .unassigned)
  let some kind := assignee.kind? | Call.fail (.principal (.unknownAssignee assignee.id))
  return (← c.holder kind (Text.ofInt assignee.id.toInt)).grant r Entitlement.member

def workspaceGrants (c : Client) (r : Resource) : Call (SyncPage Grant) := do
  if ← accountAvailable then
    let id ← Call.ofExcept .resourceId (workspaceId r)
    match ← Call.attempt (c.listAssignments id) with
    | .ok (assignments, rateLimit) =>
      return .last (← assignments.mapM (assignmentGrant c r)) rateLimit
    | .error e =>
      match e.api? with
      | some refusal =>
        if refusal.isUnavailable then return .last [] refusal.rateLimit else Call.fail e
      | none => Call.fail e
  else return .empty

/-- Changes who is a member of a workspace. -/
def changeWorkspace (principal : ResourceId) (e : Entitlement)
    (put : Int64 → String → Call Http.RateLimit) : Call Unit := do
  let _ ← Call.ofExcept .principal (principal.requirePrincipal "workspace membership")
  let id ← Call.ofExcept .resourceId (workspaceId e.resource)
  let principalId ← Call.ofExcept .resourceId principal.platformId
  let _ ← put id principalId

def workspaces (c : Client) (allowed : List String) : Adapter where
  resourceType := .workspace
  list parent _ := under parent (listWorkspaces c allowed)
  entitlements resource _ := workspaceEntitlements resource
  grants resource _ := workspaceGrants c resource
  grant principal e := changeWorkspace principal e c.assign
  revoke g := changeWorkspace g.principal g.entitlement c.unassign

end AccessSync.Sync
