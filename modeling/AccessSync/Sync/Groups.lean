import AccessSync.Sync.Listing
import AccessSync.Sync.RuleGrants
/-!
# Groups

Two things can be granted on a group: membership, which the group's own list of members holds, and
roles, which its rule set holds. The members are kept in the profile by their references.
-/

namespace AccessSync.Sync

def membersKey : String := "members"

def groupResource (g : Group) (parent : ResourceId) : Resource :=
  let own := (Resource.ofType .group (ResourceId.groupPath g.id (some parent))
    g.displayName).withParent (some parent)
  let told := ((own.withText "display_name" g.displayName).withText "group_id" g.id).keepPlace parent
  if g.members.isEmpty then told
  else told.withText membersKey (String.intercalate "," (g.members.map (·.reference)))

/-- Parent and id of the group that a resource is. -/
def groupOf (r : Resource) : Except ResourceFault (Option ResourceId × String) :=
  (ResourceId.ofPath r.id.resource).map fun (parent, group) => (parent, group.resource)

/-- The group as something that roles are granted on. -/
def groupTarget (groupId : String) : AccessTarget := .principal .group groupId

/-- The references of the members in a group's profile. -/
def memberReferences (r : Resource) : List String :=
  match r.profile.text? membersKey with
  | some text => ((Text.splitOn ',' text.toList).filter (· ≠ [])).map String.ofList
  | none => []

def groupEntitlements (c : Client) (r : Resource) : Call (SyncPage Entitlement) := do
  let member := r.displayName ++ " " ++ Entitlement.member
  let membership := (Entitlement.assignment r Entitlement.member).described member
    (member ++ " in Databricks")
  let (_, groupId) ← Call.ofExcept .resourceId (groupOf r)
  let (roles, rateLimit) ← c.listRoles (.ofParent r.parent) (groupTarget groupId)
  return .last (membership :: Client.rolePermissions r roles) rateLimit

/-- The grants of membership. -/
def memberGrants (c : Client) (r : Resource) : Call (List Grant) :=
  (memberReferences r).mapM fun reference => do
    let (kind, id) ← Call.ofExcept .principal (Member.readReference reference)
    return (← c.holder kind id).grant r Entitlement.member

def groupGrants (c : Client) (r : Resource) : Call (SyncPage Grant) := do
  let (_, groupId) ← Call.ofExcept .resourceId (groupOf r)
  let scope := Scope.ofParent r.parent
  let members ← memberGrants c r
  let (rules, rateLimit) ← c.listRules scope (groupTarget groupId)
  let roles ← c.entryGrants scope r (Rule.entries rules)
  return .last (members ++ roles) rateLimit

/-- Fetches a group, edits it and writes it back if it changed. -/
def editGroup (c : Client) (scope : Scope) (groupId : String) (edit : Group → Bool × Group) :
    Call Unit := do
  let (group, _) ← c.get .groups scope groupId
  match edit group with
  | (false, _) => return
  | (true, group) => do
    let _ ← c.put .groups scope group

/-- Changes who has an entitlement of a group: membership by editing the group, a role by editing
its rules. -/
def changeGroup (c : Client) (principal : ResourceId) (e : Entitlement)
    (editMembers : String → Group → Bool × Group)
    (editRules : Scope → AccessTarget → PrincipalName → Call Bool) : Call Unit := do
  let _ ← Call.ofExcept .principal (principal.requirePrincipal "group permissions")
  let (parent, groupId) ← Call.ofExcept .resourceId (groupOf e.resource)
  let scope := Scope.ofParent parent
  if e.slug = Entitlement.member then
    let memberId ← Call.ofExcept .resourceId principal.platformId
    editGroup c scope groupId (editMembers memberId)
  else
    let p ← c.nameOfResource scope principal
    let _ ← editRules scope (groupTarget groupId) p

def groups (c : Client) : Adapter where
  resourceType := .group
  list parent token := under parent fun parent => do
    let place ← resume token .group
    if token = "" then Call.perform .clearGroups
    listPage c .groups Query.groupAttributes groupResource parent place fun g r =>
      Call.perform (.writeGroup g.id r)
  entitlements resource _ := groupEntitlements c resource
  grants resource _ := groupGrants c resource
  grant principal e := changeGroup c principal e (fun id g => g.addMember id)
    fun scope target p => c.grantRole scope target (.exact e.slug) e.slug p
  revoke g := changeGroup c g.principal g.entitlement (fun id group => group.removeMember id)
    fun scope target p => c.revokeRole scope target (.exact g.entitlement.slug) p

end AccessSync.Sync
