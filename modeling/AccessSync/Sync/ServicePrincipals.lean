import AccessSync.Sync.Listing
import AccessSync.Sync.RuleGrants
/-!
# Service principals

The roles on a service principal stand in its rule set, which is named by the application id and not
by the id that the platform gave; the profile keeps it.
-/

namespace AccessSync.Sync

def applicationIdKey : String := "application_id"

def servicePrincipalResource (s : ServicePrincipal) (parent : ResourceId) : Resource :=
  let own := Resource.ofType .servicePrincipal s.id s.displayName
  let told := (own.withText applicationIdKey s.applicationId).withText "display_name" s.displayName
  (told.keepPlace parent).underAccount parent

/-- The scope of a service principal and what its roles are granted on. -/
def servicePrincipalTarget (r : Resource) : Except ResourceFault (Scope × AccessTarget) := do
  let scope ← r.scope
  let applicationId ← r.requireText applicationIdKey
  return (scope, .principal .servicePrincipal applicationId)

def servicePrincipalEntitlements (c : Client) (r : Resource) : Call (SyncPage Entitlement) := do
  let (scope, target) ← Call.ofExcept .resourceId (servicePrincipalTarget r)
  let (roles, rateLimit) ← c.listRoles scope target
  return .last (Client.rolePermissions r roles) rateLimit

def servicePrincipalGrants (c : Client) (r : Resource) : Call (SyncPage Grant) := do
  let (scope, target) ← Call.ofExcept .resourceId (servicePrincipalTarget r)
  let (rules, rateLimit) ← c.listRules scope target
  return .last (← c.entryGrants scope r (Rule.entries rules)) rateLimit

/-- Changes who has a role on a service principal. -/
def changeServicePrincipal (c : Client) (principal : ResourceId) (e : Entitlement)
    (editRules : Scope → AccessTarget → PrincipalName → Call Bool) : Call Unit := do
  let _ ← Call.ofExcept .principal (principal.requirePrincipal "service principal permissions")
  let (scope, target) ← Call.ofExcept .resourceId (servicePrincipalTarget e.resource)
  let p ← c.nameOfResource scope principal
  let _ ← editRules scope target p

def servicePrincipals (c : Client) : Adapter where
  resourceType := .servicePrincipal
  list parent token := under parent fun parent => do
    let place ← resume token .servicePrincipal
    listPage c .servicePrincipals Query.servicePrincipalAttributes servicePrincipalResource parent
      place fun _ _ => pure ()
  entitlements resource _ := servicePrincipalEntitlements c resource
  grants resource _ := servicePrincipalGrants c resource
  grant principal e := changeServicePrincipal c principal e
    fun scope target p => c.grantRole scope target (.exact e.slug) e.slug p
  revoke g := changeServicePrincipal c g.principal g.entitlement
    fun scope target p => c.revokeRole scope target (.exact g.entitlement.slug) p

end AccessSync.Sync
