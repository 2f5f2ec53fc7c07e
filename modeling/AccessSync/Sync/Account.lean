import AccessSync.Sync.RuleGrants
/-!
# The account

The root of all resources. Who administers the marketplace is granted on the account itself.
-/

namespace AccessSync.Sync

def marketplaceAdmin : String := "marketplace.admin"

/-- The account's API accepts the credentials. -/
def accountAvailable : Call Bool := do return (← Call.perform .readAvailability).account

/-- The account, with the types that can be listed under it. -/
def accountResource (accountId : String) (available : Bool) : Resource :=
  let own := (Resource.ofType .account accountId accountId).withChildType .workspace
  if available then
    [ResourceType.user, .group, .servicePrincipal, .role].foldl Resource.withChildType own
  else own

def accountEntitlements (resource : Resource) : Call (SyncPage Entitlement) := do
  if ← accountAvailable then
    let name := resource.displayName ++ " " ++ marketplaceAdmin ++ " role"
    return .only [(Entitlement.permission resource marketplaceAdmin).described name
      (name ++ " in Databricks")]
  else return .empty

def accountGrants (c : Client) (resource : Resource) : Call (SyncPage Grant) := do
  if ← accountAvailable then
    let (rules, rateLimit) ← c.listRules .account .account
    let matching := rules.filter fun r => (RoleMatch.containing marketplaceAdmin).accepts r.role
    let entries := (Rule.entries matching).map fun (_, entry) => (marketplaceAdmin, entry)
    return .last (← c.entryGrants .account resource entries) rateLimit
  else return .empty

def account (c : Client) : Adapter where
  resourceType := .account
  list _ _ := do return .only [accountResource c.accountId (← accountAvailable)]
  entitlements resource _ := accountEntitlements resource
  grants resource _ := accountGrants c resource
  grant principal entitlement := do
    let p ← c.nameOfResource .account principal
    let slug := entitlement.slug
    let _ ← c.grantRole .account .account (.containing slug) (RoleMatch.qualify slug) p
  revoke grant := do
    let p ← c.nameOfResource .account grant.principal
    let _ ← c.revokeRole .account .account (.containing grant.entitlement.slug) p

end AccessSync.Sync
