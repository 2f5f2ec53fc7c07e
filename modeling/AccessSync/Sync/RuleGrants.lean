import AccessSync.Client.Rules
import AccessSync.Sync.Adapter
import AccessSync.Sync.Holder
/-!
# Grants by rules

Roles on the account, a group or a service principal stand in the rule set of the target. Each entry
of a rule is a grant.
-/

namespace AccessSync

namespace Rule

/-- Role and entry of every entry of the rules. -/
def entries (rules : List Rule) : List (String × String) :=
  rules.flatMap fun r => r.principals.map fun entry => (r.role, entry)

end Rule

namespace Client

/-- The grants that entries with their slugs stand for. -/
def entryGrants (c : Client) (scope : Scope) (resource : Resource)
    (entries : List (String × String)) : Call (List Grant) :=
  entries.mapM fun (slug, entry) => do
    return (← c.holderOfEntry scope entry).grant resource slug

/-- The permissions that the roles of a target are. -/
def rolePermissions (resource : Resource) (roles : List Role) : List Entitlement :=
  roles.map fun r =>
    (Entitlement.permission resource r.name).described (r.name ++ " role")
      (r.name ++ " role in Databricks")

end Client

end AccessSync
