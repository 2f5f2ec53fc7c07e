import AccessSync.Client.Basic
import AccessSync.Rule.Edit
/-!
# Rule sets of a client

A rule set is replaced as a whole, so a change reads the rules, edits them and writes them back
together with the version that the API last told. A write in between makes that version an old one,
and the API refuses it.
-/

namespace AccessSync

/-- What roles are granted on. -/
inductive AccessTarget where
  | account
  /-- A group by its id, a service principal by its application id. -/
  | principal (kind : PrincipalKind) (id : String)
  deriving DecidableEq, Repr

namespace AccessTarget

/-- The target as a path, without empty segments. -/
def resourceName (t : AccessTarget) (accountId : String) : String :=
  let parts := match t with
    | .account => ["accounts", accountId]
    | .principal kind id => ["accounts", accountId, kind.word, id]
  String.intercalate "/" (parts.filter (· ≠ ""))

/-- The name of the target's rule set. -/
def ruleSetName (t : AccessTarget) (accountId : String) : String :=
  t.resourceName accountId ++ "/ruleSets/default"

end AccessTarget

namespace Client

def readRoles (v : Json) : Option (List Role) := do
  let r ← v.record? ["roles"]
  r.field "roles" [] (Json.list? Role.read)

/-- Lists the roles that can be granted on a target. -/
def listRoles (c : Client) (scope : Scope) (target : AccessTarget) :
    Call (List Role × Http.RateLimit) :=
  c.exchange readRoles .get scope (c.resolver.resolve .roles scope) none
    [.resource (target.resourceName c.accountId)]

/-- The rules of a set and its version. -/
def readRuleSet (v : Json) : Option (List Rule × String) := do
  let r ← v.record? ["grant_rules", "etag"]
  let rules ← r.field "grant_rules" [] (Json.list? Rule.read)
  let etag ← r.field "etag" "" Json.string?
  return (rules, etag)

/-- The version of a rule set that was told last; empty if none was. -/
def lastEtag (name : String) : Call String := do
  return (← Call.perform (.readEtag name)).getD ""

/-- Lists the rules of a target and remembers their version. -/
def listRules (c : Client) (scope : Scope) (target : AccessTarget) :
    Call (List Rule × Http.RateLimit) := do
  let url ← Call.ofExcept id (c.resolver.resolve .ruleSets scope)
  let name := target.ruleSetName c.accountId
  let etag ← lastEtag name
  let ((rules, etag), rateLimit) ← c.exchange readRuleSet .get scope (.ok url) none
    [.ruleSet name etag]
  Call.perform (.writeEtag name etag)
  return (rules, rateLimit)

/-- A rule set as it is written. -/
def ruleSetToJson (name etag : String) (rules : List Rule) : Json :=
  .object [("name", .string name),
    ("rule_set", .object [("name", .string name), ("etag", .string etag),
      ("grant_rules", Json.ofList Rule.toJson rules)])]

/-- Replaces the rules of a target and remembers the new version, if it is told. -/
def putRules (c : Client) (scope : Scope) (target : AccessTarget) (rules : List Rule) :
    Call Http.RateLimit := do
  let url ← Call.ofExcept id (c.resolver.resolve .ruleSets scope)
  let name := target.ruleSetName c.accountId
  let etag ← lastEtag name
  let (written, rateLimit) ← c.exchange (Json.nullable? readRuleSet) .put scope (.ok url)
    (some (ruleSetToJson name etag rules)) [.ruleSet name etag]
  match written with
  | some (_, etag) => if etag ≠ "" then Call.perform (.writeEtag name etag)
  | none => pure ()
  return rateLimit

/-- Reads the rules of a target, edits them and writes them back if they changed. Says whether they
did. -/
def editRules (c : Client) (scope : Scope) (target : AccessTarget)
    (edit : List Rule → Bool × List Rule) : Call Bool := do
  let (rules, _) ← c.listRules scope target
  match edit rules with
  | (false, _) => return false
  | (true, rules) => do
    let _ ← c.putRules scope target rules
    return true

/-- Grants a role on a target. -/
def grantRole (c : Client) (scope : Scope) (target : AccessTarget) (role : RoleMatch)
    (newRole : String) (p : PrincipalName) : Call Bool :=
  c.editRules scope target (Rule.grant role newRole p)

/-- Revokes a role on a target. -/
def revokeRole (c : Client) (scope : Scope) (target : AccessTarget) (role : RoleMatch)
    (p : PrincipalName) : Call Bool :=
  c.editRules scope target (Rule.revoke role p)

end Client

end AccessSync
