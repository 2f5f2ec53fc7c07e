import AccessSync.Client.Principals
import AccessSync.Resource.Entitlement
/-!
# Holders of grants

The host knows principals as resources, the APIs know them by ids and rules by names. A group's
resource names its parent; groups that were listed are looked up among those, and all others are
taken to belong to the account, where they are listed. A grant to a group extends to its members.
-/

namespace AccessSync

namespace ResourceId

/-- The kind of a principal that a right is granted to. -/
def requirePrincipal (r : ResourceId) (right : String) : Except PrincipalFault PrincipalKind :=
  match r.principalKind? with
  | some kind => .ok kind
  | none => .error (.notGrantable right)

/-- The id that the platform gave a principal. -/
def platformId (r : ResourceId) : Except ResourceFault String :=
  if r.isA .group ∧ '/' ∈ r.resource.toList then
    (ofPath r.resource).map fun (_, group) => group.resource
  else .ok r.resource

end ResourceId

/-- Whom a grant goes to, and the entitlements whose holders have it too. -/
structure Holder where
  resource : ResourceId
  expandable : Option (List String)
  deriving DecidableEq, Repr

namespace Client

/-- The account as a resource. -/
def accountResource (c : Client) : ResourceId := .ofType .account c.accountId

/-- A group as a holder; its members hold what it holds. -/
def groupHolder (c : Client) (groupId : String) : Call Holder := do
  let resource := match ← Call.perform (.readGroup groupId) with
    | some group => group.id
    | none => .ofType .group (ResourceId.groupPath groupId (some c.accountResource))
  return ⟨resource, some [Entitlement.idOf resource Entitlement.member]⟩

/-- The principal of that kind and id as a holder. -/
def holder (c : Client) (kind : PrincipalKind) (id : String) : Call Holder :=
  match kind with
  | .group => c.groupHolder id
  | .user => pure ⟨.ofType .user id, none⟩
  | .servicePrincipal => pure ⟨.ofType .servicePrincipal id, none⟩

/-- The holder that a rule names. -/
def holderOfEntry (c : Client) (scope : Scope) (entry : String) : Call Holder := do
  let p ← Call.ofExcept .principal (PrincipalName.parse entry)
  let id ← c.idOfName scope p
  c.holder p.kind id

/-- The name by which rules know a principal that the host hands in. -/
def nameOfResource (c : Client) (scope : Scope) (r : ResourceId) : Call PrincipalName := do
  let kind ← Call.ofExcept .principal (r.requirePrincipal "rule-set roles")
  let id ← Call.ofExcept .resourceId r.platformId
  c.nameOfId scope kind id

end Client

/-- The grant of a slug to a holder. -/
def Holder.grant (h : Holder) (resource : Resource) (slug : String) : Grant :=
  .ofSlug resource slug h.resource h.expandable

end AccessSync
