import AccessSync.Http.RateLimit
import AccessSync.Program
import AccessSync.Resource.Entitlement
/-!
# Adapters

An adapter presents one type of resource to the host: it lists resources, what can be granted on
them and who has it, page by page, and it grants and revokes.
-/

namespace AccessSync

/-- One page of what an adapter lists. -/
structure SyncPage (α : Type) where
  items : List α
  /-- Where the next page starts; empty if this is the last one. -/
  nextToken : String
  rateLimit : Option Http.RateLimit

namespace SyncPage

variable {α : Type}

def empty : SyncPage α := ⟨[], "", none⟩

/-- The only page, of which no reply told anything. -/
def only (items : List α) : SyncPage α := ⟨items, "", none⟩

/-- The last page. -/
def last (items : List α) (rateLimit : Http.RateLimit) : SyncPage α :=
  ⟨items, "", some rateLimit⟩

end SyncPage

structure Adapter where
  resourceType : ResourceType
  /-- The resources under a parent. -/
  list : (parent : Option ResourceId) → (token : String) → Call (SyncPage Resource)
  /-- What can be granted on a resource. -/
  entitlements : Resource → (token : String) → Call (SyncPage Entitlement)
  /-- What is granted on a resource. -/
  grants : Resource → (token : String) → Call (SyncPage Grant)
  grant : (principal : ResourceId) → Entitlement → Call Unit
  revoke : Grant → Call Unit

end AccessSync
