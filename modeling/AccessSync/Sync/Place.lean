import AccessSync.Resource.Basic
import AccessSync.Scope
/-!
# Places of resources

The API that knows a resource is told by the resource's parent. Where a resource is listed the parent
is at hand; later it is read from the profile, where `keepPlace` put it.
-/

namespace AccessSync

/-- The scope of resources under a parent: a workspace is its own, all else belongs to the
account. -/
def Scope.ofParent : Option ResourceId → Scope
  | some p => if p.isA .workspace then .workspace p.resource else .account
  | none => .account

namespace Profile

def parentType : String := "parent_type"

def parentId : String := "parent_id"

end Profile

namespace Resource

/-- The resource with its parent in its profile. -/
def keepPlace (r : Resource) (parent : ResourceId) : Resource :=
  (r.withText Profile.parentType parent.resourceType).withText Profile.parentId parent.resource

/-- The scope that the profile tells. -/
def scope (r : Resource) : Except ResourceFault Scope := do
  let parentType ← r.requireText Profile.parentType
  let parentId ← r.requireText Profile.parentId
  return .ofParent (some ⟨parentType, parentId⟩)

/-- The resource with a parent that is the account; it is listed under workspaces too and is the
same there. -/
def underAccount (r : Resource) (parent : ResourceId) : Resource :=
  if parent.isA .account then r.withParent (some parent) else r

end Resource

end AccessSync
