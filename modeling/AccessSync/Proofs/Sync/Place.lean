import AccessSync.Sync.Place
import Mathlib.Tactic.Common
/-!
# Places that were kept

The texts of a profile are those that were put there last, and a resource that keeps its place has the
scope of its parent: `scope_keepPlace`.
-/

namespace AccessSync.Sync

theorem text?_withText (r : Resource) (key value other : String) :
    (r.withText key value).profile.text? other = if other = key then some value else r.profile.text? other := by
  unfold Profile.text?
  rw [Resource.withText, Resource.withProfile, Store.get?_put]
  split_ifs <;> rfl

theorem requireText_withText (r : Resource) (key value other : String) :
    (r.withText key value).requireText other = if other = key then .ok value else r.requireText other := by
  unfold Resource.requireText
  rw [text?_withText]
  split_ifs <;> rfl

/-- Keeping the place puts nothing else into the profile. -/
theorem text?_keepPlace (r : Resource) (parent : ResourceId) {key : String} (htype : key ≠ Profile.parentType)
    (hid : key ≠ Profile.parentId) : (r.keepPlace parent).profile.text? key = r.profile.text? key := by
  rw [Resource.keepPlace, text?_withText, if_neg hid, text?_withText, if_neg htype]

/-- The scope that a profile tells is that of the parent it was given. -/
theorem scope_keepPlace (r : Resource) (parent : ResourceId) :
    (r.keepPlace parent).scope = .ok (.ofParent (some parent)) := by
  have hne : Profile.parentType ≠ Profile.parentId := by decide
  unfold Resource.scope
  rw [Resource.keepPlace, requireText_withText, if_neg hne, requireText_withText, if_pos rfl,
    requireText_withText, if_pos rfl]
  rfl

theorem requireText_underAccount (r : Resource) (parent : ResourceId) (key : String) :
    (r.underAccount parent).requireText key = r.requireText key := by
  unfold Resource.underAccount
  split_ifs <;> rfl

theorem scope_underAccount (r : Resource) (parent : ResourceId) :
    (r.underAccount parent).scope = r.scope := by
  unfold Resource.scope
  rw [requireText_underAccount, requireText_underAccount]

end AccessSync.Sync
