import AccessSync.Proofs.Rule.RoleMatch
import AccessSync.Proofs.RuleSet.Serving
import AccessSync.Proofs.Sync.Holders
import AccessSync.Proofs.Sync.Place
import AccessSync.Sync.Account
import AccessSync.Sync.Groups
import AccessSync.Sync.ServicePrincipals
/-!
# Entitlements that are kept in rules

A `Keeping` says in which rules of which target an entitlement stands, and how these are listed as
grants. Three adapters have such entitlements (`KeptBy`). All three grant by one grant in the rules
(`GrantsBy`), and list what the entries of these come to (`ListsBy`).
-/

namespace AccessSync.Sync

/-- How an entitlement stands in rules. -/
structure Keeping where
  scope : Scope
  target : AccessTarget
  /-- The roles of the rules that it stands in. -/
  role : RoleMatch
  /-- The role of the rule that is made for it if there is none. -/
  newRole : String
  /-- Rules of that role are listed. -/
  isShown : String → Bool
  /-- The slug that rules of that role are listed under. -/
  slugOf : String → String

namespace Keeping

/-- The entries that are listed, with their slugs. -/
def entries (k : Keeping) (rules : List Rule) : List (String × String) :=
  (Rule.entries (rules.filter fun r => k.isShown r.role)).map fun (role, entry) => (k.slugOf role, entry)

theorem mem_entries {k : Keeping} {rules : List Rule} {x : String × String} :
    x ∈ k.entries rules ↔
      ∃ r ∈ rules, k.isShown r.role = true ∧ x.1 = k.slugOf r.role ∧ x.2 ∈ r.principals := by
  obtain ⟨slug, entry⟩ := x
  simp only [entries, Rule.entries, List.mem_map, List.mem_flatMap, List.mem_filter, Prod.mk.injEq]
  constructor
  · rintro ⟨_, ⟨r, ⟨hr, hshown⟩, entry', hentry, rfl⟩, rfl, rfl⟩
    exact ⟨r, hr, hshown, rfl, hentry⟩
  · rintro ⟨r, hr, hshown, rfl, hentry⟩
    exact ⟨(r.role, entry), ⟨r, ⟨hr, hshown⟩, entry, hentry, rfl⟩, rfl, rfl⟩

/-- Membership in the marketplace's administration, in whatever role names it. -/
def ofAccount : Keeping where
  scope := .account
  target := .account
  role := .containing marketplaceAdmin
  newRole := RoleMatch.qualify marketplaceAdmin
  isShown := (RoleMatch.containing marketplaceAdmin).accepts
  slugOf _ := marketplaceAdmin

/-- A role on a target; all roles are listed as they are written. -/
def ofRole (scope : Scope) (target : AccessTarget) (slug : String) : Keeping where
  scope := scope
  target := target
  role := .exact slug
  newRole := slug
  isShown _ := true
  slugOf role := role

theorem entries_ofRole (scope : Scope) (target : AccessTarget) (slug : String) (rules : List Rule) :
    (ofRole scope target slug).entries rules = Rule.entries rules := by
  simp [entries, ofRole]

end Keeping

/-- The adapter keeps the entitlement with that slug on that resource in rules. That of the account is
only there while its API accepts the credentials. -/
inductive KeptBy (c : Client) (available : Availability) : Adapter → Resource → String → Keeping → Prop
  | account {resource : Resource} : available.account = true →
      KeptBy c available (account c) resource marketplaceAdmin .ofAccount
  | group {g : Group} {parent : ResourceId} {slug : String} : slug ≠ Entitlement.member →
      (∀ reference ∈ memberReferences (groupResource g parent),
        ∃ member, Member.readReference reference = .ok member) →
      KeptBy c available (groups c) (groupResource g parent) slug
        (.ofRole (.ofParent (some parent)) (groupTarget g.id) slug)
  | servicePrincipal {s : ServicePrincipal} {parent : ResourceId} {slug : String} :
      KeptBy c available (servicePrincipals c) (servicePrincipalResource s parent) slug
        (.ofRole (.ofParent (some parent)) (.principal .servicePrincipal s.applicationId) slug)

section Kept
variable {c : Client} {available : Availability} {adapter : Adapter} {resource : Resource} {slug : String}
  {k : Keeping}

theorem KeptBy.accepts_newRole (h : KeptBy c available adapter resource slug k) :
    k.role.accepts k.newRole = true := by
  cases h with
  | account => exact RoleMatch.accepts_containing_qualify marketplaceAdmin
  | group | servicePrincipal => exact RoleMatch.accepts_exact_self slug

theorem KeptBy.slugOf_newRole (h : KeptBy c available adapter resource slug k) :
    k.slugOf k.newRole = slug := by
  cases h <;> rfl

theorem KeptBy.isShown_of_accepts (h : KeptBy c available adapter resource slug k) {role : String}
    (hrole : k.role.accepts role = true) : k.isShown role = true := by
  cases h with
  | account => exact hrole
  | group | servicePrincipal => rfl

end Kept

/-! ## Reading resources -/

theorem groupOf_groupResource {g : Group} {parent : ResourceId} {found : Option ResourceId × String}
    (h : groupOf (groupResource g parent) = .ok found) : found = (some parent, g.id) := by
  unfold groupOf at h
  rw [id_groupResource] at h
  cases hpath : ResourceId.ofPath (ResourceId.groupPath g.id (some parent)) with
  | error fault =>
    rw [ResourceId.ofType, hpath] at h
    cases h
  | ok read =>
    rw [ResourceId.ofType, hpath, ResourceId.ofPath_groupPath hpath] at h
    cases h
    rfl

theorem servicePrincipalTarget_resource (s : ServicePrincipal) (parent : ResourceId) :
    servicePrincipalTarget (servicePrincipalResource s parent) =
      .ok (.ofParent (some parent), .principal .servicePrincipal s.applicationId) := by
  have hid : applicationIdKey ≠ Profile.parentId := by decide
  have htype : applicationIdKey ≠ Profile.parentType := by decide
  have hname : applicationIdKey ≠ "display_name" := by decide
  unfold servicePrincipalTarget servicePrincipalResource
  dsimp only
  rw [scope_underAccount, scope_keepPlace, requireText_underAccount, Resource.keepPlace,
    requireText_withText, if_neg hid, requireText_withText, if_neg htype, requireText_withText,
    if_neg hname, requireText_withText, if_pos rfl]
  rfl

/-! ## Granting -/

section Calls
variable {σ : Type} {w : World σ} {c : Client} {available : Availability} {adapter : Adapter}
  {resource : Resource} {slug : String} {k : Keeping} {principal : ResourceId} {e : Entitlement}
  {stored : σ → List Rule} {st st' : Memory × σ}

/-- The calls that a grant is made of that went through. -/
def GrantsBy (w : World σ) (c : Client) (k : Keeping) (principal : ResourceId) (st st' : Memory × σ) :
    Prop :=
  ∃ p st₁ b, w.Ends (c.nameOfResource k.scope principal) st (.ok p) st₁ ∧
    w.Ends (c.grantRole k.scope k.target k.role k.newRole p) st₁ (.ok b) st'

theorem grantsBy_of_ends (h : w.Ends (do
      let p ← c.nameOfResource k.scope principal
      let _ ← c.grantRole k.scope k.target k.role k.newRole p) st (.ok ()) st') :
    GrantsBy w c k principal st st' := by
  obtain ⟨p, st₁, hname, hrest⟩ := World.ends_bind_ok.1 h
  obtain ⟨b, st₂, hgrant, hdone⟩ := World.ends_bind_ok.1 hrest
  obtain ⟨-, rfl⟩ := World.ends_pure.1 hdone
  exact ⟨p, st₁, b, hname, hgrant⟩

theorem account_grant_ok (hslug : e.slug = marketplaceAdmin)
    (h : w.Ends ((account c).grant principal e) st (.ok ()) st') :
    GrantsBy w c .ofAccount principal st st' := by
  apply grantsBy_of_ends
  unfold account at h
  dsimp only at h
  rw [hslug] at h
  exact h

theorem groups_grant_ok {g : Group} {parent : ResourceId} (hslug : e.slug ≠ Entitlement.member)
    (hresource : e.resource = groupResource g parent)
    (h : w.Ends ((groups c).grant principal e) st (.ok ()) st') :
    groupOf (groupResource g parent) = .ok (some parent, g.id) ∧
    GrantsBy w c (.ofRole (.ofParent (some parent)) (groupTarget g.id) e.slug) principal st st' := by
  obtain ⟨_, -, hrest⟩ := World.ends_ofExcept_bind_ok.1 h
  obtain ⟨found, hgroup, hchange⟩ := World.ends_ofExcept_bind_ok.1 hrest
  rw [hresource] at hgroup
  obtain rfl := groupOf_groupResource hgroup
  refine ⟨hgroup, ?_⟩
  dsimp only at hchange
  rw [if_neg hslug] at hchange
  exact grantsBy_of_ends hchange

theorem servicePrincipals_grant_ok {s : ServicePrincipal} {parent : ResourceId}
    (hresource : e.resource = servicePrincipalResource s parent)
    (h : w.Ends ((servicePrincipals c).grant principal e) st (.ok ()) st') :
    GrantsBy w c (.ofRole (.ofParent (some parent)) (.principal .servicePrincipal s.applicationId) e.slug)
      principal st st' := by
  obtain ⟨_, -, hrest⟩ := World.ends_ofExcept_bind_ok.1 h
  obtain ⟨found, htarget, hchange⟩ := World.ends_ofExcept_bind_ok.1 hrest
  rw [hresource, servicePrincipalTarget_resource] at htarget
  cases htarget
  exact grantsBy_of_ends hchange

/-! ## Listing -/

/-- The grants that the rules hold, behind others. -/
def keptGrants (c : Client) (k : Keeping) (resource : Resource) (others : List Grant) :
    Call (SyncPage Grant) := do
  let (rules, rateLimit) ← c.listRules k.scope k.target
  return .last (others ++ (← c.entryGrants k.scope resource (k.entries rules))) rateLimit

/-- A listing of the resource's grants ends as that of the rules does. -/
def ListsBy (w : World σ) (c : Client) (k : Keeping) (adapter : Adapter) (resource : Resource)
    (token : String) (st : Memory × σ) : Prop :=
  ∃ others, ∀ r st', w.Ends (keptGrants c k resource others) st r st' →
    w.Ends (adapter.grants resource token) st r st'

/-- Such a listing comes to what the entries of the stored rules come to, once they are read. -/
theorem ListsBy.of_entries {token : String} (h : ListsBy w c k adapter resource token st)
    (hrules : w.KeepsRules c k.scope k.target stored) : ∃ st₁, World.Keeps stored st st₁ ∧
    (∀ gs st', w.Ends (c.entryGrants k.scope resource (k.entries (stored st.2))) st₁ (.ok gs) st' →
      ∃ page, w.Ends (adapter.grants resource token) st (.ok page) st' ∧ ∀ g ∈ gs, g ∈ page.items) ∧
    ∀ h st', w.Ends (c.entryGrants k.scope resource (k.entries (stored st.2))) st₁ (.error h) st' →
      w.Ends (adapter.grants resource token) st (.error h) st' := by
  obtain ⟨others, hlists⟩ := h
  obtain ⟨rateLimit, st₁, hlist, hkeeps⟩ := Client.listRules_ends hrules st
  refine ⟨st₁, hkeeps, ?_, ?_⟩
  · intro gs st' hends
    refine ⟨.last (others ++ gs) rateLimit, hlists _ _ ?_, fun g hg => List.mem_append_right _ hg⟩
    exact hlist.bind_iff.2 (hends.bind_iff.2 (World.ends_pure.2 ⟨rfl, rfl⟩))
  · intro e st' hends
    exact hlists _ _ (hlist.bind_iff.2 hends.bind_error)

theorem account_lists (havailable : st.1.availability.account = true) (token : String) :
    ListsBy w c .ofAccount (account c) resource token st := by
  have hthere : w.Ends accountAvailable st (.ok true) st := by
    refine World.ends_perform_bind.2 (World.ends_pure.2 ⟨?_, rfl⟩)
    exact congrArg Except.ok havailable.symm
  exact ⟨[], fun r st' h => hthere.bind_iff.2 h⟩

/-- The grants of membership can be listed if every member can be told. -/
theorem memberGrants_ends (hmembers : ∀ reference ∈ memberReferences resource,
      ∃ member, Member.readReference reference = .ok member) (st : Memory × σ) :
    ∃ gs, w.Ends (memberGrants c resource) st (.ok gs) st := by
  have hmember : ∀ reference ∈ memberReferences resource, ∀ st₁, st₁ = st → ∃ g st₂,
      w.Ends (do
        let x ← Call.ofExcept .principal (Member.readReference reference)
        return (← c.holder x.1 x.2).grant resource Entitlement.member) st₁ (.ok g) st₂ ∧
      True ∧ st₂ = st := by
    intro reference hreference st₁ hst
    rw [hst]
    obtain ⟨⟨kind, id⟩, hread⟩ := hmembers reference hreference
    refine ⟨(c.holderAmong st.1.groups kind id).grant resource Entitlement.member, st, ?_, trivial, rfl⟩
    refine World.ends_ofExcept_bind_ok.2 ⟨(kind, id), hread, ?_⟩
    exact (Client.holder_ends c kind id st).bind_iff.2 (World.ends_pure.2 ⟨rfl, rfl⟩)
  obtain ⟨gs, st', hends, -, rfl⟩ := World.ends_mapM hmember rfl
  exact ⟨gs, hends⟩

theorem groups_lists {g : Group} {parent : ResourceId}
    (hgroup : groupOf (groupResource g parent) = .ok (some parent, g.id))
    (hmembers : ∀ reference ∈ memberReferences (groupResource g parent),
      ∃ member, Member.readReference reference = .ok member) (slug token : String) (st : Memory × σ) :
    ListsBy w c (.ofRole (.ofParent (some parent)) (groupTarget g.id) slug) (groups c)
      (groupResource g parent) token st := by
  obtain ⟨members, hmember⟩ := memberGrants_ends hmembers st
  have hread : w.Ends (Call.ofExcept Error.resourceId (groupOf (groupResource g parent))) st
      (.ok (some parent, g.id)) st := World.ends_ofExcept_ok.2 ⟨hgroup, rfl⟩
  refine ⟨members, ?_⟩
  intro r st' h
  simp only [keptGrants, Keeping.entries_ofRole] at h
  refine hread.bind_iff.2 (hmember.bind_iff.2 ?_)
  rw [parent_groupResource]
  exact h

theorem servicePrincipals_lists (s : ServicePrincipal) (parent : ResourceId) (slug token : String)
    (st : Memory × σ) :
    ListsBy w c (.ofRole (.ofParent (some parent)) (.principal .servicePrincipal s.applicationId) slug)
      (servicePrincipals c) (servicePrincipalResource s parent) token st := by
  have hread : w.Ends (Call.ofExcept Error.resourceId
      (servicePrincipalTarget (servicePrincipalResource s parent))) st
      (.ok (.ofParent (some parent), .principal .servicePrincipal s.applicationId)) st :=
    World.ends_ofExcept_ok.2 ⟨servicePrincipalTarget_resource s parent, rfl⟩
  refine ⟨[], ?_⟩
  intro r st' h
  simp only [keptGrants, Keeping.entries_ofRole] at h
  exact hread.bind_iff.2 h

end Calls

end AccessSync.Sync
