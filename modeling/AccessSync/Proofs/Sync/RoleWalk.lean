import AccessSync.Proofs.Sync.Holders
import AccessSync.Proofs.Sync.Paging
import AccessSync.Proofs.Sync.Place
import AccessSync.Sync.Roles
/-!
# The walk for a role is complete

The grants of a role are found by a walk through all service principals, then all groups and then all
users. Each part of the walk is a listing that the peer serves page by page (`WalksPart`), and its last
page leads to the frame of the next part. `role_walk_is_complete` says that the walk ends and has one
grant for each principal that holds the role, in the order of the parts and of the collections.
-/

namespace AccessSync.Sync

variable {α β σ : Type} {w : World σ} {c : Client} {parent : ResourceId} {stored : σ → β}
  {role : Resource} {name : String} {st st₁ st' : Memory × σ}

/-! ## Roles that are listed -/

theorem requireText_roleResource (name : String) (parent : ResourceId) :
    (roleResource name parent).requireText roleNameKey = .ok name := by
  have htype : roleNameKey ≠ Profile.parentType := by decide
  have hid : roleNameKey ≠ Profile.parentId := by decide
  unfold roleResource
  dsimp only
  rw [Resource.keepPlace, requireText_withText, if_neg hid, requireText_withText, if_neg htype,
    requireText_withText, if_pos rfl]

theorem scope_roleResource (name : String) (parent : ResourceId) :
    (roleResource name parent).scope = .ok (.ofParent (some parent)) :=
  scope_keepPlace _ parent

theorem mem_listed_roles {token : String} {page : SyncPage Resource}
    (h : w.Ends ((roles c).list (some parent) token) st (.ok page) st') (hrole : role ∈ page.items) :
    ∃ name ∈ rolesUnder parent, role = roleResource name parent := by
  obtain ⟨hpage, -⟩ := World.ends_pure.1 h
  cases hpage
  obtain ⟨name, hname, hrole⟩ := List.mem_map.1 hrole
  exact ⟨name, hname, hrole.symm⟩

/-- Whoever has these permissions holds the role of that name: under the account it is among the roles, in
a workspace among the entitlements. -/
def holdsRole (parent : ResourceId) (name : String) (p : Permissions) : Bool :=
  if parent.isA .workspace then name ∈ p.entitlements else name ∈ p.roles

theorem contains_ofParent (parent : ResourceId) (name : String) (p : Permissions) :
    p.contains (.ofScope (.ofParent (some parent))) name = holdsRole parent name p := by
  unfold holdsRole Scope.ofParent
  dsimp only
  split_ifs <;> rfl

/-- The grants of the role to those of a kind that hold it, one for each. -/
def memberGrantsTo (c : Client) (groups : Store Resource) (role : Resource) (kind : PrincipalKind)
    (d : Directory α) (holds : α → Bool) (xs : List α) : List Grant :=
  (xs.filter holds).map fun a => (c.holderAmong groups kind (d.id a)).grant role Entitlement.member

theorem memberGrantsTo_append (c : Client) (groups : Store Resource) (role : Resource)
    (kind : PrincipalKind) (d : Directory α) (holds : α → Bool) (xs ys : List α) :
    memberGrantsTo c groups role kind d holds (xs ++ ys) =
      memberGrantsTo c groups role kind d holds xs ++ memberGrantsTo c groups role kind d holds ys := by
  rw [memberGrantsTo, List.filter_append, List.map_append]
  rfl

/-! ## One page of a part -/

/-- The part of the walk whose frames have type `t` finds those that hold the role among the objects of a
directory. -/
def WalksPart (w : World σ) (c : Client) (parent : ResourceId) (role : Resource) (name : String)
    (t : ResourceType) (kind : PrincipalKind) (d : Directory α) (attributes : List String)
    (holds : α → Bool) : Prop :=
  ∀ text below start st listing st₁ stack,
    w.Ends (c.list d (.ofParent (some parent)) (windowTerms start attributes)) st (.ok listing) st₁ →
    (PageStack.ofFrames (⟨text, t.id, ""⟩ :: below)).advance (nextOf start listing) = .ok stack →
    w.Ends (walk c role (.ofParent (some parent)) name ⟨.ofFrames (⟨text, t.id, ""⟩ :: below), start⟩) st
      (.ok (memberGrantsTo c st₁.1.groups role kind d holds listing.items, stack)) st₁

theorem pageGrants_ends {d : Directory α} {attributes : List String} {scope : Scope} {start : UInt32}
    {holds : α → Bool} {listing : Listing α} (kind : PrincipalKind)
    (h : w.Ends (c.list d scope (windowTerms start attributes)) st (.ok listing) st₁) :
    w.Ends (pageGrants c d attributes scope start holds fun a => do
        return (← c.holder kind (d.id a)).grant role Entitlement.member) st
      (.ok (memberGrantsTo c st₁.1.groups role kind d holds listing.items, nextOf start listing)) st₁ := by
  have hgrant : ∀ a, w.Ends (do return (← c.holder kind (d.id a)).grant role Entitlement.member) st₁
      (.ok ((c.holderAmong st₁.1.groups kind (d.id a)).grant role Entitlement.member)) st₁ :=
    fun a => (Client.holder_ends c kind (d.id a) st₁).bind_iff.2 (World.ends_pure.2 ⟨rfl, rfl⟩)
  have hgrants := World.ends_mapM_const hgrant (listing.items.filter holds)
  exact h.bind_iff.2 (hgrants.bind_iff.2 (World.ends_pure.2 ⟨rfl, rfl⟩))

theorem users_walksPart : WalksPart w c parent role name .user .user .users Query.userRoleAttributes
    fun u => holdsRole parent name u.permissions := by
  intro text below start st listing st₁ stack hlist hadvance
  simp only [← contains_ofParent]
  have hmoved : w.Ends (Call.ofExcept Error.pageToken _) st₁ (.ok stack) st₁ :=
    World.ends_ofExcept_ok.2 ⟨hadvance, rfl⟩
  exact (pageGrants_ends .user hlist).bind_iff.2 (hmoved.bind_iff.2 (World.ends_pure.2 ⟨rfl, rfl⟩))

theorem groups_walksPart : WalksPart w c parent role name .group .group .groups Query.groupRoleAttributes
    fun g => g.isAccountGroup && holdsRole parent name g.permissions := by
  intro text below start st listing st₁ stack hlist hadvance
  simp only [← contains_ofParent]
  have hmoved : w.Ends (Call.ofExcept Error.pageToken _) st₁ (.ok stack) st₁ :=
    World.ends_ofExcept_ok.2 ⟨hadvance, rfl⟩
  exact (pageGrants_ends .group hlist).bind_iff.2 (hmoved.bind_iff.2 (World.ends_pure.2 ⟨rfl, rfl⟩))

theorem servicePrincipals_walksPart : WalksPart w c parent role name .servicePrincipal .servicePrincipal
    .servicePrincipals Query.servicePrincipalRoleAttributes
    fun s => holdsRole parent name s.permissions := by
  intro text below start st listing st₁ stack hlist hadvance
  simp only [← contains_ofParent]
  have hmoved : w.Ends (Call.ofExcept Error.pageToken _) st₁ (.ok stack) st₁ :=
    World.ends_ofExcept_ok.2 ⟨hadvance, rfl⟩
  exact (pageGrants_ends .servicePrincipal hlist).bind_iff.2
    (hmoved.bind_iff.2 (World.ends_pure.2 ⟨rfl, rfl⟩))

/-- A page of the walk for a role that was listed is a page of the part that its token leads to. -/
theorem roleGrants_ends {token : String} {stack stack' : PageStack} {start : UInt32} {grants : List Grant}
    (hresume : PageStack.resume token ResourceType.role.id = .ok (stack, start))
    (hwalk : w.Ends (walk c (roleResource name parent) (.ofParent (some parent)) name ⟨stack, start⟩) st
      (.ok (grants, stack')) st') :
    w.Ends ((roles c).grants (roleResource name parent) token) st (.ok ⟨grants, stack'.token, none⟩) st' := by
  refine World.ends_ofExcept_bind_ok.2 ⟨_, scope_roleResource name parent, ?_⟩
  refine World.ends_ofExcept_bind_ok.2 ⟨_, requireText_roleResource name parent, ?_⟩
  refine World.ends_ofExcept_bind_ok.2 ⟨⟨stack, start⟩, ?_, ?_⟩
  · rw [hresume]
    rfl
  · exact hwalk.bind_iff.2 (World.ends_pure.2 ⟨rfl, rfl⟩)

/-! ## A whole part -/

section Part
variable {t : ResourceType} {kind : PrincipalKind} {d : Directory α} {attributes : List String}
  {holds : α → Bool} {objects : β → List α} {begun : Memory × σ} {below : List PageFrame}
  {rest : List α} {token : String}

/-- The page of the token begins with the rest of a collection, above those frames; nothing has changed
since the walk began. -/
def PartLeft (t : ResourceType) (below : List PageFrame) (stored : σ → β) (objects : β → List α)
    (begun : Memory × σ) (rest : List α) (token : String) (st : Memory × σ) : Prop :=
  World.Keeps stored begun st ∧ ∃ before, objects (stored begun.2) = before ++ rest ∧
    PageStack.LeadsTo token ResourceType.role.id t.id below (before.length + 1)

/-- A page has the grants to the first of the rest and leads to those behind it, or to the next part. -/
theorem WalksPart.step (h : WalksPart w c parent (roleResource name parent) name t kind d attributes holds)
    (hsigns : w.Signs c.credentials (.ofParent (some parent)) stored)
    (hpages : w.Pages c (.ofParent (some parent)) stored d attributes objects)
    (hfew : (objects (stored begun.2)).length < Nat.pow 2 32 - 1)
    (hleft : PartLeft t below stored objects begun rest token st) :
    ∃ now later page st', rest = now ++ later ∧
      w.Ends ((roles c).grants (roleResource name parent) token) st (.ok page) st' ∧
      page.items = memberGrantsTo c begun.1.groups (roleResource name parent) kind d holds now ∧
      (later = [] ∧ page.nextToken = (PageStack.ofFrames below).token ∧ World.Keeps stored begun st' ∨
        now ≠ [] ∧ page.nextToken ≠ "" ∧
          PartLeft t below stored objects begun later page.nextToken st') := by
  obtain ⟨hkeeps, before, hall, text, hresume⟩ := hleft
  obtain ⟨now, later, listing, st₁, rfl, hends, hkeeps', hitems, hnext⟩ :=
    Client.page_ends hsigns hpages (hkeeps.stored ▸ hall) (hkeeps.stored ▸ hfew)
  have hadvance := PageStack.advance_cons (nextOf (UInt32.ofNat (before.length + 1)) listing)
    ⟨text, t.id, ""⟩ below
  have hpage := roleGrants_ends hresume (h text below _ st listing st₁ _ hends hadvance)
  have hsame := hkeeps.trans hkeeps'
  refine ⟨now, later, _, st₁, rfl, hpage, ?_, ?_⟩
  · rw [hitems, hsame.groups]
  rw [← List.append_assoc] at hall
  dsimp only
  rcases hnext with ⟨rfl, hnext⟩ | ⟨hnow, hposition, hnext⟩
  · rw [hnext]
    exact .inl ⟨rfl, rfl, hsame⟩
  · rw [hnext]
    refine .inr ⟨hnow, ?_, hsame, before ++ now, hall, ?_⟩
    · exact PageStack.token_advanceHead_ne_empty _ _ below
    · exact PageStack.leadsTo_advanceHead hposition text _ t.id below

/-- A part of the walk has a grant for each that holds the role, and then the walk goes on. -/
theorem WalksPart.walk (h : WalksPart w c parent (roleResource name parent) name t kind d attributes holds)
    (hsigns : w.Signs c.credentials (.ofParent (some parent)) stored)
    (hpages : w.Pages c (.ofParent (some parent)) stored d attributes objects)
    (hfew : (objects (stored begun.2)).length < Nat.pow 2 32 - 1) {items : List Grant}
    (hdone : ∀ st₁, World.Keeps stored begun st₁ → ∃ st',
      w.GoesOn ((roles c).grants (roleResource name parent)) (PageStack.ofFrames below).token st₁ items st' ∧
      World.Keeps stored begun st') (st : Memory × σ) (hkeeps : World.Keeps stored begun st) :
    ∃ st', w.GoesOn ((roles c).grants (roleResource name parent))
        (PageStack.ofFrames (.ofType t.id :: below)).token st
        (memberGrantsTo c begun.1.groups (roleResource name parent) kind d holds
          (objects (stored begun.2)) ++ items) st' ∧
      World.Keeps stored begun st' := by
  have hbegin : PartLeft t below stored objects begun (objects (stored begun.2))
      (PageStack.ofFrames (.ofType t.id :: below)).token st :=
    ⟨hkeeps, [], rfl, PageStack.leadsTo_ofType _ t.id below⟩
  obtain ⟨st', hwalks, hkeeps'⟩ := World.walks_pages _
    (memberGrantsTo_append c begun.1.groups (roleResource name parent) kind d holds)
    (fun _ _ _ => h.step hsigns hpages hfew) hdone hbegin
  exact ⟨st', .inr ⟨PageStack.token_ne_empty rfl, hwalks⟩, hkeeps'⟩

end Part

/-! ## The whole walk -/

/-- The first page of the walk is empty and leads to the service principals. -/
theorem begin_ends (st : Memory × σ) : w.Ends ((roles c).grants (roleResource name parent) "") st
    (.ok ⟨[], (PageStack.ofFrames ([.servicePrincipal, .group, .user].map fun t : ResourceType =>
      .ofType t.id)).token, none⟩) st :=
  roleGrants_ends (PageStack.resume_empty _) (World.ends_pure.2 ⟨rfl, rfl⟩)

/-- However the peer divides its collections into pages, the walk for a role that was listed ends, and it
has one grant of membership for each service principal, then each group of the account and then each
user that holds the role, in the order in which the peer has them. -/
theorem role_walk_is_complete {before : String} {page : SyncPage Resource}
    {users : β → List User} {groups : β → List Group} {servicePrincipals : β → List ServicePrincipal}
    {st₀ : Memory × σ} (hlisted : w.Ends ((roles c).list (some parent) before) st₀ (.ok page) st₁)
    (hrole : role ∈ page.items) (hsigns : w.Signs c.credentials (.ofParent (some parent)) stored)
    (husers : w.Pages c (.ofParent (some parent)) stored .users Query.userRoleAttributes users)
    (hgroups : w.Pages c (.ofParent (some parent)) stored .groups Query.groupRoleAttributes groups)
    (hservicePrincipals : w.Pages c (.ofParent (some parent)) stored .servicePrincipals
      Query.servicePrincipalRoleAttributes servicePrincipals) (st : Memory × σ)
    (hfew : (users (stored st.2)).length < Nat.pow 2 32 - 1 ∧
      (groups (stored st.2)).length < Nat.pow 2 32 - 1 ∧
      (servicePrincipals (stored st.2)).length < Nat.pow 2 32 - 1) :
    ∃ name ∈ rolesUnder parent, role = roleResource name parent ∧
      ∃ st', w.Walks ((roles c).grants role) "" st
          (memberGrantsTo c st.1.groups role .servicePrincipal .servicePrincipals
              (fun s => holdsRole parent name s.permissions) (servicePrincipals (stored st.2)) ++
            (memberGrantsTo c st.1.groups role .group .groups
                (fun g => g.isAccountGroup && holdsRole parent name g.permissions)
                (groups (stored st.2)) ++
              memberGrantsTo c st.1.groups role .user .users
                (fun u => holdsRole parent name u.permissions) (users (stored st.2)))) st' ∧
        World.Keeps stored st st' := by
  obtain ⟨name, hname, rfl⟩ := mem_listed_roles hlisted hrole
  obtain ⟨husersFew, hgroupsFew, hservicePrincipalsFew⟩ := hfew
  refine ⟨name, hname, rfl, ?_⟩
  -- From the last part to the first: each goes on with what comes after it.
  have hend : ∀ st₁, World.Keeps stored st st₁ → ∃ st',
      w.GoesOn ((roles c).grants (roleResource name parent)) (PageStack.ofFrames []).token st₁ [] st' ∧
        World.Keeps stored st st' :=
    fun st₁ hkeeps => ⟨st₁, .inl ⟨rfl, rfl, rfl⟩, hkeeps⟩
  have huserPart := users_walksPart.walk hsigns husers husersFew hend
  have hgroupPart := groups_walksPart.walk hsigns hgroups hgroupsFew huserPart
  have hwhole := servicePrincipals_walksPart.walk hsigns hservicePrincipals hservicePrincipalsFew hgroupPart
  obtain ⟨st', hgoes, hkeeps⟩ := hwhole st (World.Keeps.refl st)
  rw [List.append_nil] at hgoes
  exact ⟨st', .of_page (begin_ends st) hgoes, hkeeps⟩

/-- Who administers the account of the library: one principal of each kind. -/
theorem role_walk_is_complete_in_library :
    let account := ResourceId.ofType .account "a"
    ∃ grants st', library.Walks ((roles Client.plain).grants (roleResource "account_admin" account)) ""
        (Memory.fresh, ()) grants st' ∧
      grants.map (·.principal) = [.ofType .servicePrincipal "5",
        .ofType .group (ResourceId.groupPath "4" (some account)), .ofType .user "1"] := by
  intro account
  have hlisted : library.Ends ((roles Client.plain).list (some account) "") (Memory.fresh, ())
      (.ok (.only [roleResource "account_admin" account])) (Memory.fresh, ()) :=
    World.ends_pure.2 ⟨rfl, rfl⟩
  obtain ⟨name, hname, -, st', hwalks, -⟩ := role_walk_is_complete hlisted List.mem_cons_self library_signs
    (library_users _) (library_groups _) (library_servicePrincipals _) (Memory.fresh, ()) (by decide)
  obtain rfl : name = "account_admin" := List.mem_singleton.1 hname
  exact ⟨_, st', hwalks, by decide +kernel⟩

end AccessSync.Sync
