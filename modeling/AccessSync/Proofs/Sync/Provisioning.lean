import AccessSync.Proofs.Program.Course
import AccessSync.Proofs.Sync.Transparency
/-!
# Synced principals in edits

When grants are listed, principals come from what the platform tells: from assignments, from the members
of a group, from entries of rules or from a directory (`Told`). Every grant that is listed goes to a
principal that was told in the course of the listing (`grants_told`). In runs that list groups under the
account alone, whoever is presented can be handed back: the resource leads to the kind and the id that
were told, so whatever is edited then is edited for that principal (`principals_lead_back`).
-/

namespace AccessSync

namespace ResourceId

/-- The resource is taken for the principal of that kind and id, whatever is to be granted. -/
structure LeadsTo (r : ResourceId) (kind : PrincipalKind) (id : String) : Prop where
  kind : ∀ right, r.requirePrincipal right = .ok kind
  id : r.platformId = .ok id

theorem requirePrincipal_of_kind {r : ResourceId} {kind : PrincipalKind} (h : r.principalKind? = some kind)
    (right : String) : r.requirePrincipal right = .ok kind := by
  rw [requirePrincipal, h]

end ResourceId

/-- What events do that remember groups as they should be leaves those as they should be. -/
theorem Memory.Follows.keeps_every {P : String → Resource → Prop} {m m' : Memory} {es : List Event}
    (h : m.Follows es m') (hes : ∀ ev ∈ es, ev.RemembersAs P) (hm : m.groups.Every P) : m'.groups.Every P := by
  induction h with
  | nil => exact hm
  | @cons m m' ev es _ _ ih =>
    refine ih (fun ev hev => hes ev (List.mem_cons_of_mem _ hev)) ?_
    have hev := hes ev List.mem_cons_self
    obtain ⟨e, answer⟩ := ev
    cases e with
    | writeGroup id group => exact hm.put hev
    | clearGroups => exact Store.every_empty P
    | _ => exact hm

namespace Client

variable {c : Client} {groups : Store Resource} {kind : PrincipalKind} {id : String}

/-- Without slashes in the ids the client presents a principal by what leads to it. -/
theorem leadsTo_holderAmong (h : groups.ListedUnder c.accountResource) (haccount : '/' ∉ c.accountId.toList)
    (hid : '/' ∉ id.toList) : (c.holderAmong groups kind id).resource.LeadsTo kind id := by
  rw [Sync.holderAmong_of_listedUnder h]
  have hkind := principalKind?_holderAmong (Store.every_empty _) c kind id
  refine ⟨ResourceId.requirePrincipal_of_kind hkind, ?_⟩
  cases kind with
  | user => rfl
  | servicePrincipal => rfl
  | group =>
    have htype : '/' ∉ ResourceType.account.id.toList := by decide
    exact ResourceId.platformId_groupPath_of_plain htype haccount hid

/-- A holder is looked up among the groups that are remembered. -/
theorem does_holder {m m' : Memory} {es : List Event} {holder : Holder}
    (h : (c.holder kind id).Does es (some (.ok holder))) (hm : m.Follows es m') :
    holder = c.holderAmong m.groups kind id := by
  cases kind with
  | user => exact (Call.does_pure_ok.1 h).2
  | servicePrincipal => exact (Call.does_pure_ok.1 h).2
  | group =>
    rcases Call.does_perform_bind.1 h with ⟨-, hr⟩ | ⟨answer, ys, rfl, hy⟩
    · cases hr
    obtain ⟨rfl, rfl⟩ := Call.does_pure_ok.1 hy
    have hanswer : answer = m.groups.get? id := (Memory.follows_cons.1 hm).1
    rw [hanswer]
    dsimp only [holderAmong]
    cases m.groups.get? id <;> rfl

end Client

/-- A value that a call was found to have is its own. -/
theorem Call.attempted_eq_ok {α : Type} {r : Option (Except Halt α)} {a : α}
    (h : r.map Call.attempted = some (.ok (.ok a))) : r = some (.ok a) := by
  rcases r with _ | (_ | _) | a'
  · cases h
  · cases h
  · cases h
  · cases h
    rfl

namespace Sync

variable {c : Client} {allowed : List String} {resource : Resource} {es fs : List Event}
  {kind : PrincipalKind} {id : String}

/-! ## Edits for a principal -/

/-- The edit by an adapter, for a principal as the platform knows it. -/
def Edit.callFor (c : Client) (x : Edit) (kind : PrincipalKind) (id : String) : ResourceType → Call Unit
  | .account => do
    let p ← c.nameOfId .account kind id
    let _ ← c.editRules .account .account
      (x.ofRules (.containing x.entitlement.slug) (RoleMatch.qualify x.entitlement.slug) p)
  | .workspace => do
    let number ← Call.ofExcept .resourceId (workspaceId x.entitlement.resource)
    let _ ← c.putAssignment number id x.assignment
  | .user => x.call (users c)
  | .group => do
    let (parent, groupId) ← Call.ofExcept .resourceId (groupOf x.entitlement.resource)
    if x.entitlement.slug = Entitlement.member then
      editGroup c (.ofParent parent) groupId (x.ofMembers id)
    else
      let p ← c.nameOfId (.ofParent parent) kind id
      let _ ← c.editRules (.ofParent parent) (groupTarget groupId)
        (x.ofRules (.exact x.entitlement.slug) x.entitlement.slug p)
  | .servicePrincipal => do
    let (scope, target) ← Call.ofExcept .resourceId (servicePrincipalTarget x.entitlement.resource)
    let p ← c.nameOfId scope kind id
    let _ ← c.editRules scope target (x.ofRules (.exact x.entitlement.slug) x.entitlement.slug p)
  | .role => do
    let scope ← Call.ofExcept .resourceId x.entitlement.resource.scope
    let name ← Call.ofExcept .resourceId (permissionName x.entitlement.resource scope)
    let (target, _) ← c.getPrincipal scope kind id
    match x.ofPermissions target (.ofScope scope) name with
    | (false, _) => return
    | (true, target) => do
      let _ ← c.putPrincipal scope target

theorem nameOfResource_of_leadsTo {r : ResourceId} (h : r.LeadsTo kind id) (scope : Scope) :
    c.nameOfResource scope r = c.nameOfId scope kind id := by
  rw [Client.nameOfResource, h.kind, h.id]
  rfl

/-- An edit for a resource that leads to a principal is an edit for that principal. -/
theorem call_of_leadsTo {x : Edit} (h : x.principal.LeadsTo kind id) (t : ResourceType) :
    x.call (c.adapterOf allowed t) = x.callFor c kind id t := by
  cases t with
  | account =>
    rw [Client.adapterOf, Edit.call_account, nameOfResource_of_leadsTo h]
    rfl
  | workspace =>
    rw [Client.adapterOf, Edit.call_workspaces, changeWorkspace, h.kind, h.id]
    rfl
  | user => rfl
  | group =>
    rw [Client.adapterOf, Edit.call_groups, changeGroup, h.kind, h.id]
    simp only [nameOfResource_of_leadsTo h]
    rfl
  | servicePrincipal =>
    rw [Client.adapterOf, Edit.call_servicePrincipals, changeServicePrincipal, h.kind]
    simp only [nameOfResource_of_leadsTo h]
    rfl
  | role =>
    rw [Client.adapterOf, Edit.call_roles, changeRole, h.kind, h.id]
    rfl

/-! ## Principals that are told -/

/-- Where the rules on a resource stand. -/
def rulesOf? (t : ResourceType) (resource : Resource) : Option (Scope × AccessTarget) :=
  match t with
  | .account => some (.account, .account)
  | .group => (groupOf resource).toOption.map fun (_, id) => (.ofParent resource.parent, groupTarget id)
  | .servicePrincipal => (servicePrincipalTarget resource).toOption
  | .workspace | .user | .role => none

/-- In the course of these events the platform told of that principal as one that something may be granted
to on the resource. -/
inductive Told (c : Client) : ResourceType → Resource → List Event → PrincipalKind → String → Prop
  | assigned {resource : Resource} {es : List Event} {number : Int64} {assignments : List Assignment}
      {rateLimit : Http.RateLimit} {a : Assignment} {assignee : Assignee} {kind : PrincipalKind} :
      workspaceId resource = .ok number → (c.listAssignments number).Yields es (assignments, rateLimit) →
      a ∈ assignments → a.principal = some assignee → assignee.kind? = some kind →
      Told c .workspace resource es kind (Text.ofInt assignee.id.toInt)
  | member {resource : Resource} {es : List Event} {reference : String} {kind : PrincipalKind} {id : String} :
      reference ∈ memberReferences resource → Member.readReference reference = .ok (kind, id) →
      Told c .group resource es kind id
  | named {t : ResourceType} {resource : Resource} {es : List Event} {scope : Scope} {target : AccessTarget}
      {rules : List Rule} {rateLimit : Http.RateLimit} {rule : Rule} {entry : String} {p : PrincipalName}
      {id : String} :
      rulesOf? t resource = some (scope, target) → (c.listRules scope target).Yields es (rules, rateLimit) →
      rule ∈ rules → entry ∈ rule.principals → PrincipalName.parse entry = .ok p →
      (c.idOfName scope p).Yields es id → Told c t resource es p.kind id
  | user {resource : Resource} {es : List Event} {scope : Scope} {terms : List Query.Term}
      {listing : Listing User} {u : User} :
      resource.scope = .ok scope → (c.list .users scope terms).Yields es listing → u ∈ listing.items →
      Told c .role resource es .user u.id
  | group {resource : Resource} {es : List Event} {scope : Scope} {terms : List Query.Term}
      {listing : Listing Group} {g : Group} :
      resource.scope = .ok scope → (c.list .groups scope terms).Yields es listing → g ∈ listing.items →
      Told c .role resource es .group g.id
  | servicePrincipal {resource : Resource} {es : List Event} {scope : Scope} {terms : List Query.Term}
      {listing : Listing ServicePrincipal} {s : ServicePrincipal} :
      resource.scope = .ok scope → (c.list .servicePrincipals scope terms).Yields es listing →
      s ∈ listing.items → Told c .role resource es .servicePrincipal s.id

theorem Told.mono {t : ResourceType} (h : Told c t resource es kind id) (hes : es <:+: fs) :
    Told c t resource fs kind id := by
  cases h with
  | assigned hnumber hyields ha hassignee hkind => exact .assigned hnumber (hyields.mono hes) ha hassignee hkind
  | member hreference hread => exact .member hreference hread
  | named htarget hrules hrule hentry hparse hid =>
    exact .named htarget (hrules.mono hes) hrule hentry hparse (hid.mono hes)
  | user hscope hyields hu => exact .user hscope (hyields.mono hes) hu
  | group hscope hyields hg => exact .group hscope (hyields.mono hes) hg
  | servicePrincipal hscope hyields hs => exact .servicePrincipal hscope (hyields.mono hes) hs

/-- The grant goes to that principal, as it was presented in the course of the events. -/
def GrantedTo (c : Client) (es : List Event) (g : Grant) (kind : PrincipalKind) (id : String) : Prop :=
  ∃ holder, (c.holder kind id).Yields es holder ∧ g.principal = holder.resource

theorem GrantedTo.mono {g : Grant} (h : GrantedTo c es g kind id) (hes : es <:+: fs) :
    GrantedTo c fs g kind id := by
  obtain ⟨holder, hyields, hprincipal⟩ := h
  exact ⟨holder, hyields.mono hes, hprincipal⟩

/-- Looking up a holder and granting it something. -/
theorem grantedTo_of_does {slug : String} {g : Grant}
    (h : Call.Does (do return (← c.holder kind id).grant resource slug) es (some (.ok g))) :
    GrantedTo c es g kind id := by
  obtain ⟨holder, xs, ys, rfl, hholder, h⟩ := Call.does_bind_ok.1 h
  obtain ⟨rfl, rfl⟩ := Call.does_pure_ok.1 h
  exact ⟨holder, ⟨xs, (List.prefix_append ..).isInfix, hholder⟩, rfl⟩

/-- A grant by an entry goes to the principal that was found for the entry. -/
theorem told_of_entryGrants {scope : Scope} {entries : List (String × String)} {grants : List Grant} {g : Grant}
    (h : (c.entryGrants scope resource entries).Does es (some (.ok grants))) (hg : g ∈ grants) :
    ∃ x ∈ entries, ∃ p id, PrincipalName.parse x.2 = .ok p ∧ (c.idOfName scope p).Yields es id ∧
      GrantedTo c es g p.kind id := by
  obtain ⟨x, hx, mid, hmid, h⟩ := Call.yields_of_mapM h hg
  obtain ⟨holder, xs, last, rfl, hxs, h⟩ := Call.does_bind_ok.1 h
  obtain ⟨rfl, rfl⟩ := Call.does_pure_ok.1 h
  obtain ⟨p, hparse, hxs⟩ := Call.does_ofExcept_bind_ok.1 hxs
  obtain ⟨id, looked, held, rfl, hid, hholder⟩ := Call.does_bind_ok.1 hxs
  rw [List.append_nil] at hmid
  exact ⟨x, hx, p, id, hparse, ⟨looked, (List.prefix_append ..).isInfix.trans hmid, hid⟩, holder,
    ⟨held, (List.suffix_append ..).isInfix.trans hmid, hholder⟩, rfl⟩

/-- So the grants by some of the rules on a resource go to principals that were told. -/
theorem told_of_rules {t : ResourceType} {scope : Scope} {target : AccessTarget} {rules : List Rule}
    {rateLimit : Http.RateLimit} {entries : List (String × String)} {grants : List Grant} {g : Grant}
    (hresource : rulesOf? t resource = some (scope, target))
    (hrules : (c.listRules scope target).Yields es (rules, rateLimit))
    (hentries : ∀ x ∈ entries, ∃ rule ∈ rules, x.2 ∈ rule.principals)
    (h : (c.entryGrants scope resource entries).Does fs (some (.ok grants))) (hfs : fs <:+: es)
    (hg : g ∈ grants) : ∃ kind id, Told c t resource es kind id ∧ GrantedTo c es g kind id := by
  obtain ⟨x, hx, p, id, hparse, hid, hgranted⟩ := told_of_entryGrants h hg
  obtain ⟨rule, hrule, hentry⟩ := hentries x hx
  exact ⟨p.kind, id, .named hresource hrules hrule hentry hparse (hid.mono hfs), hgranted.mono hfs⟩

theorem mem_of_mem_entries {rules : List Rule} {x : String × String} (h : x ∈ Rule.entries rules) :
    ∃ rule ∈ rules, x.2 ∈ rule.principals := by
  obtain ⟨rule, hrule, h⟩ := List.mem_flatMap.1 h
  obtain ⟨entry, hentry, rfl⟩ := List.mem_map.1 h
  exact ⟨rule, hrule, hentry⟩

/-! ## Whom listed grants go to -/

/-- All of the grants go to principals that were told. -/
def GrantsTold (c : Client) (t : ResourceType) (resource : Resource) (es : List Event) (grants : List Grant) :
    Prop := ∀ g ∈ grants, ∃ kind id, Told c t resource es kind id ∧ GrantedTo c es g kind id

theorem told_of_accountGrants {page : SyncPage Grant}
    (h : (accountGrants c resource).Does es (some (.ok page))) : GrantsTold c .account resource es page.items := by
  obtain ⟨available, before, ys, rfl, -, h⟩ := Call.does_bind_ok.1 h
  cases available with
  | false =>
    obtain ⟨-, rfl⟩ := Call.does_pure_ok.1 h
    simp [GrantsTold, SyncPage.empty]
  | true =>
    obtain ⟨⟨rules, rateLimit⟩, read, zs, rfl, hrules, h⟩ := Call.does_bind_ok.1 h
    obtain ⟨grants, found, last, rfl, hgrants, h⟩ := Call.does_bind_ok.1 h
    obtain ⟨-, rfl⟩ := Call.does_pure_ok.1 h
    intro g hg
    refine told_of_rules rfl ⟨read, ⟨before, found ++ last, by simp⟩, hrules⟩ ?_ hgrants
      ⟨before ++ read, last, by simp⟩ hg
    -- Entries of other roles are left out, and each is shown under the same slug.
    intro x hx
    obtain ⟨entry, hentry, rfl⟩ := List.mem_map.1 hx
    obtain ⟨rule, hrule, hin⟩ := mem_of_mem_entries hentry
    exact ⟨rule, List.mem_of_mem_filter hrule, hin⟩

theorem told_of_servicePrincipalGrants {page : SyncPage Grant}
    (h : (servicePrincipalGrants c resource).Does es (some (.ok page))) :
    GrantsTold c .servicePrincipal resource es page.items := by
  obtain ⟨⟨scope, target⟩, htarget, h⟩ := Call.does_ofExcept_bind_ok.1 h
  obtain ⟨⟨rules, rateLimit⟩, read, zs, rfl, hrules, h⟩ := Call.does_bind_ok.1 h
  obtain ⟨grants, found, last, rfl, hgrants, h⟩ := Call.does_bind_ok.1 h
  obtain ⟨-, rfl⟩ := Call.does_pure_ok.1 h
  intro g hg
  have hresource : rulesOf? .servicePrincipal resource = some (scope, target) := by
    rw [rulesOf?, htarget]
    rfl
  exact told_of_rules hresource ⟨read, (List.prefix_append ..).isInfix, hrules⟩ (fun _ => mem_of_mem_entries)
    hgrants ⟨read, last, by simp⟩ hg

theorem told_of_memberGrants {grants : List Grant}
    (h : (memberGrants c resource).Does es (some (.ok grants))) : GrantsTold c .group resource es grants := by
  intro g hg
  obtain ⟨reference, hreference, mid, hmid, h⟩ := Call.yields_of_mapM h hg
  obtain ⟨⟨kind, id⟩, hread, h⟩ := Call.does_ofExcept_bind_ok.1 h
  exact ⟨kind, id, .member hreference hread, (grantedTo_of_does h).mono hmid⟩

theorem told_of_groupGrants {page : SyncPage Grant}
    (h : (groupGrants c resource).Does es (some (.ok page))) : GrantsTold c .group resource es page.items := by
  obtain ⟨⟨parent, groupId⟩, hgroup, h⟩ := Call.does_ofExcept_bind_ok.1 h
  obtain ⟨members, first, ys, rfl, hmembers, h⟩ := Call.does_bind_ok.1 h
  obtain ⟨⟨rules, rateLimit⟩, read, zs, rfl, hrules, h⟩ := Call.does_bind_ok.1 h
  obtain ⟨roles, found, last, rfl, hroles, h⟩ := Call.does_bind_ok.1 h
  obtain ⟨-, rfl⟩ := Call.does_pure_ok.1 h
  intro g hg
  rcases List.mem_append.1 hg with hg | hg
  · obtain ⟨kind, id, htold, hgranted⟩ := told_of_memberGrants hmembers g hg
    exact ⟨kind, id, htold.mono (List.prefix_append ..).isInfix, hgranted.mono (List.prefix_append ..).isInfix⟩
  · have hresource : rulesOf? .group resource = some (.ofParent resource.parent, groupTarget groupId) := by
      rw [rulesOf?, hgroup]
      rfl
    exact told_of_rules hresource ⟨read, ⟨first, found ++ last, by simp⟩, hrules⟩ (fun _ => mem_of_mem_entries)
      hroles ⟨first ++ read, last, by simp⟩ hg

theorem told_of_workspaceGrants {page : SyncPage Grant}
    (h : (workspaceGrants c resource).Does es (some (.ok page))) :
    GrantsTold c .workspace resource es page.items := by
  obtain ⟨available, before, ys, rfl, -, h⟩ := Call.does_bind_ok.1 h
  cases available with
  | false =>
    obtain ⟨-, rfl⟩ := Call.does_pure_ok.1 h
    simp [GrantsTold, SyncPage.empty]
  | true =>
    obtain ⟨number, hnumber, h⟩ := Call.does_ofExcept_bind_ok.1 h
    obtain ⟨listed, read, zs, rfl, hread, h⟩ := Call.does_bind_ok.1 h
    obtain ⟨r, hread, hlisted⟩ := Call.does_attempt.1 hread
    cases listed with
    | error e =>
      -- A refusal may stand for no assignments, and then there are no grants.
      dsimp only at h
      split at h
      · split_ifs at h
        · obtain ⟨-, rfl⟩ := Call.does_pure_ok.1 h
          simp [GrantsTold, SyncPage.last]
        · cases (Call.does_fail.1 h).2
      · cases (Call.does_fail.1 h).2
    | ok told =>
      obtain ⟨assignments, rateLimit⟩ := told
      obtain rfl : r = some (.ok (assignments, rateLimit)) := Call.attempted_eq_ok hlisted.symm
      obtain ⟨grants, found, last, rfl, hgrants, h⟩ := Call.does_bind_ok.1 h
      obtain ⟨-, rfl⟩ := Call.does_pure_ok.1 h
      intro g hg
      obtain ⟨a, ha, mid, hmid, h⟩ := Call.yields_of_mapM hgrants hg
      unfold assignmentGrant at h
      split at h
      · rename_i assignee hassignee
        split at h
        · rename_i kind hkind
          have hmid' : mid <:+: before ++ (read ++ (found ++ last)) := hmid.trans ⟨before ++ read, last, by simp⟩
          exact ⟨kind, _, .assigned hnumber ⟨read, ⟨before, found ++ last, by simp⟩, hread⟩ ha hassignee hkind,
            (grantedTo_of_does h).mono hmid'⟩
        · cases (Call.does_fail.1 h).2
      · cases (Call.does_fail.1 h).2

/-- One page of the walk has a grant to each that the directory lists and that holds the role, in their order. -/
theorem granted_of_page {α : Type} {d : Directory α} {attributes : List String} {scope : Scope} {place : Place}
    {holds : α → Bool} {idOf : α → String} {x : List Grant × PageStack}
    (h : Call.Does (do
      let (grants, next) ← pageGrants c d attributes scope place.start holds fun a => do
        return (← c.holder kind (idOf a)).grant resource Entitlement.member
      return (grants, ← Call.ofExcept .pageToken (place.stack.advance next))) es (some (.ok x))) :
    ∃ listing, (c.list d scope (windowTerms place.start attributes)).Yields es listing ∧
      List.Forall₂ (fun a g => GrantedTo c es g kind (idOf a)) (listing.items.filter holds) x.1 := by
  obtain ⟨_, first, rest, rfl, hpage, h⟩ := Call.does_bind_ok.1 h
  obtain ⟨stack, -, h⟩ := Call.does_ofExcept_bind_ok.1 h
  obtain ⟨rfl, rfl⟩ := Call.does_pure_ok.1 h
  obtain ⟨listing, read, ys, rfl, hread, hpage⟩ := Call.does_bind_ok.1 hpage
  obtain ⟨grants, found, last, rfl, hgrants, hpage⟩ := Call.does_bind_ok.1 hpage
  obtain ⟨rfl, rfl⟩ := Call.does_pure_ok.1 hpage
  rw [List.append_nil, List.append_nil]
  refine ⟨listing, ⟨read, (List.prefix_append ..).isInfix, hread⟩, ?_⟩
  refine (Call.forall₂_of_mapM hgrants).imp ?_
  rintro a g ⟨mid, hmid, hgrant⟩
  exact (grantedTo_of_does hgrant).mono (hmid.trans (List.suffix_append ..).isInfix)

/-- So the grants of the page go to what the directory lists. -/
theorem mem_listing_of_granted {α : Type} {listed : List α} {holds : α → Bool} {idOf : α → String}
    {grants : List Grant} (h : List.Forall₂ (fun a g => GrantedTo c es g kind (idOf a)) (listed.filter holds) grants)
    {g : Grant} (hg : g ∈ grants) : ∃ a ∈ listed, GrantedTo c es g kind (idOf a) := by
  obtain ⟨a, ha, hgranted⟩ := Call.exists_of_forall₂ h hg
  exact ⟨a, List.mem_of_mem_filter ha, hgranted⟩

theorem told_of_walk {scope : Scope} {name : String} {place : Place} {x : List Grant × PageStack}
    (hscope : resource.scope = .ok scope) (h : (walk c resource scope name place).Does es (some (.ok x))) :
    GrantsTold c .role resource es x.1 := by
  unfold walk at h
  dsimp only at h
  intro g hg
  split at h
  · obtain ⟨-, rfl⟩ := Call.does_pure_ok.1 h
    cases hg
  · obtain ⟨listing, hlisting, hgrants⟩ := granted_of_page h
    obtain ⟨u, hu, hgranted⟩ := mem_listing_of_granted hgrants hg
    exact ⟨.user, u.id, .user hscope hlisting hu, hgranted⟩
  · obtain ⟨listing, hlisting, hgrants⟩ := granted_of_page h
    obtain ⟨group, hgroup, hgranted⟩ := mem_listing_of_granted hgrants hg
    exact ⟨.group, group.id, .group hscope hlisting hgroup, hgranted⟩
  · obtain ⟨listing, hlisting, hgrants⟩ := granted_of_page h
    obtain ⟨s, hs, hgranted⟩ := mem_listing_of_granted hgrants hg
    exact ⟨.servicePrincipal, s.id, .servicePrincipal hscope hlisting hs, hgranted⟩
  · cases (Call.does_fail.1 h).2

theorem told_of_roleGrants {token : String} {page : SyncPage Grant}
    (h : (roleGrants c resource token).Does es (some (.ok page))) : GrantsTold c .role resource es page.items := by
  obtain ⟨scope, hscope, h⟩ := Call.does_ofExcept_bind_ok.1 h
  obtain ⟨name, -, h⟩ := Call.does_ofExcept_bind_ok.1 h
  obtain ⟨place, -, h⟩ := Call.does_ofExcept_bind_ok.1 h
  obtain ⟨⟨grants, stack⟩, walked, last, rfl, hwalk, h⟩ := Call.does_bind_ok.1 h
  obtain ⟨rfl, rfl⟩ := Call.does_pure_ok.1 h
  rw [List.append_nil]
  exact told_of_walk hscope hwalk

/-- Whoever a listed grant goes to was told of in the course of the listing. -/
theorem grants_told {t : ResourceType} {token : String} {page : SyncPage Grant}
    (h : ((c.adapterOf allowed t).grants resource token).Does es (some (.ok page))) :
    GrantsTold c t resource es page.items := by
  cases t with
  | account => exact told_of_accountGrants h
  | workspace => exact told_of_workspaceGrants h
  | user =>
    obtain ⟨-, rfl⟩ := Call.does_pure_ok.1 h
    simp [GrantsTold, SyncPage.empty]
  | group => exact told_of_groupGrants h
  | servicePrincipal => exact told_of_servicePrincipalGrants h
  | role => exact told_of_roleGrants h

/-! ## Handing principals back -/

variable {σ : Type} {w : World σ} {log : List Step} {start st : Memory × σ}

/-- No listing of grants remembers a group. -/
theorem always_grants (c : Client) (allowed : List String) (t : ResourceType) (resource : Resource)
    (token : String) {P : String → Resource → Prop} :
    ((c.adapterOf allowed t).grants resource token).Always (Event.RemembersAs P) := by
  have hlists : (Operation.grants t resource token).ListsUnder fun _ => False := trivial
  refine always_operation c allowed hlists ?_ fun _ h => h.remembersAs P
  intro e answer he
  cases e with
  | writeGroup id group =>
    obtain ⟨_, hno, -⟩ := he
    exact hno.elim
  | _ => exact trivial

/-- In a run that begins with no groups remembered and lists groups under the account alone, every
principal without a slash in its id is presented by a resource that leads back to it. So are the principals
of all grants that are listed then: each was told of in the course of the listing, and an edit for the
principal of the grant is one for the principal that was told. -/
theorem principals_lead_back (hrun : Run w c allowed start log st) (hfresh : start.1.groups = .empty)
    (hunder : ∀ step ∈ log, step.op.ListsUnder (· = c.accountResource))
    (haccount : '/' ∉ c.accountId.toList) :
    (∀ kind id, '/' ∉ id.toList →
      ∃ holder, w.Ends (c.holder kind id) st (.ok holder) st ∧ holder.resource.LeadsTo kind id) ∧
    ∀ t resource token es page m',
      ((c.adapterOf allowed t).grants resource token).Does es (some (.ok page)) → st.1.Follows es m' →
      ∀ g ∈ page.items, ∃ kind id, Told c t resource es kind id ∧
        g.principal = (c.holderAmong .empty kind id).resource ∧
        ('/' ∉ id.toList → g.principal.LeadsTo kind id ∧
          ∀ (t' : ResourceType) (x : Edit), x.principal = g.principal →
            x.call (c.adapterOf allowed t') = x.callFor c kind id t') := by
  have hlisted : st.1.groups.ListedUnder c.accountResource := by
    refine hrun.listedUnder hunder ?_
    rw [hfresh]
    exact Store.every_empty _
  constructor
  · intro kind id hid
    exact ⟨_, Client.holder_ends c kind id st, Client.leadsTo_holderAmong hlisted haccount hid⟩
  · intro t resource token es page m' hdoes hfollows g hg
    obtain ⟨kind, id, htold, holder, ⟨mid, hmid, hholder⟩, hprincipal⟩ := grants_told hdoes g hg
    -- The groups that are remembered when the holder is looked up are still as they should be.
    obtain ⟨before, m, m₁, hbefore, hm, hm₁⟩ := hfollows.within hmid
    have hkept : m.groups.ListedUnder c.accountResource :=
      hm.keeps_every (fun ev hev => always_grants c allowed t resource token es _ hdoes ev (hbefore.subset hev))
        hlisted
    have hpresented : g.principal = (c.holderAmong m.groups kind id).resource := by
      rw [hprincipal, Client.does_holder hholder hm₁]
    refine ⟨kind, id, htold, ?_, fun hid => ?_⟩
    · rw [hpresented, holderAmong_of_listedUnder hkept]
    · have hleads : g.principal.LeadsTo kind id := by
        rw [hpresented]
        exact Client.leadsTo_holderAmong hkept haccount hid
      exact ⟨hleads, fun t' x hx => call_of_leadsTo (by rw [hx]; exact hleads) t'⟩

/-- In the library the grant to the group that was listed is handed back for that group. -/
theorem principals_lead_back_in_library : ∃ second page es m' g,
    Run library Client.plain [] (Memory.fresh, ()) (librarySteps second) twiceListed ∧
    (libraryGrants.call Client.plain []).Does es (some (.ok page)) ∧ twiceListed.1.Follows es m' ∧
    g ∈ page.items ∧
    Told Client.plain .role (roleResource "account_admin" libraryAccount) es .group "4" ∧
    g.principal.LeadsTo .group "4" ∧
    ∀ t, (Edit.revoke g).call (Client.plain.adapterOf [] t) = (Edit.revoke g).callFor Client.plain .group "4" t := by
  obtain ⟨second, page, st', hrun, -, hgrants, hprincipals⟩ := library_lists
  obtain ⟨es, hdoes, hfollows⟩ := hgrants.does
  obtain ⟨g, hg, hprincipal⟩ : ∃ g ∈ page.items, g.principal = .ofType .group "account/a/group/4" :=
    List.mem_map.1 (hprincipals ▸ List.mem_cons_self)
  have hunder : ∀ step ∈ librarySteps second, step.op.ListsUnder (· = Client.plain.accountResource) := by
    simpa using librarySteps_listUnder second
  obtain ⟨kind, id, htold, hpresented, hback⟩ := (principals_lead_back hrun rfl hunder (by decide)).2
    .role _ _ es page _ hdoes hfollows g hg
  obtain ⟨rfl, rfl⟩ := holder_of_path (hpresented.symm.trans hprincipal)
  obtain ⟨hleads, hedit⟩ := hback (by decide)
  exact ⟨second, page, es, st'.1, g, hrun, hdoes, hfollows, hg, htold, hleads, fun t => hedit t _ rfl⟩

end Sync

end AccessSync
