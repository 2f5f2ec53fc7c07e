import AccessSync.Proofs.Client.Calls
import AccessSync.Proofs.Client.Lookup
import AccessSync.Proofs.Resource.GroupPath
import AccessSync.Sync.Groups
/-!
# Principals as holders

How a principal is presented depends on the groups that are remembered (`holderAmong`). If those are named
as a listing names them (`Store.Listed`), what the client presents a principal by leads to the principal
again (`Presents.presented_eq`).

The name under which rules know a principal is that of the roster (`nameOfResource_ok`), and entries that
name principals of the roster become grants to them (`entryGrants_ends`). If there are others among the
entries, all refused for the same reason, there are no grants at all (`entryGrants_fails`).
-/

namespace AccessSync

/-- Whatever is stored is as it should be under its key. -/
def Store.Every {α : Type} (P : String → α → Prop) (s : Store α) : Prop :=
  ∀ key value, s.get? key = some value → P key value

theorem Store.every_empty {α : Type} (P : String → α → Prop) : (empty : Store α).Every P := by
  intro key value h
  rw [get?_empty] at h
  cases h

theorem Store.Every.put {α : Type} {P : String → α → Prop} {s : Store α} (h : s.Every P) {key : String}
    {value : α} (hvalue : P key value) : (s.put key value).Every P := by
  intro key' value' hget
  rw [get?_put] at hget
  split_ifs at hget with hkey
  · cases hget
    rw [hkey]
    exact hvalue
  · exact h key' value' hget

/-- What was put into a store last under a key is kept there. -/
theorem Store.get?_foldl_put {α β : Type} {key : α → String} {value : α → β} (xs : List α) (s : Store β)
    (id : String) : (xs.foldl (fun s a => s.put (key a) (value a)) s).get? id =
      ((xs.reverse.find? (key · = id)).map value).or (s.get? id) := by
  induction xs generalizing s with
  | nil => rfl
  | cons a xs ih =>
    rw [List.foldl_cons, ih, List.reverse_cons, List.find?_append, get?_put]
    cases xs.reverse.find? (key · = id) with
    | some b => rfl
    | none =>
      rw [List.find?_singleton]
      by_cases hid : key a = id
      · rw [if_pos hid.symm, if_pos (decide_eq_true hid)]
        rfl
      · rw [if_neg (Ne.symm hid), if_neg (by simpa using hid)]
        rfl

/-- So what a store of a list has under a key stands under it in the list. -/
theorem Store.mem_of_get?_ofList {α : Type} {entries : List (String × α)} {key : String} {value : α}
    (h : (ofList entries).get? key = some value) : (key, value) ∈ entries := by
  rw [ofList, get?_foldl_put, get?_empty, Option.or_none] at h
  obtain ⟨e, he, rfl⟩ := Option.map_eq_some_iff.1 h
  have hkey : e.1 = key := by simpa using List.find?_some he
  rw [← hkey]
  exact List.mem_reverse.1 (List.mem_of_find?_eq_some he)

/-- Every group that is remembered stands under its own id and is named as a listing names it. -/
def Store.Listed (groups : Store Resource) : Prop :=
  ∀ id group, groups.get? id = some group →
    ∃ parent, group.id = .ofType .group (ResourceId.groupPath id (some parent))

/-! ## Listing groups -/

/-- If a group is remembered, it is as it should be under its id. -/
def Event.RemembersAs (P : String → Resource → Prop) : Event → Prop
  | ⟨.writeGroup id group, _⟩ => P id group
  | _ => True

theorem Event.Exchanges.remembersAs {ev : Event} (h : ev.Exchanges) (P : String → Resource → Prop) :
    ev.RemembersAs P := by
  obtain ⟨e, answer⟩ := ev
  cases e with
  | writeGroup => exact h.elim
  | _ => exact trivial

/-- If groups are only remembered as they should be, then all that are remembered still are so. -/
theorem World.Ends.keeps_every {α σ : Type} {w : World σ} {call : Call α} {st st' : Memory × σ}
    {r : Except Halt α} {P : String → Resource → Prop} (hcall : call.Always (Event.RemembersAs P))
    (h : w.Ends call st r st') (hevery : st.1.groups.Every P) : st'.1.groups.Every P := by
  refine h.keeps (P := Event.RemembersAs P) (R := fun st st' => st.1.groups.Every P → st'.1.groups.Every P)
    (fun _ h => h) (fun h h' hst => h' (h hst)) ?_ hcall hevery
  intro e st hremembers hst
  cases e with
  | writeGroup id group => exact hst.put hremembers
  | clearGroups => exact Store.every_empty P
  | _ => exact hst

namespace Sync

theorem parent_groupResource (g : Group) (parent : ResourceId) :
    (groupResource g parent).parent = some parent := by
  unfold groupResource
  dsimp only
  split_ifs <;> rfl

theorem id_groupResource (g : Group) (parent : ResourceId) :
    (groupResource g parent).id = .ofType .group (ResourceId.groupPath g.id (some parent)) := by
  unfold groupResource
  dsimp only
  split_ifs <;> rfl

end Sync

namespace Client

variable {β σ : Type} {w : World σ} {c : Client} {scope : Scope} {stored : σ → β} {roster : Roster}
  {groups : Store Resource} {kind : PrincipalKind} {id : String} {st st' : Memory × σ}

/-- The principal of that kind and id as a holder, if those are the groups that are remembered. -/
def holderAmong (c : Client) (groups : Store Resource) (kind : PrincipalKind) (id : String) : Holder :=
  match kind with
  | .user => ⟨.ofType .user id, none⟩
  | .group =>
    let resource := match groups.get? id with
      | some group => group.id
      | none => .ofType .group (ResourceId.groupPath id (some c.accountResource))
    ⟨resource, some [Entitlement.idOf resource Entitlement.member]⟩
  | .servicePrincipal => ⟨.ofType .servicePrincipal id, none⟩

theorem holder_ends (c : Client) (kind : PrincipalKind) (id : String) (st : Memory × σ) :
    w.Ends (c.holder kind id) st (.ok (c.holderAmong st.1.groups kind id)) st := by
  cases kind with
  | user => rfl
  | servicePrincipal => rfl
  | group =>
    have hread : w.act (.readGroup id) st = (st.1.groups.get? id, st) := rfl
    refine World.ends_perform_bind.2 (World.ends_pure.2 ?_)
    rw [hread]
    dsimp only [holderAmong]
    cases st.1.groups.get? id <;> exact ⟨rfl, rfl⟩

/-- The client presents some principal by that resource. -/
def Presents (c : Client) (groups : Store Resource) (principal : ResourceId) : Prop :=
  ∃ kind id, principal = (c.holderAmong groups kind id).resource

/-- The resource that grants to a principal are listed with. A group that is handed in under another
parent than the one it was listed under is listed there. -/
def presented (c : Client) (groups : Store Resource) (principal : ResourceId) : ResourceId :=
  match principal.principalKind?, principal.platformId with
  | some kind, .ok id => (c.holderAmong groups kind id).resource
  | _, _ => principal

theorem presented_eq {principal : ResourceId} (hkind : principal.principalKind? = some kind)
    (hid : principal.platformId = .ok id) :
    c.presented groups principal = (c.holderAmong groups kind id).resource := by
  rw [presented, hkind, hid]

/-- A group is presented by the path that it has under some parent. -/
theorem resource_group (hlisted : groups.Listed) (c : Client) (id : String) :
    ∃ parent, (c.holderAmong groups .group id).resource =
      .ofType .group (ResourceId.groupPath id (some parent)) := by
  unfold holderAmong
  cases hget : groups.get? id with
  | none => exact ⟨c.accountResource, rfl⟩
  | some group => exact hlisted id group hget

theorem principalKind?_ofPrincipal (kind : PrincipalKind) (path : String) :
    (ResourceId.ofType (.ofPrincipal kind) path).principalKind? = some kind := by
  cases kind <;> rfl

theorem principalKind?_holderAmong (hlisted : groups.Listed) (c : Client) (kind : PrincipalKind)
    (id : String) : (c.holderAmong groups kind id).resource.principalKind? = some kind := by
  cases kind with
  | user => exact principalKind?_ofPrincipal .user id
  | servicePrincipal => exact principalKind?_ofPrincipal .servicePrincipal id
  | group =>
    obtain ⟨parent, hresource⟩ := resource_group hlisted c id
    rw [hresource]
    exact principalKind?_ofPrincipal .group _

/-- The id that the resource of a principal leads to, if to any, is its own. -/
theorem platformId_holderAmong (hlisted : groups.Listed) {found : String}
    (h : (c.holderAmong groups kind id).resource.platformId = .ok found) : found = id := by
  cases kind with
  | user =>
    cases h
    rfl
  | servicePrincipal =>
    cases h
    rfl
  | group =>
    obtain ⟨parent, hresource⟩ := resource_group hlisted c id
    rw [hresource] at h
    exact ResourceId.platformId_groupPath h

/-- What the client presents a principal by is what grants to it are listed with. -/
theorem Presents.presented_eq {principal : ResourceId} (h : c.Presents groups principal)
    (hlisted : groups.Listed) : c.presented groups principal = principal := by
  obtain ⟨kind, id, rfl⟩ := h
  unfold presented
  rw [principalKind?_holderAmong hlisted]
  -- The path of a group whose id holds a slash cannot be read, and is then left as it is.
  cases hid : (c.holderAmong groups kind id).resource.platformId with
  | error fault => rfl
  | ok found =>
    obtain rfl := platformId_holderAmong hlisted hid
    rfl

/-- The name that is found for a principal is that of the roster. -/
theorem nameOfResource_ok (h : w.Knows c scope stored roster) {principal : ResourceId} {p : PrincipalName}
    (hends : w.Ends (c.nameOfResource scope principal) st (.ok p) st') :
    World.Keeps stored st st' ∧ principal.principalKind? = some p.kind ∧
      ∃ id, principal.platformId = .ok id ∧ roster.keyOf p.kind id = some p.key := by
  obtain ⟨kind, hrequired, hrest⟩ := World.ends_ofExcept_bind_ok.1 hends
  obtain ⟨id, hid, hname⟩ := World.ends_ofExcept_bind_ok.1 hrest
  have hkind : principal.principalKind? = some kind := by
    unfold ResourceId.requirePrincipal at hrequired
    cases hfound : principal.principalKind? with
    | none =>
      rw [hfound] at hrequired
      cases hrequired
    | some found =>
      rw [hfound] at hrequired
      cases hrequired
      rfl
  obtain ⟨st₁, hkeeps, hfinds⟩ := nameOfId_ends h kind id st
  have hsame := hname.symm.trans hfinds
  cases hkey : roster.keyOf kind id with
  | none =>
    rw [hkey] at hsame
    cases hsame
  | some key =>
    rw [hkey] at hsame
    cases hsame
    exact ⟨hkeeps, hkind, id, hid, hkey⟩

/-! ## Entries as grants -/

theorem holderOfEntry_ends (h : w.Knows c scope stored roster) {entry : String} {p : PrincipalName}
    (hparse : PrincipalName.parse entry = .ok p) (hid : roster.idOf p = some id) (st : Memory × σ) :
    ∃ st', w.Ends (c.holderOfEntry scope entry) st (.ok (c.holderAmong st.1.groups p.kind id)) st' ∧
      World.Keeps stored st st' := by
  obtain ⟨st', hkeeps, hends⟩ := idOfName_ends h p st
  rw [hid] at hends
  refine ⟨st', ?_, hkeeps⟩
  have hp : w.Ends (Call.ofExcept Error.principal (PrincipalName.parse entry)) st (.ok p) st :=
    World.ends_ofExcept_ok.2 ⟨hparse, rfl⟩
  refine hp.bind_iff.2 (hends.bind_iff.2 ?_)
  rw [← hkeeps.groups]
  exact holder_ends c p.kind id st'

theorem holderOfEntry_fails {entry : String} {fault : PrincipalFault}
    (hparse : PrincipalName.parse entry = .error fault) (st : Memory × σ) :
    w.Ends (c.holderOfEntry scope entry) st (.error (.error (.principal fault))) st := by
  have hp : w.Ends (Call.ofExcept Error.principal (PrincipalName.parse entry)) st
      (.error (.error (.principal fault))) st := by
    rw [hparse]
    exact World.ends_fail.2 ⟨rfl, rfl⟩
  exact hp.bind_error

variable {resource : Resource} {entries : List (String × String)}

/-- Entries that all name principals of the roster are grants to these. -/
theorem entryGrants_ends (h : w.Knows c scope stored roster)
    (hknown : ∀ x ∈ entries, roster.Knows x.2) (st : Memory × σ) :
    ∃ gs st', w.Ends (c.entryGrants scope resource entries) st (.ok gs) st' ∧ World.Keeps stored st st' ∧
      ∀ x ∈ entries, ∀ p id, PrincipalName.parse x.2 = .ok p → roster.idOf p = some id →
        (c.holderAmong st.1.groups p.kind id).grant resource x.1 ∈ gs := by
  have hgrant : ∀ x ∈ entries, ∀ st₁, World.Keeps stored st st₁ → ∃ g st₂,
      w.Ends (do return (← c.holderOfEntry scope x.2).grant resource x.1) st₁ (.ok g) st₂ ∧
      (∀ p id, PrincipalName.parse x.2 = .ok p → roster.idOf p = some id →
        g = (c.holderAmong st.1.groups p.kind id).grant resource x.1) ∧ World.Keeps stored st st₂ := by
    intro x hx st₁ hkeeps
    obtain ⟨p, id, hparse, hid⟩ := hknown x hx
    obtain ⟨st₂, hends, hkeeps'⟩ := holderOfEntry_ends h hparse hid st₁
    refine ⟨_, st₂, hends.bind_iff.2 (World.ends_pure.2 ⟨rfl, rfl⟩), ?_, hkeeps.trans hkeeps'⟩
    intro p' id' hparse' hid'
    rw [hparse] at hparse'
    cases hparse'
    rw [hid] at hid'
    cases hid'
    rw [hkeeps.groups]
  obtain ⟨gs, st', hends, hgrants, hkeeps⟩ := World.ends_mapM hgrant (World.Keeps.refl st)
  refine ⟨gs, st', hends, hkeeps, ?_⟩
  intro x hx p id hparse hid
  obtain ⟨g, hg, hall⟩ := hgrants x hx
  rwa [hall p id hparse hid] at hg

/-- If some entry is refused, and all that do not name a principal of the roster are so for the same
reason, that is what comes of all. -/
theorem entryGrants_fails (h : w.Knows c scope stored roster) {fault : PrincipalFault}
    (hknown : ∀ x ∈ entries, roster.Knows x.2 ∨ PrincipalName.parse x.2 = .error fault)
    (hbad : ∃ x ∈ entries, PrincipalName.parse x.2 = .error fault) (st : Memory × σ) :
    ∃ st', w.Ends (c.entryGrants scope resource entries) st (.error (.error (.principal fault))) st' := by
  refine World.fails_mapM (I := fun _ => True) ?_ ?_ trivial
  · intro x hx st₁ _
    rcases hknown x hx with ⟨p, id, hparse, hid⟩ | hparse
    · obtain ⟨st₂, hends, -⟩ := holderOfEntry_ends h hparse hid st₁
      exact .inl ⟨_, st₂, hends.bind_iff.2 (World.ends_pure.2 ⟨rfl, rfl⟩), trivial⟩
    · exact .inr ⟨st₁, (holderOfEntry_fails hparse st₁).bind_error⟩
  · obtain ⟨x, hx, hparse⟩ := hbad
    exact ⟨x, hx, fun st₁ _ => ⟨st₁, (holderOfEntry_fails hparse st₁).bind_error⟩⟩

end Client

end AccessSync
