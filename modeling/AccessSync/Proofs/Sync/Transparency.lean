import AccessSync.Proofs.Sync.Paging
import AccessSync.Proofs.Sync.Place
import AccessSync.Proofs.Sync.Runs
/-!
# What remembered groups are for

The groups that are remembered only decide how a principal is presented. Listing grants finds out whom
they go to, an `Appointment` for each, in the same way whatever is remembered (`grants_alike`), and then
presents them. In runs that list groups under the account alone, all that is remembered presents a group
as it would be presented anyway: `cache_is_transparent`.
-/

namespace AccessSync

/-- The event is none on remembered groups. -/
def Event.SparesGroups : Event → Prop
  | ⟨.readGroup _, _⟩ | ⟨.writeGroup _ _, _⟩ | ⟨.clearGroups, _⟩ => False
  | _ => True

theorem Event.Exchanges.sparesGroups {ev : Event} (h : ev.Exchanges) : ev.SparesGroups := by
  obtain ⟨e, answer⟩ := ev
  cases e with
  | readGroup | writeGroup | clearGroups => exact h.elim
  | _ => exact trivial

/-- The state with other groups remembered. -/
def Memory.recalling {σ : Type} (groups : Store Resource) (st : Memory × σ) : Memory × σ :=
  ({ st.1 with groups }, st.2)

namespace World

variable {α β γ σ : Type} {w : World σ}

theorem act_recalling (w : World σ) {e : Effect} {st : Memory × σ}
    (h : Event.SparesGroups ⟨e, (w.act e st).1⟩) (groups : Store Resource) :
    w.act e (Memory.recalling groups st) = ((w.act e st).1, Memory.recalling groups (w.act e st).2) := by
  cases e with
  | readGroup | writeGroup | clearGroups => exact h.elim
  | _ => rfl

/-- A call without effects on remembered groups does the same whatever they are. -/
theorem run_recalling (w : World σ) {x : Call α} (hx : x.Always Event.SparesGroups) (st : Memory × σ)
    (groups : Store Resource) :
    w.run x.run (Memory.recalling groups st) =
      ((w.run x.run st).1, Memory.recalling groups (w.run x.run st).2) := by
  suffices hprogram : ∀ (p : Program (Except Halt α)) st,
      (∀ es q, Program.Does p es q → ∀ ev ∈ es, ev.SparesGroups) →
      w.run p (Memory.recalling groups st) = ((w.run p st).1, Memory.recalling groups (w.run p st).2) from
    hprogram x.run st fun es q hq => hx es _ ⟨q, hq, rfl⟩
  intro p
  induction p with
  | done a => exact fun _ _ => rfl
  | perform e next ih =>
    intro st hp
    have hhead : Event.SparesGroups ⟨e, (w.act e st).1⟩ :=
      hp [⟨e, (w.act e st).1⟩] (next (w.act e st).1) (.act (.rest _)) _ (by simp)
    have hrest := ih (w.act e st).1 (w.act e st).2 fun es q hq ev hev =>
      hp _ q (.act hq) ev (List.mem_cons_of_mem _ hev)
    simp only [run, act_recalling w hhead, hrest]

/-! ## Calls that go alike -/

/-- Whatever groups are remembered, the call ends alike: with what the one `b` comes to that they
present, and with other things remembered the same. -/
def Alike (w : World σ) (x : Store Resource → Call α) (present : Store Resource → β → α) : Prop :=
  ∀ st, ∃ (r : Except Halt β) (st' : Memory × σ), ∀ groups,
    w.Ends (x groups) (Memory.recalling groups st) (r.map (present groups)) (Memory.recalling groups st')

theorem alike_of_spares {x : Call α} (hx : x.Always Event.SparesGroups) :
    w.Alike (fun _ => x) fun _ a => a := by
  intro st
  refine ⟨(w.run x.run st).1, (w.run x.run st).2, fun groups => ?_⟩
  have hmap : (w.run x.run st).1.map (fun a => a) = (w.run x.run st).1 := by
    cases (w.run x.run st).1 <;> rfl
  rw [Ends, hmap]
  exact run_recalling w hx st groups

theorem alike_value {present : Store Resource → β → α} {value : Store Resource → α} (b : β)
    (h : ∀ groups, value groups = present groups b) : w.Alike (fun groups => pure (value groups)) present := by
  intro st
  refine ⟨.ok b, st, fun groups => ends_pure.2 ⟨?_, rfl⟩⟩
  exact congrArg Except.ok (h groups).symm

theorem alike_fail {present : Store Resource → β → α} (e : Error) :
    w.Alike (fun _ => Call.fail e) present :=
  fun st => ⟨.error (.error e), st, fun _ => ends_fail.2 ⟨rfl, rfl⟩⟩

/-- A second part that goes alike after whatever the first has found. -/
theorem Alike.bind {x : Store Resource → Call α} {f : Store Resource → α → Call γ} {δ : Type}
    {present : Store Resource → β → α} {present' : Store Resource → δ → γ} (hx : w.Alike x present)
    (hf : ∀ b, w.Alike (fun groups => f groups (present groups b)) present') :
    w.Alike (fun groups => x groups >>= f groups) present' := by
  intro st
  obtain ⟨r, st₁, hends⟩ := hx st
  cases r with
  | error h => exact ⟨.error h, st₁, fun groups => (hends groups).bind_error⟩
  | ok b =>
    obtain ⟨r', st₂, hends'⟩ := hf b st₁
    exact ⟨r', st₂, fun groups => (hends groups).bind_iff.2 (hends' groups)⟩

theorem alike_mapM {f : α → Call γ} {present : Store Resource → β → γ}
    (h : ∀ a, w.Alike (fun _ => f a) present) (xs : List α) :
    w.Alike (fun _ => xs.mapM f) fun groups (bs : List β) => bs.map (present groups) := by
  induction xs with
  | nil => exact alike_value [] fun _ => rfl
  | cons a xs ih =>
    simp only [List.mapM_cons]
    exact (h a).bind fun b => ih.bind fun bs => alike_value (b :: bs) fun _ => rfl

end World

/-! ## Appointments -/

/-- To whom a grant goes, as the APIs know them, and what is granted. -/
structure Appointment where
  kind : PrincipalKind
  id : String
  slug : String
  deriving DecidableEq, Repr

/-- The grant of the appointment, if those are the groups that are remembered. -/
def Client.grantAmong (c : Client) (groups : Store Resource) (resource : Resource) (a : Appointment) : Grant :=
  (c.holderAmong groups a.kind a.id).grant resource a.slug

/-- The page with other items. -/
def SyncPage.map {α β : Type} (f : α → β) (page : SyncPage α) : SyncPage β :=
  ⟨page.items.map f, page.nextToken, page.rateLimit⟩

/-! ## Calls without effects on remembered groups -/

namespace Client

variable {α : Type} {c : Client} {scope : Scope} {target : AccessTarget}

theorem spares_list {d : Directory α} {terms : List Query.Term} :
    (c.list d scope terms).Always Event.SparesGroups := always_list.imp fun _ h => h.sparesGroups

theorem spares_idOfName {p : PrincipalName} : (c.idOfName scope p).Always Event.SparesGroups := by
  refine Call.always_bind (always_findPrincipalId.imp fun _ h => h.sparesGroups) fun found => ?_
  cases found with
  | some id => exact Call.always_pure
  | none => exact Call.always_fail

theorem spares_listRules : (c.listRules scope target).Always Event.SparesGroups := by
  refine Call.always_bind Call.always_ofExcept fun _ => ?_
  refine Call.always_bind (Call.always_bind (Call.always_perform fun _ => trivial) fun _ => Call.always_pure) ?_
  intro etag
  refine Call.always_bind (always_exchange.imp fun _ h => h.sparesGroups) fun _ => ?_
  exact Call.always_bind (Call.always_perform fun _ => trivial) fun _ => Call.always_pure

theorem spares_listAssignments {workspace : Int64} :
    (c.listAssignments workspace).Always Event.SparesGroups := always_exchange.imp fun _ h => h.sparesGroups

end Client

namespace Sync

variable {α σ : Type} {w : World σ} {c : Client} {resource : Resource}

theorem alike_ofExcept {ε : Type} {error : ε → Error} {x : Except ε α} :
    w.Alike (fun _ => Call.ofExcept error x) fun _ a => a := World.alike_of_spares Call.always_ofExcept

theorem alike_available : w.Alike (fun _ => accountAvailable) fun _ a => a :=
  World.alike_of_spares (Call.always_bind (Call.always_perform fun _ => trivial) fun _ => Call.always_pure)

theorem alike_holder (c : Client) (kind : PrincipalKind) (id : String) :
    w.Alike (fun _ => c.holder kind id) fun groups (p : PrincipalKind × String) =>
      c.holderAmong groups p.1 p.2 :=
  fun st => ⟨.ok (kind, id), st, fun groups => Client.holder_ends c kind id (Memory.recalling groups st)⟩

/-- Looking up a holder and granting it something. -/
theorem alike_grant (c : Client) (resource : Resource) (kind : PrincipalKind) (id slug : String) :
    w.Alike (fun _ => do return (← c.holder kind id).grant resource slug)
      fun groups => c.grantAmong groups resource :=
  (alike_holder c kind id).bind fun p => World.alike_value ⟨p.1, p.2, slug⟩ fun _ => rfl

theorem alike_entryGrants {scope : Scope} {entries : List (String × String)} :
    w.Alike (fun _ => c.entryGrants scope resource entries)
      fun groups (as : List Appointment) => as.map (c.grantAmong groups resource) := by
  refine World.alike_mapM ?_ entries
  rintro ⟨slug, entry⟩
  have hholder : w.Alike (fun _ => c.holderOfEntry scope entry) fun groups (p : PrincipalKind × String) =>
      c.holderAmong groups p.1 p.2 := by
    refine alike_ofExcept.bind fun p => ?_
    refine (World.alike_of_spares Client.spares_idOfName).bind fun id => ?_
    exact alike_holder c p.kind id
  exact hholder.bind fun p => World.alike_value (⟨p.1, p.2, slug⟩ : Appointment) fun _ => rfl

/-- The grants of a resource are a page of appointments that the remembered groups present. -/
abbrev Presents (c : Client) (resource : Resource) (groups : Store Resource) :
    SyncPage Appointment → SyncPage Grant := SyncPage.map (c.grantAmong groups resource)

theorem alike_accountGrants : w.Alike (fun _ => accountGrants c resource) (Presents c resource) := by
  refine alike_available.bind fun available => ?_
  cases available with
  | false => exact World.alike_value .empty fun _ => rfl
  | true =>
    refine (World.alike_of_spares Client.spares_listRules).bind fun x => ?_
    refine alike_entryGrants.bind fun as => ?_
    exact World.alike_value (.last as x.2) fun _ => rfl

theorem alike_memberGrants : w.Alike (fun _ => memberGrants c resource)
    fun groups (as : List Appointment) => as.map (c.grantAmong groups resource) := by
  refine World.alike_mapM (fun reference => ?_) _
  exact alike_ofExcept.bind fun p => alike_grant c resource p.1 p.2 Entitlement.member

theorem alike_groupGrants : w.Alike (fun _ => groupGrants c resource) (Presents c resource) := by
  refine alike_ofExcept.bind fun _ => alike_memberGrants.bind fun members => ?_
  refine (World.alike_of_spares Client.spares_listRules).bind fun x => ?_
  refine alike_entryGrants.bind fun roles => ?_
  refine World.alike_value (.last (members ++ roles) x.2) fun groups => ?_
  simp [Presents, SyncPage.map, SyncPage.last]

theorem alike_servicePrincipalGrants :
    w.Alike (fun _ => servicePrincipalGrants c resource) (Presents c resource) := by
  refine alike_ofExcept.bind fun _ => ?_
  refine (World.alike_of_spares Client.spares_listRules).bind fun x => ?_
  refine alike_entryGrants.bind fun as => ?_
  exact World.alike_value (.last as x.2) fun _ => rfl

theorem alike_workspaceGrants : w.Alike (fun _ => workspaceGrants c resource) (Presents c resource) := by
  refine alike_available.bind fun available => ?_
  cases available with
  | false => exact World.alike_value .empty fun _ => rfl
  | true =>
    refine alike_ofExcept.bind fun id => ?_
    refine (World.alike_of_spares (Call.always_attempt Client.spares_listAssignments)).bind ?_
    rintro (e | ⟨assignments, rateLimit⟩)
    · dsimp only
      split
      · split_ifs
        · exact World.alike_value (.last [] _) fun _ => rfl
        · exact World.alike_fail e
      · exact World.alike_fail e
    · refine World.Alike.bind (World.alike_mapM (fun a => ?_) assignments) fun as =>
        World.alike_value (.last as rateLimit) fun _ => rfl
      unfold assignmentGrant
      split
      · split
        · exact alike_grant c resource _ _ Entitlement.member
        · exact World.alike_fail _
      · exact World.alike_fail _

/-- One page of the walk for a role. -/
theorem alike_pageGrants {d : Directory α} {attributes : List String} {scope : Scope} {start : UInt32}
    {holds : α → Bool} {grant : α → Call Grant}
    (h : ∀ a, w.Alike (fun _ => grant a) fun groups => c.grantAmong groups resource) :
    w.Alike (fun _ => pageGrants c d attributes scope start holds grant)
      fun groups (x : List Appointment × String) => (x.1.map (c.grantAmong groups resource), x.2) := by
  refine (World.alike_of_spares Client.spares_list).bind fun listing => ?_
  refine (World.alike_mapM h _).bind fun as => ?_
  exact World.alike_value (as, nextOf start listing) fun _ => rfl

theorem alike_walk {scope : Scope} {name : String} {place : Place} :
    w.Alike (fun _ => walk c resource scope name place)
      fun groups (x : List Appointment × PageStack) => (x.1.map (c.grantAmong groups resource), x.2) := by
  unfold walk
  dsimp only
  split
  case h_1 => exact World.alike_value ([], beginWalk place.stack) fun _ => rfl
  case h_5 => exact World.alike_fail _
  all_goals
    refine (alike_pageGrants fun a => alike_grant c resource _ _ Entitlement.member).bind fun x => ?_
    dsimp only
    exact alike_ofExcept.bind fun stack => World.alike_value (x.1, stack) fun _ => rfl

theorem alike_roleGrants {token : String} :
    w.Alike (fun _ => roleGrants c resource token) (Presents c resource) := by
  refine alike_ofExcept.bind fun _ => alike_ofExcept.bind fun _ => alike_ofExcept.bind fun _ => ?_
  exact alike_walk.bind fun x => World.alike_value ⟨x.1, x.2.token, none⟩ fun _ => rfl

/-- Whom the grants of a resource go to does not depend on the groups that are remembered. -/
theorem grants_alike (w : World σ) (c : Client) (allowed : List String) (t : ResourceType)
    (resource : Resource) (token : String) :
    w.Alike (fun _ => (c.adapterOf allowed t).grants resource token) (Presents c resource) := by
  cases t with
  | account => exact alike_accountGrants
  | workspace => exact alike_workspaceGrants
  | user => exact World.alike_value .empty fun _ => rfl
  | group => exact alike_groupGrants
  | servicePrincipal => exact alike_servicePrincipalGrants
  | role => exact alike_roleGrants

/-! ## Runs that list groups under the account -/

/-- Groups that are remembered as a listing under the account names them are presented as they would be
if they were not remembered. -/
theorem holderAmong_of_listedUnder {groups : Store Resource} (h : groups.ListedUnder c.accountResource)
    (kind : PrincipalKind) (id : String) : c.holderAmong groups kind id = c.holderAmong .empty kind id := by
  cases kind with
  | user => rfl
  | servicePrincipal => rfl
  | group =>
    unfold Client.holderAmong
    rw [Store.get?_empty]
    cases hget : groups.get? id with
    | none => rfl
    | some group =>
      dsimp only
      rw [h id group hget]

/-- The resource of a group tells the group's id. -/
theorem groupId_groupResource (g : Group) (parent : ResourceId) :
    (groupResource g parent).profile.text? "group_id" = some g.id := by
  have hkeep : ∀ r : Resource, ((r.withText "group_id" g.id).keepPlace parent).profile.text? "group_id" =
      some g.id := by
    intro r
    rw [text?_keepPlace _ _ (by decide) (by decide), text?_withText, if_pos rfl]
  unfold groupResource
  dsimp only
  split_ifs
  · exact hkeep _
  · rw [text?_withText, if_neg (by decide), hkeep]

/-- What a listing of groups returns are the resources of groups. -/
theorem mem_listGroups {parent : Option ResourceId} {token : String} {st st' : Memory × σ}
    {page : SyncPage Resource} (h : w.Ends ((groups c).list parent token) st (.ok page) st')
    {listed : Resource} (hlisted : listed ∈ page.items) :
    ∃ g p, parent = some p ∧ listed = groupResource g p := by
  cases parent with
  | none =>
    obtain ⟨hpage, -⟩ := World.ends_pure.1 h
    cases hpage
    cases hlisted
  | some p =>
    obtain ⟨place, -, h⟩ := World.ends_ofExcept_bind_ok.1 h
    have hpage : ∃ st₁, w.Ends (listPage c .groups Query.groupAttributes groupResource p place
        fun g r => Call.perform (.writeGroup g.id r)) st₁ (.ok page) st' := by
      dsimp only at h
      split_ifs at h
      · exact ⟨_, World.ends_perform_bind.1 h⟩
      · exact ⟨st, h⟩
    obtain ⟨st₁, hpage⟩ := hpage
    obtain ⟨listing, _, -, hpage⟩ := World.ends_bind_ok.1 hpage
    obtain ⟨_, _, -, hpage⟩ := World.ends_bind_ok.1 hpage
    obtain ⟨next, -, hpage⟩ := World.ends_ofExcept_bind_ok.1 hpage
    obtain ⟨hpage, -⟩ := World.ends_pure.1 hpage
    cases hpage
    obtain ⟨g, -, rfl⟩ := List.mem_map.1 hlisted
    exact ⟨g, p, rfl, rfl⟩

/-- A group that was listed under the account is named as its holder is if it is not remembered. -/
theorem holder_of_listed {log : List Step} {start last : Memory × σ} {allowed : List String}
    (hrun : Run w c allowed start log last) (hlog : ∀ step ∈ log, step.op.ListsUnder (· = c.accountResource))
    {id : String} {listed : Resource} (h : ListedIn log id listed) :
    c.holderAmong .empty .group id = ⟨listed.id, some [Entitlement.idOf listed.id Entitlement.member]⟩ := by
  obtain ⟨parent, token, page, hmem, hlisted, hid⟩ := h
  obtain ⟨st, st', hends⟩ := hrun.done hmem
  obtain ⟨g, p, rfl, rfl⟩ := mem_listGroups hends hlisted
  obtain rfl : p = c.accountResource := hlog _ hmem
  rw [groupId_groupResource] at hid
  cases hid
  rw [id_groupResource]
  rfl

/-- The first entitlement of a group is membership. -/
theorem member_of_entitlements {group : Resource} {token : String} {st st' : Memory × σ}
    {page : SyncPage Entitlement} (h : w.Ends ((groups c).entitlements group token) st (.ok page) st') :
    ∃ e rest, page.items = e :: rest ∧ e.purpose = .assignment ∧
      e.id = Entitlement.idOf group.id Entitlement.member := by
  obtain ⟨_, -, h⟩ := World.ends_ofExcept_bind_ok.1 h
  obtain ⟨⟨roles, rateLimit⟩, _, -, h⟩ := World.ends_bind_ok.1 h
  obtain ⟨hpage, -⟩ := World.ends_pure.1 h
  cases hpage
  exact ⟨_, _, rfl, rfl, rfl⟩

/-- The grant goes to that group, under the name that it was listed by and with the entitlement that its
members have. -/
structure GoesTo (w : World σ) (c : Client) (g : Grant) (group : Resource) : Prop where
  principal : g.principal = group.id
  expandable : ∀ token st page st', w.Ends ((groups c).entitlements group token) st (.ok page) st' →
    ∃ e rest, page.items = e :: rest ∧ e.purpose = .assignment ∧ g.expandable = some [e.id]

theorem goesTo_of_holder {id slug : String} {group : Resource}
    (h : c.holderAmong .empty .group id = ⟨group.id, some [Entitlement.idOf group.id Entitlement.member]⟩) :
    GoesTo w c (c.grantAmong .empty resource ⟨.group, id, slug⟩) group := by
  have hgrant : c.grantAmong .empty resource ⟨.group, id, slug⟩ =
      .ofSlug resource slug group.id (some [Entitlement.idOf group.id Entitlement.member]) := by
    rw [Client.grantAmong, h]
    rfl
  rw [hgrant]
  refine ⟨rfl, fun token st page st' hends => ?_⟩
  obtain ⟨e, rest, hitems, hpurpose, hid⟩ := member_of_entitlements hends
  refine ⟨e, rest, hitems, hpurpose, ?_⟩
  rw [hid]
  rfl

variable {allowed : List String} {before after : List Step} {start st st₁ last : Memory × σ} {t : ResourceType}
  {token : String} {r : Except Halt (SyncPage Grant)}

/-- In a run that begins with no groups remembered and lists groups under the account alone, grants are
listed as they would be with none remembered: to the same appointed principals, whatever is remembered,
and presented alike. An appointed group that some listing of the run returned is presented by that
resource, and its members hold what it holds. -/
theorem cache_is_transparent (hbefore : Run w c allowed start before st) (hfresh : start.1.groups = .empty)
    (hgrants : w.Ends ((c.adapterOf allowed t).grants resource token) st r st₁)
    (hafter : Run w c allowed st₁ after last)
    (hunder : ∀ step ∈ before ++ after, step.op.ListsUnder (· = c.accountResource)) :
    w.Ends ((c.adapterOf allowed t).grants resource token) (Memory.recalling .empty st) r
      (Memory.recalling .empty st₁) ∧
    ∃ appointed : Except Halt (SyncPage Appointment),
      (∀ groups, w.Ends ((c.adapterOf allowed t).grants resource token) (Memory.recalling groups st)
        (appointed.map (SyncPage.map (c.grantAmong groups resource))) (Memory.recalling groups st₁)) ∧
      r = appointed.map (SyncPage.map (c.grantAmong .empty resource)) ∧
      ∀ page, appointed = .ok page → ∀ a ∈ page.items, a.kind = .group → ∀ listed,
        ListedIn (before ++ after) a.id listed → GoesTo w c (c.grantAmong .empty resource a) listed := by
  have hlisted : st.1.groups.ListedUnder c.accountResource := by
    refine hbefore.listedUnder (fun step hmem => hunder step (List.mem_append_left _ hmem)) ?_
    rw [hfresh]
    exact Store.every_empty _
  have hpresent : c.grantAmong st.1.groups resource = c.grantAmong .empty resource := by
    funext a
    rw [Client.grantAmong, holderAmong_of_listedUnder hlisted, Client.grantAmong]
  obtain ⟨appointed, st', halike⟩ := grants_alike w c allowed t resource token st
  -- The call as it went is the one with the groups that were remembered.
  obtain ⟨hr, hst⟩ := Prod.mk.inj (hgrants.symm.trans (halike st.1.groups))
  rw [Presents, hpresent] at hr
  have hagain : ∀ groups, Memory.recalling groups st₁ = Memory.recalling groups st' := by
    intro groups
    rw [hst]
    rfl
  refine ⟨?_, appointed, ?_, hr, ?_⟩
  · rw [hr, hagain]
    exact halike .empty
  · intro groups
    rw [hagain]
    exact halike groups
  · intro page _ a _ hkind listed hmem
    obtain ⟨kind, id, slug⟩ := a
    obtain rfl : kind = .group := hkind
    refine goesTo_of_holder ?_
    obtain ⟨parent, token, page, hstep, hin, hid⟩ := hmem
    rcases List.mem_append.1 hstep with hstep | hstep
    · exact holder_of_listed hbefore (fun step hmem => hunder step (List.mem_append_left _ hmem))
        ⟨parent, token, page, hstep, hin, hid⟩
    · exact holder_of_listed hafter (fun step hmem => hunder step (List.mem_append_right _ hmem))
        ⟨parent, token, page, hstep, hin, hid⟩

/-! ## In the library -/

/-- The account of the library. -/
def libraryAccount : ResourceId := .ofType .account "a"

/-- The groups of the library from the place in the token on. -/
def libraryListing (token : String) : Operation := .list .group (some libraryAccount) token

/-- The second page of groups. -/
def secondPage : String := (PageStack.ofFrames [⟨"2", "group", ""⟩]).token

/-- The groups from the second on that administer the account. -/
def libraryGrants : Operation :=
  .grants .role (roleResource "account_admin" libraryAccount)
    (PageStack.ofFrames [⟨"2", "group", ""⟩, ⟨"", "user", ""⟩]).token

/-- After the first page of groups. -/
def onceListed : Memory × Unit :=
  (library.run ((libraryListing "").call Client.plain []).run (Memory.fresh, ())).2

/-- After the second page, which has the group that administers the account. -/
def twiceListed : Memory × Unit :=
  (library.run ((libraryListing secondPage).call Client.plain []).run onceListed).2

/-- What the first page came to, and then the second. -/
def librarySteps (second : SyncPage Resource) : List Step :=
  [⟨libraryListing "", (library.run ((libraryListing "").call Client.plain []).run (Memory.fresh, ())).1⟩,
    ⟨libraryListing secondPage, .ok second⟩]

theorem librarySteps_listUnder (second : SyncPage Resource) :
    ∀ step ∈ librarySteps second ++ [], step.op.ListsUnder (· = Client.plain.accountResource) := by
  intro step hstep
  simp only [librarySteps, List.append_nil, List.mem_cons, List.not_mem_nil, or_false] at hstep
  rcases hstep with rfl | rfl <;> exact rfl

/-- Only that group is presented by its path. -/
theorem holder_of_path {kind : PrincipalKind} {id : String}
    (h : (Client.plain.holderAmong .empty kind id).resource = .ofType .group "account/a/group/4") :
    kind = .group ∧ id = "4" := by
  have htype : (ResourceType.ofPrincipal kind).id = ResourceType.group.id := by
    have := congrArg ResourceId.resourceType h
    cases kind <;> exact this
  cases kind with
  | user | servicePrincipal => exact absurd htype (by decide)
  | group =>
    have hread : (ResourceId.ofType .group "account/a/group/4").platformId = .ok "4" := rfl
    rw [← h] at hread
    exact ⟨rfl, (ResourceId.platformId_groupPath hread).symm⟩

/-- The second page lists that group, and the grants go to it. -/
theorem library_lists : ∃ second page st',
    Run library Client.plain [] (Memory.fresh, ()) (librarySteps second) twiceListed ∧
    second.items.map (·.profile.text? "group_id") = [some "4"] ∧
    library.Ends (libraryGrants.call Client.plain []) twiceListed (.ok page) st' ∧
    page.items.map (·.principal) = [.ofType .group "account/a/group/4"] := by
  have hsecond : (library.run ((libraryListing secondPage).call Client.plain []).run onceListed).1.toOption.map
      (fun page : SyncPage Resource => page.items.map (·.profile.text? "group_id")) = some [some "4"] := by
    decide +kernel
  have hpage : (library.run (libraryGrants.call Client.plain []).run twiceListed).1.toOption.map
      (fun page : SyncPage Grant => page.items.map (·.principal)) =
        some [.ofType .group "account/a/group/4"] := by
    decide +kernel
  obtain ⟨second, hsecond, hids⟩ := World.ends_of_feature hsecond
  obtain ⟨page, hgrants, hprincipals⟩ := World.ends_of_feature hpage
  exact ⟨second, page, _, .step (.step .nil rfl) hsecond, hids, hgrants, hprincipals⟩

/-- That group is listed, and the grant to it is the same as if it had not been. -/
theorem cache_is_transparent_in_library : ∃ second page st',
    Run library Client.plain [] (Memory.fresh, ()) (librarySteps second) twiceListed ∧
    library.Ends (libraryGrants.call Client.plain []) twiceListed (.ok page) st' ∧
    library.Ends (libraryGrants.call Client.plain []) (Memory.recalling .empty twiceListed) (.ok page)
      (Memory.recalling .empty st') ∧
    ∃ listed, ListedIn (librarySteps second) "4" listed ∧
      ∃ g ∈ page.items, GoesTo library Client.plain g listed := by
  obtain ⟨second, page, st', hrun, hids, hgrants, hprincipals⟩ := library_lists
  obtain ⟨hagain, appointed, -, happointed, hgoes⟩ :=
    cache_is_transparent hrun rfl hgrants .nil (librarySteps_listUnder second)
  refine ⟨second, page, st', hrun, hgrants, hagain, ?_⟩
  obtain ⟨listed, hlisted, hid⟩ : ∃ r ∈ second.items, r.profile.text? "group_id" = some "4" :=
    List.mem_map.1 (hids ▸ List.mem_cons_self)
  have hstep : ListedIn (librarySteps second ++ []) "4" listed :=
    ⟨_, secondPage, second, List.mem_cons_of_mem _ List.mem_cons_self, hlisted, hid⟩
  cases appointed with
  | error halt => cases happointed
  | ok found =>
    cases happointed
    obtain ⟨g, hg, hprincipal⟩ : ∃ g ∈ found.items.map (Client.plain.grantAmong .empty _), g.principal =
        .ofType .group "account/a/group/4" := List.mem_map.1 (hprincipals ▸ List.mem_cons_self)
    obtain ⟨⟨kind, id, slug⟩, ha, rfl⟩ := List.mem_map.1 hg
    obtain ⟨rfl, rfl⟩ := holder_of_path hprincipal
    rw [List.append_nil] at hstep hgoes
    exact ⟨listed, hstep, _, hg, hgoes found rfl _ ha rfl listed hstep⟩

end Sync

end AccessSync
