import AccessSync.Proofs.Client.Replacement
import AccessSync.Proofs.Connector.Conclusion
import AccessSync.Proofs.Page.Sequence
import AccessSync.Proofs.Sync.RoleWalk
/-!
# Walks while the collections change

A peer may answer every page of the walk for a role as if its collections were others by then. Whatever it
answers, a call for a page fails, or leaves the frame of the page, or goes on in that frame behind where the
page began, and not behind the total that was reported (`Drifts`). So the walk ends, if there is a greatest
total and that leaves a position free: `role_walk_ends_under_drift`.
-/

namespace AccessSync

variable {α γ σ : Type} {w : World σ} {c : Client} {T : Nat}

/-! ## Totals -/

/-- The total that a listing reports. -/
def Listing.total? (v : Json) : Option UInt32 := do
  let r ← v.record? ["Resources", "totalResults"]
  r.field "totalResults" 0 Json.uint32?

theorem Listing.total?_of_read {readItem : Json → Option α} {v : Json} {items : List α} {total : UInt32}
    (h : read readItem v = some (items, total)) : total? v = some total := by
  obtain ⟨r, hr, h⟩ := Option.bind_eq_some_iff.1 h
  obtain ⟨items', -, h⟩ := Option.bind_eq_some_iff.1 h
  obtain ⟨total', htotal, h⟩ := Option.bind_eq_some_iff.1 h
  cases h
  exact Option.bind_eq_some_iff.2 ⟨r, hr, htotal⟩

/-- No listing that the peer ever answers reports a greater total. -/
def World.ReportsAtMost (w : World σ) (T : Nat) : Prop :=
  ∀ request s reply v total, request.method = .get → (w.answer request s).1 = some reply →
    Transport.content? some reply = some v → Listing.total? v = some total → total.toNat ≤ T

theorem World.ReportsAtMost.total_le (h : w.ReportsAtMost T) {d : Directory α} {scope : Scope}
    {terms : List Query.Term} {st st' : Memory × σ} {listing : Listing α}
    (hlist : w.Ends (c.list d scope terms) st (.ok listing) st') : listing.total.toNat ≤ T := by
  have hdoes := w.call_does_events (c.list d scope terms) st
  rw [show w.run (c.list d scope terms).run st = (.ok listing, st') from hlist] at hdoes
  obtain ⟨⟨⟨items, total⟩, rateLimit⟩, xs, ys, hes, hexchange, hys⟩ := Call.does_bind_ok.1 hdoes
  obtain ⟨rfl, rfl⟩ := Call.does_pure_ok.1 hys
  obtain ⟨url, request, reply, -, hasks, hev, hcontent⟩ := Client.content_of_exchange hexchange
  obtain ⟨v, hv, hread⟩ := Transport.json_of_content? hcontent
  rw [List.append_nil] at hes
  obtain ⟨st₁, hanswer⟩ := World.answer_of_mem_events (hes ▸ hev)
  exact h request st₁.2 reply v total hasks.method hanswer.symm hv (Listing.total?_of_read hread)

/-- What is returned to go on with leads behind where the page began, and not behind the total. -/
theorem nextStart_cases {start total : UInt32} (returned : Nat) (htotal : total.toNat ≤ T) (hT : T < lastPosition) :
    nextStart start returned total = "" ∨
      ∃ next : UInt32, nextStart start returned total = Text.ofNat next.toNat ∧ start < next ∧ next.toNat ≤ T := by
  unfold nextStart
  split_ifs with hends
  · exact .inl rfl
  obtain ⟨hsome, hmore⟩ := not_or.1 hends
  have hle : (after start returned).toNat ≤ total.toNat := UInt32.le_iff_toNat_le.1 (UInt32.not_lt.1 hmore)
  have hafter : (after start returned).toNat =
      min lastPosition (start.toNat + min lastPosition returned) := by
    unfold after lastPosition
    rw [UInt32.toNat_ofNat']
    simp only [Nat.pow_eq]
    omega
  refine .inr ⟨after start returned, rfl, ?_, hle.trans htotal⟩
  rw [UInt32.lt_iff_toNat_lt]
  omega

/-! ## Places of a walk -/

namespace World

/-- Called with the token, and from then on with each token that it returns until that is empty or the call
fails, the call is at these places, types of frames with positions. That is how it has failed, if it has. -/
inductive Visits (w : World σ) (fetch : String → Call (SyncPage γ)) (defaultType : String) :
    String → Memory × σ → List (String × UInt32) → Option Halt → Prop
  | last {token : String} {st st' : Memory × σ} {stack : PageStack} {start : UInt32} {page : SyncPage γ} :
      PageStack.resume token defaultType = .ok (stack, start) → w.Ends (fetch token) st (.ok page) st' →
      page.nextToken = "" → Visits w fetch defaultType token st [(stack.resourceType, start)] none
  | broken {token : String} {st st' : Memory × σ} {stack : PageStack} {start : UInt32} {halt : Halt} :
      PageStack.resume token defaultType = .ok (stack, start) → w.Ends (fetch token) st (.error halt) st' →
      Visits w fetch defaultType token st [(stack.resourceType, start)] (some halt)
  | more {token : String} {st st₁ : Memory × σ} {stack : PageStack} {start : UInt32} {page : SyncPage γ}
      {places : List (String × UInt32)} {ended : Option Halt} :
      PageStack.resume token defaultType = .ok (stack, start) → w.Ends (fetch token) st (.ok page) st₁ →
      page.nextToken ≠ "" → Visits w fetch defaultType page.nextToken st₁ places ended →
      Visits w fetch defaultType token st ((stack.resourceType, start) :: places) ended

variable {fetch : String → Call (SyncPage γ)} {defaultType token : String} {st st₁ : Memory × σ}
  {stack : PageStack} {start : UInt32} {page : SyncPage γ} {places : List (String × UInt32)} {ended : Option Halt}

/-- After a page with this token the walk is over, or it goes on through those places. -/
def VisitsOn (w : World σ) (fetch : String → Call (SyncPage γ)) (defaultType token : String)
    (st : Memory × σ) (places : List (String × UInt32)) (ended : Option Halt) : Prop :=
  token = "" ∧ places = [] ∧ ended = none ∨ token ≠ "" ∧ w.Visits fetch defaultType token st places ended

theorem Visits.of_page (hresume : PageStack.resume token defaultType = .ok (stack, start))
    (hpage : w.Ends (fetch token) st (.ok page) st₁)
    (h : w.VisitsOn fetch defaultType page.nextToken st₁ places ended) :
    w.Visits fetch defaultType token st ((stack.resourceType, start) :: places) ended := by
  rcases h with ⟨hnext, rfl, rfl⟩ | ⟨hnext, hrest⟩
  · exact .last hresume hpage hnext
  · exact .more hresume hpage hnext hrest

/-- A walk that fails does so in one of its calls. -/
theorem Visits.failed {halt : Halt} (h : w.Visits fetch defaultType token st places ended)
    (hended : ended = some halt) : ∃ token st st', w.Ends (fetch token) st (.error halt) st' := by
  induction h with
  | last => cases hended
  | broken _ hends =>
    cases hended
    exact ⟨_, _, _, hends⟩
  | more _ _ _ _ ih => exact ih hended

end World

/-- The positions begin there and go up, none behind the greatest total but the first. -/
inductive Rises (T : Nat) : UInt32 → List UInt32 → Prop
  | last {start : UInt32} : start.toNat ≤ max 1 T → Rises T start [start]
  | more {start next : UInt32} {starts : List UInt32} : start < next → Rises T next starts →
      Rises T start (start :: starts)

theorem Rises.length_le {start : UInt32} {starts : List UInt32} (h : Rises T start starts) :
    starts.length + start.toNat ≤ max 1 T + 1 := by
  induction h with
  | last hstart =>
    rw [List.length_singleton]
    omega
  | more hlt _ ih =>
    rw [UInt32.lt_iff_toNat_lt] at hlt
    rw [List.length_cons]
    omega

/-- The places of a walk through frames of these types: in each frame it begins at the first position and goes
up, and from there it goes to the next frame, or fails. -/
inductive Tour (T : Nat) : List ResourceType → List (String × UInt32) → Option Halt → Prop
  | done : Tour T [] [] none
  | broken {t : ResourceType} {ts : List ResourceType} {starts : List UInt32} {halt : Halt} :
      Rises T 1 starts → Tour T (t :: ts) (starts.map fun start => (t.id, start)) (some halt)
  | through {t : ResourceType} {ts : List ResourceType} {starts : List UInt32}
      {places : List (String × UInt32)} {ended : Option Halt} : Rises T 1 starts → Tour T ts places ended →
      Tour T (t :: ts) (starts.map (fun start => (t.id, start)) ++ places) ended

theorem Tour.length_le {ts : List ResourceType} {places : List (String × UInt32)} {ended : Option Halt}
    (h : Tour T ts places ended) : places.length ≤ ts.length * max 1 T := by
  have hfirst : (1 : UInt32).toNat = 1 := rfl
  induction h with
  | done => simp
  | broken hrises =>
    have hlength := hrises.length_le
    rw [List.length_map, List.length_cons, Nat.succ_mul]
    omega
  | through hrises _ ih =>
    have hlength := hrises.length_le
    rw [List.length_append, List.length_map, List.length_cons, Nat.succ_mul]
    omega

namespace Sync

variable {parent : ResourceId} {name : String} {t : ResourceType} {role : Resource} {st st' : Memory × σ}

/-! ## One call -/

/-- A part of the walk fails if its directory cannot be listed. -/
def FailsPart (w : World σ) (c : Client) (parent : ResourceId) (role : Resource) (name : String)
    (t : ResourceType) (d : Directory α) (attributes : List String) : Prop :=
  ∀ text below start st halt st',
    w.Ends (c.list d (.ofParent (some parent)) (windowTerms start attributes)) st (.error halt) st' →
    w.Ends (walk c role (.ofParent (some parent)) name ⟨.ofFrames (⟨text, t.id, ""⟩ :: below), start⟩) st
      (.error halt) st'

theorem users_failsPart : FailsPart w c parent role name .user .users Query.userRoleAttributes :=
  fun _ _ _ _ _ _ h => h.bind_error.bind_error

theorem groups_failsPart : FailsPart w c parent role name .group .groups Query.groupRoleAttributes :=
  fun _ _ _ _ _ _ h => h.bind_error.bind_error

theorem servicePrincipals_failsPart : FailsPart w c parent role name .servicePrincipal .servicePrincipals
    Query.servicePrincipalRoleAttributes :=
  fun _ _ _ _ _ _ h => h.bind_error.bind_error

theorem roleGrants_fails {token : String} {stack : PageStack} {start : UInt32} {halt : Halt}
    (hresume : PageStack.resume token ResourceType.role.id = .ok (stack, start))
    (hwalk : w.Ends (walk c (roleResource name parent) (.ofParent (some parent)) name ⟨stack, start⟩) st
      (.error halt) st') :
    w.Ends ((roles c).grants (roleResource name parent) token) st (.error halt) st' := by
  have hscope : w.Ends (Call.ofExcept Error.resourceId (roleResource name parent).scope) st (.ok _) st :=
    World.ends_ofExcept_ok.2 ⟨scope_roleResource name parent, rfl⟩
  have hname : w.Ends (Call.ofExcept Error.resourceId ((roleResource name parent).requireText roleNameKey)) st
      (.ok name) st := World.ends_ofExcept_ok.2 ⟨requireText_roleResource name parent, rfl⟩
  have hplace : w.Ends (resume token .role) st (.ok ⟨stack, start⟩) st :=
    World.ends_ofExcept_ok.2 ⟨by rw [hresume]; rfl, rfl⟩
  exact hscope.bind_iff.2 (hname.bind_iff.2 (hplace.bind_iff.2 hwalk.bind_error))

/-- In a frame of that type a call fails, or leaves the frame, or goes on in the frame behind where it was. -/
def Drifts (w : World σ) (c : Client) (role : Resource) (T : Nat) (t : ResourceType) : Prop :=
  ∀ token below start st, PageStack.LeadsTo token ResourceType.role.id t.id below start.toNat →
    (∃ halt st', w.Ends ((roles c).grants role token) st (.error halt) st') ∨
    ∃ page st', w.Ends ((roles c).grants role token) st (.ok page) st' ∧
      (page.nextToken = (PageStack.ofFrames below).token ∨
        ∃ next : UInt32, start < next ∧ next.toNat ≤ T ∧ page.nextToken ≠ "" ∧
          PageStack.LeadsTo page.nextToken ResourceType.role.id t.id below next.toNat)

theorem drifts_of_part {kind : PrincipalKind} {d : Directory α} {attributes : List String} {holds : α → Bool}
    (hwalks : WalksPart w c parent (roleResource name parent) name t kind d attributes holds)
    (hfails : FailsPart w c parent (roleResource name parent) name t d attributes) (hT : T < lastPosition)
    (hreports : w.ReportsAtMost T) : Drifts w c (roleResource name parent) T t := by
  rintro token below start st ⟨text, hresume⟩
  rw [UInt32.ofNat_toNat] at hresume
  cases hrun : w.run (c.list d (.ofParent (some parent)) (windowTerms start attributes)).run st with
  | mk result st' =>
  cases result with
  | error halt => exact .inl ⟨halt, st', roleGrants_fails hresume (hfails text below start st halt st' hrun)⟩
  | ok listing =>
    have hadvance := PageStack.advance_cons (nextOf start listing) ⟨text, t.id, ""⟩ below
    have hpage := roleGrants_ends hresume (hwalks text below start st listing st' _ hrun hadvance)
    refine .inr ⟨_, st', hpage, ?_⟩
    dsimp only [nextOf]
    rcases nextStart_cases listing.items.length (hreports.total_le hrun) hT with hnext | ⟨next, hnext, hlt, hle⟩
    · rw [hnext]
      exact .inl rfl
    · rw [hnext]
      refine .inr ⟨next, hlt, hle, PageStack.token_advanceHead_ne_empty _ _ below, ?_⟩
      exact PageStack.leadsTo_advanceHead (Nat.le_of_lt (Nat.lt_of_le_of_lt hle hT)) text _ t.id below

/-! ## A whole part -/

section Part
variable {below : List PageFrame} {ts : List ResourceType}

/-- From a position on a part of the walk goes up until the walk fails or goes to the next part. -/
theorem Drifts.visits (h : Drifts w c role T t)
    (hdone : ∀ st₁, ∃ places ended, w.VisitsOn ((roles c).grants role) ResourceType.role.id
      (PageStack.ofFrames below).token st₁ places ended ∧ Tour T ts places ended)
    {token : String} {start : UInt32} (hstart : start.toNat ≤ max 1 T)
    (hleads : PageStack.LeadsTo token ResourceType.role.id t.id below start.toNat) (st : Memory × σ) :
    ∃ starts places ended, w.Visits ((roles c).grants role) ResourceType.role.id token st
        (starts.map (fun start => (t.id, start)) ++ places) ended ∧ Rises T start starts ∧
      (Tour T ts places ended ∨ places = [] ∧ ∃ halt, ended = some halt) := by
  -- Every call of the part begins nearer to the greatest total.
  induction hleft : max 1 T - start.toNat using Nat.strong_induction_on generalizing token start st with
  | _ left ih =>
    obtain ⟨text, hresume⟩ := id hleads
    rw [UInt32.ofNat_toNat] at hresume
    rcases h token below start st hleads with ⟨halt, st', hends⟩ | ⟨page, st', hends, hnext | hnext⟩
    · exact ⟨[start], [], some halt, .broken hresume hends, .last hstart, .inr ⟨rfl, halt, rfl⟩⟩
    · obtain ⟨places, ended, hvisits, htour⟩ := hdone st'
      rw [← hnext] at hvisits
      exact ⟨[start], places, ended, .of_page hresume hends hvisits, .last hstart, .inl htour⟩
    · obtain ⟨next, hlt, hle, hne, hleads'⟩ := hnext
      have hnearer : max 1 T - next.toNat < left := by
        rw [UInt32.lt_iff_toNat_lt] at hlt
        omega
      obtain ⟨starts, places, ended, hvisits, hrises, htour⟩ :=
        ih _ hnearer (hle.trans (Nat.le_max_right 1 T)) hleads' st' rfl
      exact ⟨start :: starts, places, ended, .of_page hresume hends (.inr ⟨hne, hvisits⟩), .more hlt hrises, htour⟩

/-- From its frame on a part goes up from the first position, and then the walk goes on. -/
theorem Drifts.tour (h : Drifts w c role T t)
    (hdone : ∀ st₁, ∃ places ended, w.VisitsOn ((roles c).grants role) ResourceType.role.id
      (PageStack.ofFrames below).token st₁ places ended ∧ Tour T ts places ended) (st : Memory × σ) :
    ∃ places ended, w.VisitsOn ((roles c).grants role) ResourceType.role.id
      (PageStack.ofFrames (.ofType t.id :: below)).token st places ended ∧ Tour T (t :: ts) places ended := by
  have hleads : PageStack.LeadsTo (PageStack.ofFrames (.ofType t.id :: below)).token ResourceType.role.id t.id below
      (1 : UInt32).toNat := PageStack.leadsTo_ofType _ t.id below
  have hfirst : (1 : UInt32).toNat ≤ max 1 T := Nat.le_max_left 1 T
  obtain ⟨starts, places, ended, hvisits, hrises, htour | ⟨rfl, halt, rfl⟩⟩ :=
    h.visits hdone hfirst hleads st
  · exact ⟨_, ended, .inr ⟨PageStack.token_ne_empty rfl, hvisits⟩, .through hrises htour⟩
  · rw [List.append_nil] at hvisits
    exact ⟨_, some halt, .inr ⟨PageStack.token_ne_empty rfl, hvisits⟩, .broken hrises⟩

end Part

/-! ## The whole walk -/

/-- Whatever a peer answers to the pages of the walk for a role that was listed, if none of the totals that it
reports is greater than `T` and there is a position behind that: the walk begins with its first call and goes
through the service principals, then the groups and then the users, each time from the first position on
upwards, until it is over or a call fails. That takes no more calls than the frames have positions. A
call that fails has an error, or came upon a reply beyond the calendar. -/
theorem role_walk_ends_under_drift {above : Option ResourceId} {before : String} {page : SyncPage Resource}
    {st₀ st₁ : Memory × σ} (hlisted : w.Ends ((roles c).list above before) st₀ (.ok page) st₁)
    (hrole : role ∈ page.items) (hT : T < lastPosition) (hreports : w.ReportsAtMost T) (st : Memory × σ) :
    ∃ places ended,
      w.Visits ((roles c).grants role) ResourceType.role.id "" st ((ResourceType.role.id, 1) :: places) ended ∧
      Tour T [.servicePrincipal, .group, .user] places ended ∧
      ((ResourceType.role.id, 1) :: places).length ≤ 1 + 3 * max 1 T ∧
      (ended = some .beyondCalendar → ∃ token st',
        Transport.Untimely c.credentials (w.events ((roles c).grants role token).run st')) := by
  cases above with
  | none =>
    obtain ⟨hpage, -⟩ := World.ends_pure.1 hlisted
    cases hpage
    cases hrole
  | some parent =>
    obtain ⟨name, -, rfl⟩ := mem_listed_roles hlisted hrole
    -- From the last part to the first: each goes on with what comes after it.
    have hend : ∀ st₁ : Memory × σ, ∃ places ended,
        w.VisitsOn ((roles c).grants (roleResource name parent)) ResourceType.role.id
          (PageStack.ofFrames []).token st₁ places ended ∧ Tour T [] places ended :=
      fun _ => ⟨[], none, .inl ⟨rfl, rfl, rfl⟩, .done⟩
    have huserPart := (drifts_of_part users_walksPart users_failsPart hT hreports).tour hend
    have hgroupPart := (drifts_of_part groups_walksPart groups_failsPart hT hreports).tour huserPart
    obtain ⟨places, ended, hvisits, htour⟩ :=
      (drifts_of_part servicePrincipals_walksPart servicePrincipals_failsPart hT hreports).tour hgroupPart st
    have hwalk := World.Visits.of_page (PageStack.resume_empty _) (begin_ends st) hvisits
    refine ⟨places, ended, hwalk, htour, ?_, fun hended => ?_⟩
    · have hlength := htour.length_le
      simp only [List.length_cons, List.length_nil] at hlength ⊢
      omega
    · obtain ⟨token, st', _, hends⟩ := hwalk.failed hended
      have hdoes := w.call_does_events ((roles c).grants (roleResource name parent) token) st'
      have hstops := reads_roleGrants.composed.stops _ _ hdoes
      refine ⟨token, st', hstops.1 ?_⟩
      rw [show w.run ((roles c).grants (roleResource name parent) token).run st' = (.error .beyondCalendar, _)
        from hends]

/-- What a peer answers to a request for a page, if it has two objects and one of them on the page, or one object
that is on no page. -/
def driftingText (two : Bool) : String :=
  if two then "\x7b\"Resources\":[\x7b\"id\":\"7\"\x7d],\"totalResults\":2\x7d" else "\x7b\"totalResults\":1\x7d"

/-- A peer that has two objects of each kind at every other request, and one at the others. -/
def drifting : World Nat where
  now _ := ⟨0⟩
  answer _ n := (some (Transport.replyOf (driftingText (n % 2 = 0))), n + 1)

theorem drifting_reports : drifting.ReportsAtMost 2 := by
  have hall : ∀ two, ((Transport.content? some (Transport.replyOf (driftingText two))).bind Listing.total?).all
      (·.toNat ≤ 2) = true := by decide +kernel
  intro request n reply v total _ hreply hcontent htotal
  obtain rfl : Transport.replyOf (driftingText (n % 2 = 0)) = reply := Option.some.inj hreply
  have htwo := hall (n % 2 = 0)
  rw [hcontent, Option.bind_some, htotal] at htwo
  exact of_decide_eq_true htwo

/-- The walk through its collections is over after seven calls at most. -/
theorem role_walk_ends_under_drift_of_two : ∃ places ended,
    drifting.Visits ((roles Client.plain).grants (roleResource "account_admin" (.ofType .account "a")))
      ResourceType.role.id "" (Memory.fresh, 0) ((ResourceType.role.id, 1) :: places) ended ∧
    Tour 2 [.servicePrincipal, .group, .user] places ended ∧
    ((ResourceType.role.id, 1) :: places).length ≤ 7 := by
  have hlisted : drifting.Ends ((roles Client.plain).list (some (.ofType .account "a")) "") (Memory.fresh, 0)
      (.ok (.only [roleResource "account_admin" (.ofType .account "a")])) (Memory.fresh, 0) :=
    World.ends_pure.2 ⟨rfl, rfl⟩
  obtain ⟨places, ended, hvisits, htour, hlength, -⟩ := role_walk_ends_under_drift hlisted List.mem_cons_self
    (by decide) drifting_reports (Memory.fresh, 0)
  exact ⟨places, ended, hvisits, htour, hlength⟩

end Sync

end AccessSync
