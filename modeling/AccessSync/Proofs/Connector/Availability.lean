import AccessSync.Proofs.Connector.Confinement
import AccessSync.Proofs.Program.Interleaving
import AccessSync.Proofs.Sync.RoleWalk
/-!
# Syncing without the account

A client remembers whether the account's API has accepted its credentials. Where it has not, the host finds
the account, its workspaces and their roles (`Connector.Reached`). What it has the adapters do with these
(`Connector.Syncs`) exchanges messages with workspaces alone, as `Client.Abstains` says of a call, with one
exception: workspaces are listed by the account, whatever is remembered of it. Main statements:
`syncs_without_account`, and `listing_asks_account` for the exception.
-/

namespace AccessSync

/-- Whenever it was looked up, the account's API was not available. -/
def Event.WithoutAccount (es : List Event) : Prop :=
  ∀ a : Availability, (⟨.readAvailability, a⟩ : Event) ∈ es → a.account = false

theorem Event.Exchanges.not_writes {ev : Event} (h : ev.Exchanges) (a : Availability) :
    ev.effect ≠ .writeAvailability a := by
  obtain ⟨e, answer⟩ := ev
  rintro rfl
  exact h.elim

/-! ## Calls that abstain from the account -/

namespace Client

variable {α β : Type} {c : Client} {es : List Event} {name : String}

/-- Where the account's API is not available, the call exchanges messages with workspaces alone, and it does
not say anything about what is available. -/
inductive Abstains (c : Client) : {α : Type} → Call α → Prop
  | pure {α : Type} (a : α) : Abstains c (Pure.pure a)
  | fail {α : Type} (e : Error) : Abstains c (Call.fail e : Call α)
  | perform {e : Effect} : e.Remembers AnyParent → (∀ a, e ≠ .writeAvailability a) → Abstains c (Call.perform e)
  | exchange {α : Type} {read : Json → Option α} {method : Http.Method} {name : String} {url : Url}
      {body : Option Json} {terms : List Query.Term} : c.Resolves (.workspace name) url →
      Abstains c (Transport.exchange c.credentials read method (.workspace name) url body terms)
  | bind {α β : Type} {x : Call α} {f : α → Call β} : Abstains c x → (∀ a, Abstains c (f a)) → Abstains c (x >>= f)
  | available {β : Type} {f : Availability → Call β} : (∀ a, a.account = false → Abstains c (f a)) →
      Abstains c (Call.perform .readAvailability >>= f)

/-- The event does not say what is available, and as a request it is sent to a workspace in the course of those
events. -/
def Apart (c : Client) (es : List Event) (ev : Event) : Prop :=
  (∀ a, ev.effect ≠ .writeAvailability a) ∧
    ∀ request, ev.request? = some request → ∃ name, c.Sends es (.workspace name) request

theorem Apart.mono {fs : List Event} {ev : Event} (h : c.Apart es ev) (hes : es <:+: fs) : c.Apart fs ev := by
  refine ⟨h.1, fun request hrequest => ?_⟩
  obtain ⟨name, hsends⟩ := h.2 request hrequest
  exact ⟨name, hsends.mono hes⟩

theorem apart_of_remembers {e : Effect} (he : e.Remembers AnyParent) (hwrite : ∀ a, e ≠ .writeAvailability a)
    (answer : e.Answer) : c.Apart es ⟨e, answer⟩ := by
  refine ⟨hwrite, fun request hrequest => ?_⟩
  rw [request?_of_remembers he] at hrequest
  cases hrequest

/-- What a call does that abstains from the account, as long as it finds that not to be available. -/
theorem Abstains.apart {x : Call α} (h : c.Abstains x) {r : Option (Except Halt α)} (hdoes : x.Does es r)
    (hes : Event.WithoutAccount es) : ∀ ev ∈ es, c.Apart es ev := by
  induction h generalizing es with
  | pure =>
    obtain ⟨rfl, -⟩ := Call.does_pure.1 hdoes
    simp
  | fail =>
    obtain ⟨rfl, -⟩ := Call.does_fail.1 hdoes
    simp
  | perform he hwrite =>
    rcases Call.does_perform.1 hdoes with ⟨rfl, -⟩ | ⟨answer, rfl, -⟩
    · simp
    · simpa using apart_of_remembers he hwrite answer
  | exchange hurl =>
    intro ev hev
    refine ⟨(Transport.always_exchange es r hdoes ev hev).not_writes, fun request hrequest => ?_⟩
    obtain ⟨answer, rfl⟩ := Event.eq_send hrequest
    obtain ⟨_, rfl, hsends⟩ := sendsIn_exchange rfl hurl es r hdoes request answer hev
    exact ⟨_, hsends⟩
  | bind _ _ ihx ihf =>
    rcases Call.does_bind.1 hdoes with ⟨hxs, -⟩ | ⟨_, hxs, -⟩ | ⟨a, xs, ys, rfl, hxs, hys⟩
    · exact ihx hxs hes
    · exact ihx hxs hes
    intro ev hev
    rcases List.mem_append.1 hev with hev | hev
    · have hfirst := ihx hxs (fun a ha => hes a (List.mem_append_left _ ha)) ev hev
      exact hfirst.mono (List.prefix_append ..).isInfix
    · have hsecond := ihf a hys (fun a ha => hes a (List.mem_append_right _ ha)) ev hev
      exact hsecond.mono (List.suffix_append ..).isInfix
  | available _ ih =>
    rcases Call.does_perform_bind.1 hdoes with ⟨rfl, -⟩ | ⟨a, ys, rfl, hys⟩
    · simp
    -- Only what is done where the account is not available matters.
    have ha : a.account = false := hes a List.mem_cons_self
    intro ev hev
    rcases List.mem_cons.1 hev with rfl | hev
    · have hreads : Effect.Remembers AnyParent .readAvailability := trivial
      exact apart_of_remembers hreads (fun _ => by simp) a
    · have hrest := ih a ha hys (fun a ha => hes a (List.mem_cons_of_mem _ ha)) ev hev
      exact hrest.mono (List.suffix_cons ..).isInfix

/-! ## Calls to a workspace -/

theorem abstains_ofExcept {ε : Type} {error : ε → Error} {v : Except ε α} :
    c.Abstains (Call.ofExcept error v) := by
  cases v with
  | ok a => exact .pure a
  | error fault => exact .fail _

theorem abstains_ofExcept_bind {ε : Type} {error : ε → Error} {v : Except ε α} {f : α → Call β}
    (h : ∀ a, v = .ok a → c.Abstains (f a)) : c.Abstains (Call.ofExcept error v >>= f) := by
  cases v with
  | ok a => exact h a rfl
  | error fault => exact .fail _

theorem abstains_mapM {f : α → Call β} (h : ∀ a, c.Abstains (f a)) (xs : List α) : c.Abstains (xs.mapM f) := by
  induction xs with
  | nil => exact .pure []
  | cons a xs ih =>
    rw [List.mapM_cons]
    exact .bind (h a) fun _ => .bind ih fun _ => .pure _

theorem abstains_list {d : Directory α} {terms : List Query.Term} :
    c.Abstains (c.list d (.workspace name) terms) := by
  have hexchange : c.Abstains (c.exchange (Listing.read (d.read Listing.depth)) .get (.workspace name)
      (c.resolver.resolve d.endpoint (.workspace name)) none terms) :=
    abstains_ofExcept_bind fun url hurl => .exchange (resolves_resolve url hurl)
  exact .bind hexchange fun _ => .pure _

theorem abstains_holder {kind : PrincipalKind} {id : String} : c.Abstains (c.holder kind id) := by
  cases kind with
  | user => exact .pure _
  | group => exact .bind (.perform trivial fun _ => by simp) fun _ => .pure _
  | servicePrincipal => exact .pure _

end Client

namespace Sync

variable {c : Client} {name : String}

/-- Where there is something only if the account is available, what there is otherwise counts. -/
theorem abstains_accountAvailable {β : Type} {f : Bool → Call β} (h : c.Abstains (f false)) :
    c.Abstains (accountAvailable >>= f) := by
  have habstains : c.Abstains (Call.perform .readAvailability >>= fun a => f a.account) :=
    .available fun a ha => by rwa [ha]
  exact habstains

theorem abstains_pageGrants {α : Type} {d : Directory α} {attributes : List String} {start : UInt32}
    {holds : α → Bool} {grant : α → Call Grant} (h : ∀ a, c.Abstains (grant a)) :
    c.Abstains (pageGrants c d attributes (.workspace name) start holds grant) :=
  .bind Client.abstains_list fun _ => .bind (Client.abstains_mapM h _) fun _ => .pure _

theorem abstains_walk {role : Resource} {permission : String} {place : Place} :
    c.Abstains (walk c role (.workspace name) permission place) := by
  unfold walk
  dsimp only
  split
  case h_1 => exact .pure _
  case h_5 => exact .fail _
  all_goals
    refine .bind (abstains_pageGrants fun _ => .bind Client.abstains_holder fun _ => .pure _) fun _ => ?_
    exact .bind Client.abstains_ofExcept fun _ => .pure _

/-- Nothing is looked up for listing workspaces. -/
theorem exchanges_listWorkspaces {allowed : List String} {parent : ResourceId} :
    (listWorkspaces c allowed parent).Always Event.Exchanges := by
  refine Call.always_bind ?_ fun _ => Call.always_pure
  exact Call.always_bind Client.always_exchange fun _ => Call.always_pure

/-- The holders of a workspace's role are found in the workspace. -/
theorem abstains_roleGrants {role : String} {parent : ResourceId} {token : String}
    (hparent : parent.isA .workspace) : c.Abstains (roleGrants c (roleResource role parent) token) := by
  refine Client.abstains_ofExcept_bind fun scope hscope => ?_
  obtain rfl : Scope.workspace parent.resource = scope := by
    rw [scope_roleResource, Scope.ofParent, if_pos hparent] at hscope
    exact Except.ok.inj hscope
  refine .bind Client.abstains_ofExcept fun _ => .bind Client.abstains_ofExcept fun _ => ?_
  exact .bind abstains_walk fun _ => .pure _

end Sync

/-! ## What the host comes across -/

theorem ResourceType.id_injective : Function.Injective ResourceType.id := by
  intro t t' h
  cases t <;> cases t' <;> first | rfl | simp [id] at h

theorem ResourceId.eq_of_isA {t t' : ResourceType} {resource : String} (h : (ofType t resource).isA t') : t' = t :=
  ResourceType.id_injective (of_decide_eq_true h).symm

namespace Connector

open Sync

variable {c : Connector}

/-- The resource can be listed by the adapter for a type of resources while the account is not available. -/
def Lists (c : Connector) (t : ResourceType) (parent : Option ResourceId) (r : Resource) : Prop :=
  ∃ token es page, ((c.client.adapterOf c.config.workspaces t).list parent token).Does es (some (.ok page)) ∧
    Event.WithoutAccount es ∧ r ∈ page.items

/-- The resource is the account or, by the types that resources show, one under it, found while the account is
not available. -/
inductive Reached (c : Connector) : Resource → Prop
  | root {parent : Option ResourceId} {r : Resource} : c.Lists .account parent r → Reached c r
  | child {r r' : Resource} {t : ResourceType} : Reached c r → t.id ∈ r.childTypes → c.Lists t (some r.id) r' →
      Reached c r'

/-- The host lists the account, or what is under a resource that it has reached, or what can be granted or is
granted on such a resource. -/
inductive Syncs (c : Connector) : Operation → Prop
  | root (parent : Option ResourceId) (token : String) : Syncs c (.list .account parent token)
  | list {r : Resource} {t : ResourceType} (token : String) : c.Reached r → t.id ∈ r.childTypes →
      Syncs c (.list t (some r.id) token)
  | entitlements {r : Resource} {t : ResourceType} (token : String) : c.Reached r → r.id.isA t →
      Syncs c (.entitlements t r token)
  | grants {r : Resource} {t : ResourceType} (token : String) : c.Reached r → r.id.isA t →
      Syncs c (.grants t r token)

/-- What can be reached: the account, which shows workspaces, workspaces, which show roles, and these. -/
inductive Shown (c : Connector) : Resource → Prop
  | account : Shown c (accountResource c.client.accountId false)
  | workspace (w : Workspace) (parent : ResourceId) : Shown c (workspaceResource w parent)
  | role (role : String) {parent : ResourceId} : parent.isA .workspace → Shown c (roleResource role parent)

theorem shown_of_root {parent : Option ResourceId} {r : Resource} (h : c.Lists .account parent r) : c.Shown r := by
  obtain ⟨token, es, page, hdoes, hes, hr⟩ := h
  obtain ⟨available, xs, ys, rfl, hxs, hys⟩ := Call.does_bind_ok.1 hdoes
  obtain ⟨a, us, vs, rfl, hus, hvs⟩ := Call.does_bind_ok.1 hxs
  obtain ⟨rfl, rfl⟩ := Call.does_pure_ok.1 hvs
  obtain ⟨rfl, rfl⟩ := Call.does_pure_ok.1 hys
  rcases Call.does_perform.1 hus with ⟨-, hno⟩ | ⟨answer, rfl, heq⟩
  · cases hno
  cases heq
  have ha : a.account = false := hes a (by simp)
  rw [SyncPage.only, List.mem_singleton] at hr
  rw [hr, ha]
  exact .account

theorem workspace_of_lists {parent : ResourceId} {r : Resource} (h : c.Lists .workspace (some parent) r) :
    ∃ w, r = workspaceResource w parent := by
  obtain ⟨token, es, page, hdoes, -, hr⟩ := h
  obtain ⟨⟨workspaces, rateLimit⟩, xs, ys, rfl, -, hys⟩ := Call.does_bind_ok.1 hdoes
  obtain ⟨-, rfl⟩ := Call.does_pure_ok.1 hys
  obtain ⟨w, -, rfl⟩ := List.mem_map.1 hr
  exact ⟨w, rfl⟩

theorem shown_of_roles {parent : ResourceId} {r : Resource} (hparent : parent.isA .workspace)
    (h : c.Lists .role (some parent) r) : c.Shown r := by
  obtain ⟨token, es, page, hdoes, -, hr⟩ := h
  obtain ⟨-, rfl⟩ := Call.does_pure_ok.1 hdoes
  obtain ⟨role, -, rfl⟩ := List.mem_map.1 hr
  exact .role role hparent

/-- The account shows workspaces and workspaces show roles. -/
theorem Shown.child {r : Resource} {t : ResourceType} (h : c.Shown r) (ht : t.id ∈ r.childTypes) :
    (r = accountResource c.client.accountId false ∧ t = .workspace) ∨ (r.id.isA .workspace ∧ t = .role) := by
  cases h with
  | account =>
    have htypes : (accountResource c.client.accountId false).childTypes = [ResourceType.workspace.id] := rfl
    rw [htypes, List.mem_singleton] at ht
    exact .inl ⟨rfl, ResourceType.id_injective ht⟩
  | workspace w parent =>
    have htypes : (workspaceResource w parent).childTypes = [ResourceType.role.id] := rfl
    rw [htypes, List.mem_singleton] at ht
    exact .inr ⟨rfl, ResourceType.id_injective ht⟩
  | role role hparent => cases ht

theorem Reached.shown {r : Resource} (h : c.Reached r) : c.Shown r := by
  induction h with
  | root hlists => exact shown_of_root hlists
  | child _ ht hlists ih =>
    rcases ih.child ht with ⟨-, rfl⟩ | ⟨hparent, rfl⟩
    · obtain ⟨w, rfl⟩ := workspace_of_lists hlists
      exact .workspace w _
    · exact shown_of_roles hparent hlists

/-- The account itself is always reached. -/
theorem reached_account (c : Connector) : c.Reached (accountResource c.client.accountId false) := by
  have hdoes : ((c.client.adapterOf c.config.workspaces .account).list none "").Does
      [⟨.readAvailability, ⟨false, true⟩⟩] (some (.ok (.only [accountResource c.client.accountId false]))) := by
    refine Call.does_bind_ok.2 ⟨false, [_], [], rfl, ?_, Call.does_pure.2 ⟨rfl, rfl⟩⟩
    refine Call.does_bind_ok.2 ⟨⟨false, true⟩, [_], [], rfl, ?_, Call.does_pure.2 ⟨rfl, rfl⟩⟩
    exact Call.does_perform.2 (.inr ⟨_, rfl, rfl⟩)
  have hes : Event.WithoutAccount [⟨.readAvailability, ⟨false, true⟩⟩] := by
    intro a ha
    rw [List.mem_singleton] at ha
    cases ha
    rfl
  exact .root ⟨"", _, _, hdoes, hes, List.mem_singleton.2 rfl⟩

/-- The one listing that needs the account. -/
def ListsWorkspaces : Operation → Prop
  | .list .workspace (some _) _ => True
  | _ => False

/-- All else that a sync asks for abstains from the account. -/
theorem Syncs.abstains {op : Operation} (h : c.Syncs op) (hop : ¬ListsWorkspaces op) :
    c.client.Abstains (op.call c.client c.config.workspaces) := by
  cases h with
  | root parent token => exact abstains_accountAvailable (.pure _)
  | list token hr ht =>
    rcases hr.shown.child ht with ⟨-, rfl⟩ | ⟨-, rfl⟩
    · exact absurd trivial hop
    · exact .pure _
  | entitlements token hr ht =>
    cases hr.shown with
    | account =>
      obtain rfl := ResourceId.eq_of_isA ht
      exact abstains_accountAvailable (.pure _)
    | workspace =>
      obtain rfl := ResourceId.eq_of_isA ht
      exact abstains_accountAvailable (.pure _)
    | role =>
      obtain rfl := ResourceId.eq_of_isA ht
      exact .pure _
  | grants token hr ht =>
    cases hr.shown with
    | account =>
      obtain rfl := ResourceId.eq_of_isA ht
      exact abstains_accountAvailable (.pure _)
    | workspace =>
      obtain rfl := ResourceId.eq_of_isA ht
      exact abstains_accountAvailable (.pure _)
    | role role hparent =>
      obtain rfl := ResourceId.eq_of_isA ht
      exact abstains_roleGrants hparent

/-- Listing workspaces has no value unless the account is asked. -/
theorem scoped_listing {op : Operation} (hop : ListsWorkspaces op) :
    c.client.Scoped .account true (op.call c.client c.config.workspaces) := by
  unfold ListsWorkspaces at hop
  split at hop
  · exact .asking Client.scoped_listWorkspaces fun _ => .pure _
  · exact hop.elim

/-- Whatever a sync asks for, it does not say what is available. -/
theorem Syncs.not_writes {op : Operation} (h : c.Syncs op) {es : List Event} {r : Option (Except Halt op.Result)}
    (hdoes : (op.call c.client c.config.workspaces).Does es r) (hes : Event.WithoutAccount es) :
    ∀ ev ∈ es, ∀ a, ev.effect ≠ .writeAvailability a := by
  by_cases hop : ListsWorkspaces op
  · unfold ListsWorkspaces at hop
    split at hop
    · exact fun ev hev => (exchanges_listWorkspaces es r hdoes ev hev).not_writes
    · exact hop.elim
  · exact fun ev hev => ((h.abstains hop).apart hdoes hes ev hev).1

/-! ## Runs -/

/-- A successful probe is remembered. -/
theorem availability_of_probe {σ : Type} {w : World σ} {st st' : Memory × σ} {a : Availability}
    (h : w.Ends c.probe st (.ok a) st') : st'.1.availability = a := by
  obtain ⟨account, st₁, -, h⟩ := World.ends_bind_ok.1 h
  obtain ⟨names, st₂, -, h⟩ := World.ends_bind_ok.1 h
  obtain ⟨_, st₃, -, h⟩ := World.ends_bind_ok.1 h
  dsimp only at h
  split_ifs at h
  · have hwritten := World.ends_perform_bind.1 h
    obtain ⟨heq, rfl⟩ := World.ends_pure.1 hwritten
    cases heq
    rfl
  · cases (World.ends_fail.1 h).1

section Pool

open Pool

variable {ι σ : Type} [DecidableEq ι] {rule : PeerRule σ} {tasks : ι → Task} {m : Memory} {s : σ}
  {es : List (ι × Event)} {st : Stage ι Unit σ (Except Halt Unit)}

/-- Those of the tasks that are no part of a sync only say of the account that it is not available, if
anything. -/
def OthersDeny (c : Connector) (tasks : ι → Task) (es : List (ι × Event)) : Prop :=
  ∀ i a, (∀ op, tasks i = .operation op → ¬c.Syncs op) → (i, (⟨.writeAvailability a, ()⟩ : Event)) ∈ es →
    a.account = false

omit [DecidableEq ι] in
theorem OthersDeny.of_append {fs : List (ι × Event)} (h : c.OthersDeny tasks (es ++ fs)) : c.OthersDeny tasks es :=
  fun i a hi hmem => h i a hi (List.mem_append_left _ hmem)

/-- What a run does of an operation is something that the operation does. -/
theorem does_of_run (h : Run (fun _ => ()) rule (.ofCalls (fun i => ((tasks i).call c).forget) (fun _ => m) s) es st)
    {i : ι} {op : Operation} (hi : tasks i = .operation op) :
    ∃ r, (op.call c.client c.config.workspaces).Does (own i es) r := by
  have hdoes := h.call_does i
  rw [hi] at hdoes
  obtain ⟨r, hr, -⟩ := Call.does_forget.1 hdoes
  exact ⟨r, hr⟩

/-- Once it is not, the account is not available as long as nobody else says so. -/
theorem run_without_account
    (h : Run (fun _ => ()) rule (.ofCalls (fun i => ((tasks i).call c).forget) (fun _ => m) s) es st)
    (hm : m.availability.account = false) (hothers : c.OthersDeny tasks es) :
    (st.memory ()).availability.account = false ∧ ∀ i, Event.WithoutAccount (own i es) := by
  induction h with
  | start => exact ⟨hm, fun i a hread => by cases hread⟩
  | @step es st i e answer next s hrun hleft htells hmeets ih =>
    obtain ⟨hflag, hreads⟩ := ih hothers.of_append
    have hreads' : ∀ j, Event.WithoutAccount (own j (es ++ [(i, ⟨e, answer⟩)])) := by
      intro j a hread
      rcases List.mem_append.1 (mem_own.1 hread) with hread | hread
      · exact hreads j a (mem_own.2 hread)
      · -- It is what the memory holds.
        rw [List.mem_singleton] at hread
        cases hread
        rwa [show a = _ from htells]
    refine ⟨?_, hreads'⟩
    change ((st.after (fun _ => ()) i ⟨e, answer⟩ (next answer) s).memory ()).availability.account = false
    rw [Stage.memory_after (fun _ => ()) st (i := i)]
    cases e with
    | writeAvailability a =>
      refine hothers i a (fun op hi hop => ?_) (by simp)
      obtain ⟨r, hdoes⟩ := does_of_run (.step i answer hrun hleft htells hmeets) hi
      have hlast : (⟨.writeAvailability a, ()⟩ : Event) ∈ own i (es ++ [(i, ⟨.writeAvailability a, answer⟩)]) :=
        mem_own.2 (by simp)
      exact hop.not_writes hdoes (hreads' i) _ hlast a rfl
    | _ => exact hflag

/-- Once a probe has found that the account's API does not accept the credentials, all that a sync asks for
abstains from the account: its requests are sent to workspaces, whatever else goes on at once, unless that finds
the account available again. The one exception is the listing of workspaces, which has no value unless it
asks the account. -/
theorem syncs_without_account {τ : Type} {w : World τ} {st₀ st₁ : Memory × τ} {a : Availability}
    (hprobe : w.Ends c.probe st₀ (.ok a) st₁) (ha : a.account = false)
    (hrun : Run (fun _ => ()) rule (.ofCalls (fun i => ((tasks i).call c).forget) (fun _ => st₁.1) s) es st)
    (hothers : c.OthersDeny tasks es) {i : ι} {op : Operation} (hi : tasks i = .operation op) (hop : c.Syncs op) :
    (¬ListsWorkspaces op → c.client.Abstains (op.call c.client c.config.workspaces) ∧
      ∀ request answer, (i, (⟨.send request, answer⟩ : Event)) ∈ es →
        ∃ name, c.client.Sends (own i es) (.workspace name) request) ∧
    (ListsWorkspaces op → c.client.Scoped .account true (op.call c.client c.config.workspaces)) := by
  refine ⟨fun hno => ⟨hop.abstains hno, fun request answer hsent => ?_⟩, scoped_listing⟩
  obtain ⟨r, hdoes⟩ := does_of_run hrun hi
  have hm : st₁.1.availability.account = false := by rw [availability_of_probe hprobe, ha]
  have hes := (run_without_account hrun hm hothers).2 i
  exact ((hop.abstains hno).apart hdoes hes _ (mem_own.2 hsent)).2 request rfl

end Pool

/-! ## A workspace of an account that refuses -/

/-- A configuration with a password and one workspace. -/
def loneConfig : Config where
  accountId := "a"
  hostname := "h"
  accountHostname := none
  clientId := none
  clientSecret := none
  username := some "u"
  password := some ⟨"p"⟩
  workspaces := ["w"]
  workspaceTokens := []
  accountBaseUrl := some Client.plain.resolver.accountBase
  workspaceBaseUrl := some Client.plain.resolver.accountBase
  timeoutSecs := 30

def lone : Connector :=
  ⟨loneConfig, ⟨⟨"a", Client.plain.resolver.accountBase, .fixed Client.plain.resolver.accountBase⟩,
    .basic "u" ⟨"p"⟩⟩⟩

/-- A peer that refuses its first request, has no roles for the second and lists the workspace from then on. -/
def refusing : World Nat where
  now _ := ⟨0⟩
  answer _ n :=
    (some (match n with
      | 0 => ⟨⟨403⟩, [], some []⟩
      | 1 => Transport.replyOf "\x7b\x7d"
      | _ => Transport.replyOf
          "[\x7b\"workspace_id\":1,\"workspace_name\":\"W\",\"deployment_name\":\"w\"\x7d]"), n + 1)

/-- What there is when the credentials have been probed. -/
def refusedState : Memory × Nat := (refusing.run lone.probe.run (Memory.fresh, 0)).2

theorem ends_probe_lone : refusing.Ends lone.probe (Memory.fresh, 0) (.ok ⟨false, true⟩) refusedState := by
  have hrun : (refusing.run lone.probe.run (Memory.fresh, 0)).1.toOption.map id = some ⟨false, true⟩ := by
    decide +kernel
  obtain ⟨a, hends, rfl⟩ := World.ends_of_feature hrun
  exact hends

/-- Listing the workspaces under the account. -/
def workspaceListing : Operation := .list .workspace (some (accountResource "a" false).id) ""

def loneListing : Call (SyncPage Resource) := workspaceListing.call lone.client lone.config.workspaces

theorem syncs_workspaceListing : lone.Syncs workspaceListing := .list "" (reached_account lone) (by decide)

/-- A role of the workspace. -/
def loneRole : Resource := roleResource "workspace-access" (.ofType .workspace "w")

theorem reached_loneRole : lone.Reached loneRole := by
  have hids : (refusing.run loneListing.run (Memory.fresh, 2)).1.toOption.map
      (fun page : SyncPage Resource => page.items.map (·.id)) = some [.ofType .workspace "w"] := by
    decide +kernel
  obtain ⟨page, hends, hids⟩ := World.ends_of_feature hids
  obtain ⟨es, hdoes, -⟩ := hends.does
  obtain ⟨r, hr, hid⟩ : ∃ r ∈ page.items, r.id = .ofType .workspace "w" :=
    List.mem_map.1 (hids ▸ List.mem_singleton.2 rfl)
  have hlists : lone.Lists .workspace (some (accountResource "a" false).id) r :=
    ⟨"", es, page, hdoes, fun a ha => (exchanges_listWorkspaces es _ hdoes _ ha).elim, hr⟩
  have hreached : lone.Reached r := .child (reached_account lone) (by decide) hlists
  obtain ⟨w, rfl⟩ := workspace_of_lists hlists
  refine .child (t := .role) hreached (List.mem_singleton.2 rfl) ?_
  rw [hid]
  refine ⟨"", [], _, Call.does_pure.2 ⟨rfl, rfl⟩, fun a ha => (by cases ha), ?_⟩
  exact List.mem_map.2 ⟨"workspace-access", by decide, rfl⟩

/-- Looking for the users that have it. -/
def roleWalk : Operation := .grants .role loneRole (PageStack.empty.push (.ofType ResourceType.user.id)).token

/-- With the account refused, the users that have the role are asked for in the workspace. -/
theorem syncs_without_account_of_role :
    refusing.Ends lone.probe (Memory.fresh, 0) (.ok ⟨false, true⟩) refusedState ∧
    ∃ (es : List (Unit × Event)) (st : Pool.Stage Unit Unit Unit (Except Halt Unit)),
      Pool.Run (fun _ : Unit => ()) (Pool.ruleOf obliging)
        (.ofCalls (fun _ => (Task.call lone (.operation roleWalk)).forget) (fun _ => refusedState.1) ()) es st ∧
      ∃ request answer name, ((), (⟨.send request, answer⟩ : Event)) ∈ es ∧
        lone.client.Sends (Pool.own () es) (.workspace name) request := by
  refine ⟨ends_probe_lone, ?_⟩
  obtain ⟨st, hrun⟩ := Pool.run_events obliging (Task.call lone (.operation roleWalk)).forget refusedState.1 ()
  have hop : lone.Syncs roleWalk := .grants _ reached_loneRole rfl
  have hrequests : ((obliging.events (Task.call lone (.operation roleWalk)).forget.run
      (refusedState.1, ())).filterMap (·.request?)).length = 1 := by decide +kernel
  obtain ⟨request, hrequest⟩ := List.length_eq_one_iff.1 hrequests
  obtain ⟨answer, hev⟩ := Event.send_of_mem (hrequest ▸ List.mem_singleton_self request)
  have hmem := List.mem_map_of_mem (f := Prod.mk ()) hev
  have hothers : lone.OthersDeny (fun _ : Unit => .operation roleWalk)
      ((obliging.events (Task.call lone (.operation roleWalk)).forget.run (refusedState.1, ())).map (Prod.mk ())) :=
    fun i a hi => absurd hop (hi _ rfl)
  obtain ⟨-, hsends⟩ := (syncs_without_account ends_probe_lone rfl hrun hothers rfl hop).1 id
  obtain ⟨name, hname⟩ := hsends request answer hmem
  exact ⟨_, st, hrun, request, answer, name, hmem, hname⟩

/-- And yet the workspaces, which the account shows, are then asked for in the account. -/
theorem listing_asks_account : ofConfig loneConfig = .ok lone ∧
    refusing.Ends lone.probe (Memory.fresh, 0) (.ok ⟨false, true⟩) refusedState ∧ lone.Syncs workspaceListing ∧
    ∃ request answer, (⟨.send request, answer⟩ : Event) ∈ refusing.events loneListing.run refusedState ∧
      lone.client.Sends (refusing.events loneListing.run refusedState) .account request := by
  refine ⟨rfl, ends_probe_lone, syncs_workspaceListing, ?_⟩
  have hrequests : ((refusing.events loneListing.run refusedState).filterMap (·.request?)).length = 1 := by
    decide +kernel
  obtain ⟨request, hrequest⟩ := List.length_eq_one_iff.1 hrequests
  obtain ⟨answer, hev⟩ := Event.send_of_mem (hrequest ▸ List.mem_singleton_self request)
  have hlisting : ListsWorkspaces workspaceListing := trivial
  have hdoes := refusing.call_does_events loneListing refusedState
  obtain ⟨_, rfl, hsends⟩ := (scoped_listing hlisting).sendsIn _ _ hdoes request answer hev
  exact ⟨request, answer, hev, hsends⟩

end Connector

end AccessSync
