import AccessSync.Proofs.Client.Makeup
import AccessSync.Proofs.Program.Course
/-!
# Scopes of calls

A call of a client is meant for one scope, which its arguments say or which is the account's
(`ClientCall.scope?`). It exchanges messages in that scope alone and has no value without an exchange
(`Client.scoped_call`). So each of its requests is sent in that scope (`Scoped.sendsIn`), and where no
credential is at hand for the scope the call fails without a request (`Scoped.refused`).
-/

namespace AccessSync

/-- An effect on the memory is no request. -/
theorem request?_of_remembers {L : ResourceId → Prop} {e : Effect} {answer : e.Answer} (h : e.Remembers L) :
    (⟨e, answer⟩ : Event).request? = none := by
  cases e with
  | send => exact h.elim
  | _ => rfl

/-! ## Requests in a scope -/

namespace Client

variable {α β : Type} {c : Client} {P : Scope → Prop} {es fs : List Event} {scope : Scope}

/-- In the course of these events the request was sent by an exchange in that scope, at a URL of the
scope. -/
def Sends (c : Client) (es : List Event) (scope : Scope) (request : Http.Request) : Prop :=
  ∃ (α : Type) (read : Json → Option α) (method : Http.Method) (url : Url) (body : Option Json)
    (terms : List Query.Term) (mid : List Event) (r : Option (Except Halt (α × Http.RateLimit)))
    (answer : Option Http.Reply),
    c.Resolves scope url ∧ mid <:+: es ∧
    (Transport.exchange c.credentials read method scope url body terms).Does mid r ∧
    ⟨.send request, answer⟩ ∈ mid

theorem Sends.mono {request : Http.Request} (h : c.Sends es scope request) (hes : es <:+: fs) :
    c.Sends fs scope request := by
  obtain ⟨α, read, method, url, body, terms, mid, r, answer, hurl, hmid, hdoes, hsend⟩ := h
  exact ⟨α, read, method, url, body, terms, mid, r, answer, hurl, hmid.trans hes, hdoes, hsend⟩

/-- Every request of the call is sent in such a scope. -/
def SendsIn (c : Client) (P : Scope → Prop) (x : Call α) : Prop :=
  ∀ es r, x.Does es r → ∀ request answer, (⟨.send request, answer⟩ : Event) ∈ es →
    ∃ scope, P scope ∧ c.Sends es scope request

theorem sendsIn_of_silent {x : Call α} (h : x.Always fun ev => ev.request? = none) : c.SendsIn P x := by
  intro es r hdoes request answer hev
  cases h es r hdoes _ hev

theorem sendsIn_exchange {read : Json → Option α} {method : Http.Method} {url : Url} {body : Option Json}
    {terms : List Query.Term} (hscope : P scope) (hurl : c.Resolves scope url) :
    c.SendsIn P (Transport.exchange c.credentials read method scope url body terms) :=
  fun _ r hdoes _ answer hev =>
    ⟨scope, hscope, α, read, method, url, body, terms, _, r, answer, hurl, List.infix_rfl, hdoes, hev⟩

theorem SendsIn.bind {x : Call α} {f : α → Call β} (hx : c.SendsIn P x) (hf : ∀ a, c.SendsIn P (f a)) :
    c.SendsIn P (x >>= f) := by
  intro es r hdoes request answer hev
  rcases Call.does_bind.1 hdoes with ⟨hxs, -⟩ | ⟨_, hxs, -⟩ | ⟨a, xs, ys, rfl, hxs, hys⟩
  · exact hx _ _ hxs request answer hev
  · exact hx _ _ hxs request answer hev
  · rcases List.mem_append.1 hev with hev | hev
    · obtain ⟨scope, hscope, hsends⟩ := hx _ _ hxs request answer hev
      exact ⟨scope, hscope, hsends.mono (List.prefix_append ..).isInfix⟩
    · obtain ⟨scope, hscope, hsends⟩ := hf a _ _ hys request answer hev
      exact ⟨scope, hscope, hsends.mono (List.suffix_append ..).isInfix⟩

theorem SendsIn.attempt {x : Call α} (hx : c.SendsIn P x) : c.SendsIn P (Call.attempt x) := by
  intro es r hdoes
  obtain ⟨r', hr', -⟩ := Call.does_attempt.1 hdoes
  exact hx es r' hr'

/-! ## Calls in one scope -/

/-- The call exchanges messages in that scope alone, each at a URL of the scope. If it `asks`, it has no
value without an exchange. -/
inductive Scoped (c : Client) (scope : Scope) : Bool → {α : Type} → Call α → Prop
  | pure {α : Type} (a : α) : Scoped c scope false (Pure.pure a)
  | fail {asks : Bool} {α : Type} (e : Error) : Scoped c scope asks (Call.fail e : Call α)
  | perform {e : Effect} : e.Remembers (fun _ => True) → Scoped c scope false (Call.perform e)
  | exchange {asks : Bool} {α : Type} {read : Json → Option α} {method : Http.Method} {url : Url}
      {body : Option Json} {terms : List Query.Term} : c.Resolves scope url →
      Scoped c scope asks (Transport.exchange c.credentials read method scope url body terms)
  | asking {asks : Bool} {α β : Type} {x : Call α} {f : α → Call β} :
      Scoped c scope true x → (∀ a, Scoped c scope false (f a)) → Scoped c scope asks (x >>= f)
  | behind {asks : Bool} {α β : Type} {x : Call α} {f : α → Call β} :
      Scoped c scope false x → (∀ a, Scoped c scope asks (f a)) → Scoped c scope asks (x >>= f)

variable {asks : Bool}

/-- All requests of the call are sent in its scope. -/
theorem Scoped.sendsIn {x : Call α} (h : c.Scoped scope asks x) : c.SendsIn (· = scope) x := by
  induction h with
  | pure => exact sendsIn_of_silent Call.always_pure
  | fail => exact sendsIn_of_silent Call.always_fail
  | perform he => exact sendsIn_of_silent (Call.always_perform fun _ => request?_of_remembers he)
  | exchange hurl => exact sendsIn_exchange rfl hurl
  | asking _ _ ihx ihf => exact ihx.bind ihf
  | behind _ _ ihx ihf => exact ihx.bind ihf

/-! ## Scopes without a credential -/

/-- There is nothing to sign a request in that scope with. -/
def Unsigned (c : Client) (scope : Scope) : Prop := ∃ e, Transport.credential c.credentials scope = Call.fail e

/-- The call sends nothing, and does not end beyond the calendar. -/
def Unsent (x : Call α) : Prop :=
  ∀ es r, x.Does es r → (∀ ev ∈ es, ev.request? = none) ∧ r ≠ some (.error .beyondCalendar)

theorem unsent_of_nil {x : Call α} (h : ∀ es r, x.Does es r → es = [] ∧ r ≠ some (.error .beyondCalendar)) :
    Unsent x := by
  intro es r hdoes
  obtain ⟨rfl, hr⟩ := h es r hdoes
  exact ⟨by simp, hr⟩

theorem Unsent.bind {x : Call α} {f : α → Call β} (hx : Unsent x) (hf : ∀ a, Unsent (f a)) :
    Unsent (x >>= f) := by
  intro es r hdoes
  rcases Call.does_bind.1 hdoes with ⟨hxs, rfl⟩ | ⟨h, hxs, rfl⟩ | ⟨a, xs, ys, rfl, hxs, hys⟩
  · exact ⟨(hx _ _ hxs).1, by simp⟩
  · obtain ⟨hsilent, hno⟩ := hx _ _ hxs
    refine ⟨hsilent, ?_⟩
    rintro ⟨⟩
    exact hno rfl
  · obtain ⟨hsilent, hno⟩ := hf a _ _ hys
    refine ⟨fun ev hev => ?_, hno⟩
    rcases List.mem_append.1 hev with hev | hev
    · exact (hx _ _ hxs).1 ev hev
    · exact hsilent ev hev

theorem unsent_perform {e : Effect} (he : e.Remembers fun _ => True) : Unsent (Call.perform e) := by
  intro es r hdoes
  rcases Call.does_perform.1 hdoes with ⟨rfl, rfl⟩ | ⟨answer, rfl, rfl⟩
  · exact ⟨by simp, by simp⟩
  · exact ⟨by simpa using request?_of_remembers he, by simp⟩

/-- An exchange that cannot be signed ends without any event. -/
theorem does_exchange_unsigned {read : Json → Option α} {method : Http.Method} {url : Url}
    {body : Option Json} {terms : List Query.Term} (h : c.Unsigned scope)
    {r : Option (Except Halt (α × Http.RateLimit))}
    (hdoes : (Transport.exchange c.credentials read method scope url body terms).Does es r) :
    es = [] ∧ ∃ e, r = some (.error (.error e)) := by
  obtain ⟨e, hcredential⟩ := h
  rcases Call.does_ofExcept_bind.1 hdoes with ⟨fault, -, rfl, rfl⟩ | ⟨prepared, -, hdoes⟩
  · exact ⟨rfl, _, rfl⟩
  · rw [hcredential] at hdoes
    obtain ⟨rfl, rfl⟩ := Call.does_fail.1 hdoes
    exact ⟨rfl, _, rfl⟩

theorem Scoped.unsent {x : Call α} (hunsigned : c.Unsigned scope) (h : c.Scoped scope asks x) : Unsent x := by
  induction h with
  | pure =>
    refine unsent_of_nil fun es r hdoes => ?_
    obtain ⟨rfl, rfl⟩ := Call.does_pure.1 hdoes
    exact ⟨rfl, by simp⟩
  | fail =>
    refine unsent_of_nil fun es r hdoes => ?_
    obtain ⟨rfl, rfl⟩ := Call.does_fail.1 hdoes
    exact ⟨rfl, by simp⟩
  | perform he => exact unsent_perform he
  | exchange =>
    refine unsent_of_nil fun es r hdoes => ?_
    obtain ⟨rfl, e, rfl⟩ := does_exchange_unsigned hunsigned hdoes
    exact ⟨rfl, by simp⟩
  | asking _ _ ihx ihf => exact ihx.bind ihf
  | behind _ _ ihx ihf => exact ihx.bind ihf

/-- A call that asks has no value then. -/
theorem Scoped.no_value {x : Call α} (hunsigned : c.Unsigned scope) (h : c.Scoped scope asks x)
    (hasks : asks = true) (es : List Event) (a : α) : ¬x.Does es (some (.ok a)) := by
  induction h generalizing es with
  | pure => cases hasks
  | perform => cases hasks
  | fail =>
    intro hdoes
    cases (Call.does_fail.1 hdoes).2
  | exchange =>
    intro hdoes
    obtain ⟨-, e, hr⟩ := does_exchange_unsigned hunsigned hdoes
    cases hr
  | asking _ _ ihx _ =>
    intro hdoes
    obtain ⟨a', xs, ys, -, hxs, -⟩ := Call.does_bind_ok.1 hdoes
    exact ihx rfl _ _ hxs
  | behind _ _ _ ihf =>
    intro hdoes
    obtain ⟨a', xs, ys, -, -, hys⟩ := Call.does_bind_ok.1 hdoes
    exact ihf a' hasks _ _ hys

/-- In a scope without a credential a call that asks ends with an error, and without a request. -/
theorem Scoped.refused {x : Call α} (hunsigned : c.Unsigned scope) (h : c.Scoped scope true x) :
    (∀ es r, x.Does es r → ∀ ev ∈ es, ev.request? = none) ∧
      ∀ {σ : Type} (w : World σ) (st : Memory × σ), ∃ e st', w.Ends x st (.error (.error e)) st' := by
  refine ⟨fun es r hdoes => (h.unsent hunsigned es r hdoes).1, fun w st => ?_⟩
  have hdoes := w.call_does_events x st
  cases hr : w.run x.run st with
  | mk result st' =>
    rw [hr] at hdoes
    rcases result with (e | _) | a
    · exact ⟨e, st', hr⟩
    · exact absurd rfl (h.unsent hunsigned _ _ hdoes).2
    · exact absurd hdoes (h.no_value hunsigned rfl _ a)

/-! ## The calls of a client -/

section Calls
variable {d : Directory α} {target : AccessTarget}

theorem scoped_exchange {read : Json → Option α} {method : Http.Method} {url : Except Error Url}
    {body : Option Json} {terms : List Query.Term} (hurl : ∀ u, url = .ok u → c.Resolves scope u) :
    c.Scoped scope asks (c.exchange read method scope url body terms) := by
  cases url with
  | ok u => exact .exchange (hurl u rfl)
  | error fault => exact .fail _

theorem scoped_list {terms : List Query.Term} : c.Scoped scope asks (c.list d scope terms) :=
  .asking (scoped_exchange resolves_resolve) fun _ => .pure _

theorem scoped_get {id : String} : c.Scoped scope asks (c.get d scope id) :=
  scoped_exchange resolves_resolveWith

theorem scoped_put {a : α} : c.Scoped scope asks (c.put d scope a) :=
  .asking (scoped_exchange resolves_resolveWith) fun _ => .pure _

theorem scoped_findId {key : String} : c.Scoped scope asks (c.findId d scope key) :=
  .asking (.asking scoped_list fun _ => .pure _) fun _ => .pure _

theorem scoped_findKey {id : String} : c.Scoped scope asks (c.findKey d scope id) :=
  .asking (.asking scoped_list fun _ => .pure _) fun _ => .pure _

theorem scoped_getPrincipal {kind : PrincipalKind} {id : String} :
    c.Scoped scope asks (c.getPrincipal scope kind id) := by
  cases kind <;> exact .asking scoped_get fun _ => .pure _

theorem scoped_putPrincipal {p : Principal} : c.Scoped scope asks (c.putPrincipal scope p) := by
  cases p <;> exact scoped_put

theorem scoped_findPrincipalKey {kind : PrincipalKind} {id : String} :
    c.Scoped scope asks (c.findPrincipalKey scope kind id) := by
  cases kind <;> exact scoped_findKey

theorem scoped_findPrincipalId {kind : PrincipalKind} {key : String} :
    c.Scoped scope asks (c.findPrincipalId scope kind key) := by
  cases kind <;> exact scoped_findId

theorem scoped_nameOfId {kind : PrincipalKind} {id : String} :
    c.Scoped scope asks (c.nameOfId scope kind id) := by
  refine .asking scoped_findPrincipalKey fun found => ?_
  cases found with
  | some key => exact .pure _
  | none => exact .fail _

theorem scoped_idOfName {p : PrincipalName} : c.Scoped scope asks (c.idOfName scope p) := by
  refine .asking scoped_findPrincipalId fun found => ?_
  cases found with
  | some id => exact .pure _
  | none => exact .fail _

theorem scoped_listRoles : c.Scoped scope asks (c.listRoles scope target) := scoped_exchange resolves_resolve

/-- A rule set is asked for at its URL, once the version is known that was told last. -/
theorem scoped_ruleSet {f : Url → String → Call α} {name : String}
    (h : ∀ url etag, c.Resolves scope url → c.Scoped scope asks (f url etag)) :
    c.Scoped scope asks (do
      let url ← Call.ofExcept id (c.resolver.resolve .ruleSets scope)
      let etag ← lastEtag name
      f url etag) := by
  cases hurl : c.resolver.resolve .ruleSets scope with
  | error fault => exact .fail _
  | ok url =>
    have hlast : c.Scoped scope false (lastEtag name) := .behind (.perform trivial) fun _ => .pure _
    have hrest : c.Scoped scope asks (lastEtag name >>= f url) :=
      .behind hlast fun etag => h url etag (resolves_resolve url hurl)
    exact hrest

theorem scoped_listRules : c.Scoped scope asks (c.listRules scope target) := by
  refine scoped_ruleSet fun url etag hurl => .asking (scoped_exchange ?_) fun _ => ?_
  · rintro _ ⟨⟩
    exact hurl
  · exact .behind (.perform trivial) fun _ => .pure _

theorem scoped_putRules {rules : List Rule} : c.Scoped scope asks (c.putRules scope target rules) := by
  refine scoped_ruleSet fun url etag hurl => .asking (scoped_exchange ?_) ?_
  · rintro _ ⟨⟩
    exact hurl
  rintro ⟨_ | ⟨_, told⟩, rateLimit⟩
  · exact .pure _
  · dsimp only
    split_ifs
    · exact .behind (.perform trivial) fun _ => .pure _
    · exact .pure _

theorem scoped_editRules {edit : List Rule → Bool × List Rule} :
    c.Scoped scope asks (c.editRules scope target edit) := by
  refine .asking scoped_listRules fun x => ?_
  dsimp only
  split
  · exact .pure _
  · exact .asking scoped_putRules fun _ => .pure _

theorem scoped_listWorkspaces : c.Scoped .account asks c.listWorkspaces :=
  .asking (scoped_exchange resolves_resolve) fun _ => .pure _

theorem scoped_listAssignments {workspace : Int64} : c.Scoped .account asks (c.listAssignments workspace) :=
  scoped_exchange resolves_resolveWith

theorem scoped_putAssignment {workspace : Int64} {principalId : String} {body : Option Json} :
    c.Scoped .account asks (c.putAssignment workspace principalId body) :=
  .asking (scoped_exchange resolves_resolveWith) fun _ => .pure _

theorem scoped_requireAccount {operation : String} : c.Scoped scope false (requireAccount scope operation) := by
  unfold requireAccount
  split_ifs
  · exact .pure _
  · exact .fail _

theorem scoped_createUser {u : NewUser} : c.Scoped scope asks (c.createUser scope u) :=
  .behind scoped_requireAccount fun _ => scoped_exchange resolves_resolve

theorem scoped_deleteUser {id : String} : c.Scoped scope asks (c.deleteUser scope id) :=
  .behind scoped_requireAccount fun _ => .asking (scoped_exchange resolves_resolveWith) fun _ => .pure _

end Calls

end Client

def RuleCall.scope : RuleCall → Scope
  | .list scope _ | .put scope _ _ | .edit scope _ _ => scope

/-- The scope that a call with requests is meant for. -/
def ClientCall.scope? : ClientCall → Option Scope
  | .rules r => some r.scope
  | .list _ scope _ | .get _ scope _ | .put scope _ | .findKey _ scope _ | .findId _ scope _
  | .nameOfId scope _ _ | .idOfName scope _ | .createUser scope _ | .deleteUser scope _
  | .listRoles scope _ => some scope
  | .listWorkspaces | .listAssignments _ | .assign _ _ | .unassign _ _ => some .account
  | .etag _ | .availability | .setAvailability _ | .forgetToken => none

/-- Every call exchanges messages in its own scope alone, and has no value otherwise. -/
theorem Client.scoped_call (c : Client) {call : ClientCall} {scope : Scope} (h : call.scope? = some scope) :
    c.Scoped scope true (call.call c) := by
  have hforget : ∀ {α : Type} {x : Call α}, c.Scoped scope true x → c.Scoped scope true x.forget := fun hx =>
    .asking hx fun _ => .pure _
  cases call with
  | rules call =>
    cases call with
    | list =>
      cases h
      exact hforget scoped_listRules
    | put =>
      cases h
      exact hforget scoped_putRules
    | edit scope target edit =>
      cases h
      refine hforget ?_
      rw [edit.call_eq]
      exact scoped_editRules
  | list kind =>
    cases h
    cases kind <;> exact hforget scoped_list
  | get =>
    cases h
    exact hforget scoped_getPrincipal
  | put =>
    cases h
    exact hforget scoped_putPrincipal
  | findKey =>
    cases h
    exact hforget scoped_findPrincipalKey
  | findId =>
    cases h
    exact hforget scoped_findPrincipalId
  | nameOfId =>
    cases h
    exact hforget scoped_nameOfId
  | idOfName =>
    cases h
    exact hforget scoped_idOfName
  | createUser =>
    cases h
    exact hforget scoped_createUser
  | deleteUser =>
    cases h
    exact hforget scoped_deleteUser
  | listRoles =>
    cases h
    exact hforget scoped_listRoles
  | listWorkspaces =>
    cases h
    exact hforget scoped_listWorkspaces
  | listAssignments =>
    cases h
    exact hforget scoped_listAssignments
  | assign | unassign =>
    cases h
    exact hforget scoped_putAssignment
  | etag | availability | setAvailability | forgetToken => cases h

end AccessSync
