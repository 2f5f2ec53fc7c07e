import AccessSync.Proofs.RuleSet.Calls
import AccessSync.Proofs.Transport.Failure
/-!
# When tokens are reused

A client that signs with tokens of an issuer exchanges messages one turn after the other (`Session`). What
a turn does is told by the token that is held when it begins (`Fetched`): it asks the issuer exactly if the
token is `Due`, and only a reply with a token in it changes what is held. So what is held is always the token
of the `Latest` such reply, with which requests are signed: `Session.reuses`.
-/

namespace AccessSync

/-- The event writes the token that is held. -/
def Event.writesToken : Event → Bool
  | ⟨.writeToken _, _⟩ => true
  | _ => false

/-- Only writing it changes the token. -/
theorem Memory.Follows.token_eq {m m' : Memory} {es : List Event} (h : m.Follows es m')
    (hes : ∀ ev ∈ es, ev.writesToken = false) : m'.token = m.token := by
  induction h with
  | nil => rfl
  | @cons m m' ev es _ _ ih =>
    rw [ih fun ev hev => hes ev (List.mem_cons_of_mem _ hev)]
    have hev := hes ev List.mem_cons_self
    obtain ⟨e, answer⟩ := ev
    cases e with
    | writeToken => cases hev
    | _ => rfl

namespace Transport

variable {issuer : TokenIssuer} {held held' k k' : Option AccessToken}

/-! ## Sessions -/

/-- The token that a successful reply delivers which is read at that time. -/
def delivered? (reply : Http.Reply) (now : Option Instant) : Option AccessToken :=
  if reply.status.isSuccess then
    match (reply.body.bind Json.ofBytes).bind readToken with
    | none => none
    | some (text, none) => some ⟨text, none⟩
    | some (text, some lifetime) =>
      (now.bind fun now => (Instant.span? lifetime.toInt).bind now.later?).map fun e => ⟨text, some e⟩
  else none

/-- The time that the first of the events tells. -/
def clock? : List Event → Option Instant
  | ⟨.now, now⟩ :: _ => some now
  | _ => none

/-- The look at the clock that tells that time, if there is one. -/
def ticks (time : Option Instant) : List Event := time.toList.map fun now => ⟨.now, now⟩

/-- The first time that one of the events tells. -/
def firstTime? (es : List Event) : Option Instant := es.findSome? fun ev => clock? [ev]

/-- One exchange: what was asked for, the events in its course and how it ended. -/
structure Turn where
  method : Http.Method
  scope : Scope
  url : Url
  body : Option Json
  terms : List Query.Term
  events : List Event
  ended : Except Halt Unit

namespace Turn

/-- The URL that the request of the turn goes to. -/
def prepared (t : Turn) : Except Error Url := prepareUrl t.url (Query.ofTerms t.terms)

/-- The turn takes its full course; `held` is the token that is remembered before and `held'` after. -/
def Takes (issuer : TokenIssuer) (held : Option AccessToken) (t : Turn) (held' : Option AccessToken) : Prop :=
  ∃ (α : Type) (read : Json → Option α) (result : Except Halt (α × Http.RateLimit)) (m m' : Memory),
    (exchange (.issued issuer) read t.method t.scope t.url t.body t.terms).Does t.events (some result) ∧
    m.Follows t.events m' ∧ m.token = held ∧ m'.token = held' ∧ t.ended = result.map fun _ => ()

/-- The first time that the turn looked at the clock. -/
def time? (t : Turn) : Option Instant := firstTime? t.events

/-- The requests that the turn sent. -/
def requests (t : Turn) : List Http.Request := t.events.filterMap (·.request?)

/-- In the course of the turn the issuer answered so. -/
def Hears (issuer : TokenIssuer) (t : Turn) (answer : Option Http.Reply) : Prop :=
  ⟨.send (tokenRequest issuer), answer⟩ ∈ t.events

/-- In the course of the turn the issuer delivered that token. -/
def Gets (issuer : TokenIssuer) (t : Turn) (token : AccessToken) : Prop :=
  ∃ xs reply ys, t.events = xs ++ ⟨.send (tokenRequest issuer), some reply⟩ :: ys ∧
    delivered? reply (clock? ys) = some token

end Turn

/-- Turns taken one after the other; nothing touches the token between them. -/
inductive Session (issuer : TokenIssuer) : Option AccessToken → List Turn → Option AccessToken → Prop
  | nil (held : Option AccessToken) : Session issuer held [] held
  | concat {held k k' : Option AccessToken} {ts : List Turn} {t : Turn} :
      Session issuer held ts k → t.Takes issuer k k' → Session issuer held (ts ++ [t]) k'

/-- The token of the latest turn that got one; the one from before if none did. -/
inductive Latest (issuer : TokenIssuer) (held : Option AccessToken) : List Turn → Option AccessToken → Prop
  | start : Latest issuer held [] held
  | renewed {ts : List Turn} {t : Turn} {token : AccessToken} :
      t.Gets issuer token → Latest issuer held (ts ++ [t]) (some token)
  | kept {ts : List Turn} {t : Turn} {latest : Option AccessToken} :
      Latest issuer held ts latest → (∀ token, ¬t.Gets issuer token) → Latest issuer held (ts ++ [t]) latest

/-- The request, if it can be sent. -/
def sendable (request : Http.Request) : List Http.Request :=
  if (fault? request).isNone then [request] else []

/-- There is no token, or it ends within 300 seconds from that time. -/
def Due (held : Option AccessToken) (time : Option Instant) : Prop :=
  held = none ∨ ∃ token e now, held = some token ∧ token.expiresAt = some e ∧ time = some now ∧
    e.seconds ≤ now.seconds + 300

/-! ## What a turn does -/

/-- The whole course of asking the issuer for a token, which sends one request if it can be sent. -/
inductive Answered (issuer : TokenIssuer) : List Event → Except Halt AccessToken → Prop
  | unsendable {e : CredentialFault} : fault? (tokenRequest issuer) ≠ none →
      Answered issuer [] (.error (.error (.credential e)))
  | denied {answer : Option Http.Reply} {e : CredentialFault} : fault? (tokenRequest issuer) = none →
      Denied answer → Answered issuer [⟨.send (tokenRequest issuer), answer⟩] (.error (.error (.credential e)))
  | beyond {reply : Http.Reply} {now : Instant} : fault? (tokenRequest issuer) = none →
      ¬Denied (some reply) → delivered? reply (some now) = none →
      Answered issuer [⟨.send (tokenRequest issuer), some reply⟩, ⟨.now, now⟩] (.error .beyondCalendar)
  | granted {reply : Http.Reply} {token : AccessToken} {time : Option Instant} :
      fault? (tokenRequest issuer) = none → delivered? reply time = some token →
      Answered issuer (⟨.send (tokenRequest issuer), some reply⟩ :: ticks time) (.ok token)

theorem answered_of_does {es : List Event} {result : Except Halt AccessToken}
    (h : (acquireToken issuer).Does es (some result)) : Answered issuer es result := by
  have hsendable : es ≠ [] → fault? (tokenRequest issuer) = none := by
    intro hne
    by_contra hfault
    unfold acquireToken at h
    dsimp only at h
    rw [if_pos (Option.isSome_iff_ne_none.2 hfault)] at h
    exact hne (Call.does_fail.1 h).1
  have hacquired := does_acquireToken h
  generalize hr : some result = r at hacquired
  cases hacquired with
  | unsendable hfault =>
    cases hr
    exact .unsendable (Option.isSome_iff_ne_none.1 hfault)
  | unsent | untimed => cases hr
  | unanswered =>
    cases hr
    exact .denied (hsendable (by simp)) trivial
  | refused hrefused =>
    cases hr
    exact .denied (hsendable (by simp)) (.inl hrefused)
  | unreadable _ hread =>
    cases hr
    exact .denied (hsendable (by simp)) (.inr hread)
  | unlimited hsuccess hread =>
    cases hr
    exact @Answered.granted _ _ _ none (hsendable (by simp)) (by simp [delivered?, hsuccess, hread])
  | @limited _ _ _ now _ hsuccess hread hend =>
    cases hr
    exact @Answered.granted _ _ _ (some now) (hsendable (by simp)) (by simp [delivered?, hsuccess, hread, hend])
  | beyond hsuccess hread hend =>
    cases hr
    exact .beyond (hsendable (by simp)) (by simp [Denied, hsuccess, hread])
      (by simp [delivered?, hsuccess, hread, hend])

/-- What is held was looked up and a new token is due. -/
inductive Looked : Option AccessToken → List Event → Prop
  | missing : Looked none [⟨.readToken, none⟩]
  | stale {token : AccessToken} {now : Instant} : token.isStale now = true →
      Looked (some token) [⟨.readToken, some token⟩, ⟨.now, now⟩]

/-- The whole course of getting a token; `held` is remembered before it and `held'` after. -/
inductive Fetched (issuer : TokenIssuer) :
    Option AccessToken → List Event → Except Halt String → Option AccessToken → Prop
  | reused {token : AccessToken} {now : Instant} : token.isStale now = false →
      Fetched issuer (some token) [⟨.readToken, some token⟩, ⟨.now, now⟩] (.ok token.text) (some token)
  | failed {held : Option AccessToken} {look es : List Event} {h : Halt} :
      Looked held look → Answered issuer es (.error h) → Fetched issuer held (look ++ es) (.error h) held
  | renewed {held : Option AccessToken} {look es : List Event} {token : AccessToken} :
      Looked held look → Answered issuer es (.ok token) →
      Fetched issuer held (look ++ es ++ [⟨.writeToken (some token), ()⟩]) (.ok token.text) (some token)

/-- Asking for a token does not write it yet. -/
theorem Answered.token_eq {es : List Event} {result : Except Halt AccessToken} (h : Answered issuer es result)
    {m m' : Memory} (hm : m.Follows es m') : m'.token = m.token := by
  refine hm.token_eq ?_
  cases h with
  | granted => simp [ticks, Event.writesToken]
  | _ => simp [Event.writesToken]

theorem does_renewToken {es : List Event} {result : Except Halt String} {look : List Event}
    (h : (renewToken issuer).Does es (some result)) (hlook : Looked held look) {m m' : Memory}
    (hheld : m.token = held) (hm : m.Follows es m') : Fetched issuer held (look ++ es) result m'.token := by
  rcases Call.does_bind.1 h with ⟨-, hr⟩ | ⟨halt, hx, hr⟩ | ⟨token, xs, ys, rfl, hx, hy⟩
  · cases hr
  · cases hr
    have hanswered := answered_of_does hx
    rw [hanswered.token_eq hm, hheld]
    exact .failed hlook hanswered
  · obtain ⟨k, -, hys⟩ := Memory.follows_append.1 hm
    rcases Call.does_perform_bind.1 hy with ⟨-, hr⟩ | ⟨_, zs, rfl, hz⟩
    · cases hr
    obtain ⟨rfl, hr⟩ := Call.does_pure.1 hz
    cases hr
    obtain ⟨-, hk⟩ := Memory.follows_cons.1 hys
    rw [Memory.follows_nil.1 hk, ← List.append_assoc]
    exact .renewed hlook (answered_of_does hx)

theorem does_token {es : List Event} {result : Except Halt String}
    (h : (token issuer).Does es (some result)) {m m' : Memory} (hm : m.Follows es m') :
    Fetched issuer m.token es result m'.token := by
  rcases Call.does_perform_bind.1 h with ⟨-, hr⟩ | ⟨held, ys, rfl, hy⟩
  · cases hr
  obtain ⟨htells, hys⟩ := Memory.follows_cons.1 hm
  obtain rfl : held = m.token := htells
  cases hheld : m.token with
  | none =>
    rw [hheld] at hy
    exact does_renewToken hy .missing hheld hys
  | some token =>
    rw [hheld] at hy
    rcases Call.does_perform_bind.1 hy with ⟨-, hr⟩ | ⟨now, zs, rfl, hz⟩
    · cases hr
    obtain ⟨-, hzs⟩ := Memory.follows_cons.1 hys
    split_ifs at hz with hstale
    · exact does_renewToken hz (.stale hstale) hheld hzs
    · obtain ⟨rfl, hr⟩ := Call.does_pure.1 hz
      cases hr
      rw [Memory.follows_nil.1 hzs]
      change Fetched issuer (some token) _ _ m.token
      rw [hheld]
      exact .reused (by simpa using hstale)

/-- The request to the API that a turn makes with a token. -/
def Turn.request (t : Turn) (prepared : Url) (token : String) : Http.Request :=
  requestAt prepared (some (.bearer token)) t.method t.body

/-- What a turn does: it stops at a URL of which nothing can be made, stops where a token is due and not
got, or signs its request with the token that is held then. -/
inductive Took (issuer : TokenIssuer) (t : Turn) : Option AccessToken → Option AccessToken → Prop
  | unprepared {held : Option AccessToken} {e : Error} : t.prepared = .error e → t.events = [] →
      Took issuer t held held
  | reused {token : AccessToken} {now : Instant} {prepared : Url} {ys : List Event} : t.prepared = .ok prepared →
      token.isStale now = false → t.events = ⟨.readToken, some token⟩ :: ⟨.now, now⟩ :: ys →
      ys.filterMap (·.request?) = sendable (t.request prepared token.text) →
      Took issuer t (some token) (some token)
  | failed {held : Option AccessToken} {look es : List Event} {h : Halt} {prepared : Url} :
      t.prepared = .ok prepared → Looked held look → Answered issuer es (.error h) → t.events = look ++ es →
      t.ended = .error h → Took issuer t held held
  | renewed {held : Option AccessToken} {look es ys : List Event} {token : AccessToken} {prepared : Url} :
      t.prepared = .ok prepared → Looked held look → Answered issuer es (.ok token) →
      t.events = look ++ es ++ ⟨.writeToken (some token), ()⟩ :: ys →
      ys.filterMap (·.request?) = sendable (t.request prepared token.text) → Took issuer t held (some token)

theorem does_send_some {α : Type} {read : Json → Option α} {request : Http.Request} {es : List Event}
    {result : Except Halt (α × Http.RateLimit)} (h : (send read request).Does es (some result)) :
    es.filterMap (·.request?) = sendable request ∧ ∀ ev ∈ es, ev.writesToken = false := by
  cases hfault : fault? request with
  | some fault =>
    rw [send, hfault] at h
    obtain ⟨rfl, -⟩ := Call.does_fail.1 h
    simp [sendable, hfault]
  | none =>
    rcases does_send h with ⟨rfl, -⟩ | hs
    · rw [send, hfault] at h
      rcases Call.does_perform_bind.1 h with ⟨-, hr⟩ | ⟨answer, ys, hes, -⟩
      · cases hr
      · cases hes
    · cases hs <;> simp [sendable, hfault, Event.request?, Event.writesToken]

theorem Turn.Takes.took {t : Turn} (h : t.Takes issuer held held') : Took issuer t held held' := by
  obtain ⟨α, read, result, m, m', hdoes, hm, rfl, rfl, hended⟩ := h
  rcases Call.does_ofExcept_bind.1 hdoes with ⟨e, hprepared, hes, -⟩ | ⟨prepared, hprepared, hdoes⟩
  · rw [hes, Memory.follows_nil] at hm
    rw [hm]
    exact .unprepared hprepared hes
  generalize hevents : t.events = es at hdoes hm
  rcases Call.does_bind.1 hdoes with ⟨-, hr⟩ | ⟨e, hx, hr⟩ | ⟨credential, xs, ys, rfl, hx, hy⟩
  · cases hr
  · cases hr
    obtain ⟨r', htoken, hr'⟩ := Call.does_bind_pure.1 hx
    rcases r' with _ | e | text
    · cases hr'
    · cases hr'
      have hfetched := does_token htoken hm
      generalize m.token = held, m'.token = held' at hfetched
      cases hfetched with
      | failed hlook hanswered => exact .failed hprepared hlook hanswered hevents hended
    · cases hr'
  · obtain ⟨r', htoken, hr'⟩ := Call.does_bind_pure.1 hx
    rcases r' with _ | e | text
    · cases hr'
    · cases hr'
    cases hr'
    obtain ⟨k, hxs, hys⟩ := Memory.follows_append.1 hm
    have hfetched := does_token htoken hxs
    -- Sending the request and reading its reply leave the token as it is.
    obtain ⟨hrequests, hkeeps⟩ := does_send_some hy
    rw [hys.token_eq hkeeps]
    generalize m.token = held, k.token = held' at hfetched
    cases hfetched with
    | reused hfresh => exact .reused hprepared hfresh hevents hrequests
    | renewed hlook hanswered =>
      refine .renewed hprepared hlook hanswered ?_ hrequests
      rw [hevents, List.append_assoc _ [_]]
      rfl

/-! ## What is told of a turn -/

theorem delivered?_of_denied {reply : Http.Reply} (h : Denied (some reply)) (now : Option Instant) :
    delivered? reply now = none := by
  unfold delivered?
  rcases h with h | h <;> simp [h]

theorem isStale_iff {token : AccessToken} {now : Instant} :
    token.isStale now = true ↔ ∃ e, token.expiresAt = some e ∧ e.seconds ≤ now.seconds + 300 := by
  cases h : token.expiresAt with
  | none => simp [AccessToken.isStale, h]
  | some e =>
    have hlate : token.isStale now = decide (e.seconds ≤ now.seconds + 300) := by
      rw [AccessToken.isStale, h, Option.any_some, AccessToken.margin]
    rw [hlate, decide_eq_true_iff]
    simp

theorem Looked.requests {look : List Event} (h : Looked held look) : look.filterMap (·.request?) = [] := by
  cases h <;> rfl

theorem Looked.due {look : List Event} (h : Looked held look) (more : List Event) :
    Due held (firstTime? (look ++ more)) := by
  cases h with
  | missing => exact .inl rfl
  | @stale token now hstale =>
    obtain ⟨e, hend, hlate⟩ := isStale_iff.1 hstale
    exact .inr ⟨token, e, now, rfl, hend, rfl, hlate⟩

theorem Answered.requests {es : List Event} {result : Except Halt AccessToken} (h : Answered issuer es result) :
    es.filterMap (·.request?) = sendable (tokenRequest issuer) := by
  cases h with
  | unsendable hfault => simp [sendable, hfault]
  | denied hfault | beyond hfault => simp [sendable, hfault, Event.request?]
  | @granted reply token time hfault => cases time <;> simp [sendable, hfault, ticks, Event.request?]

theorem not_due {token : AccessToken} {now : Instant} (h : token.isStale now = false) :
    ¬Due (some token) (some now) := by
  rintro (hnone | ⟨token', e, now', htoken, hend, hnow, hlate⟩)
  · cases hnone
  · cases htoken
    cases hnow
    rw [isStale_iff.2 ⟨e, hend, hlate⟩] at h
    cases h

/-- A request to the API is none for a token. -/
theorem Turn.request_ne {t : Turn} {prepared : Url} {token : String} :
    t.request prepared token ≠ tokenRequest issuer := by
  intro h
  have hno : ¬(Credentials.issued issuer).AsksToken (t.request prepared token) := not_asksToken rfl
  exact hno ⟨issuer, rfl, h⟩

theorem not_mem_sendable {t : Turn} {prepared : Url} {token : String} :
    tokenRequest issuer ∉ sendable (t.request prepared token) := by
  unfold sendable
  split_ifs
  · simpa using Turn.request_ne.symm
  · simp

section Asked
variable {t : Turn} {before after : List Event} {answer : Option Http.Reply}

theorem asked_once (ht : t.events = before ++ ⟨.send (tokenRequest issuer), answer⟩ :: after)
    (hbefore : tokenRequest issuer ∉ before.filterMap (·.request?))
    (hafter : tokenRequest issuer ∉ after.filterMap (·.request?)) {xs ys : List Event}
    {answer' : Option Http.Reply} (h : t.events = xs ++ ⟨.send (tokenRequest issuer), answer'⟩ :: ys) :
    answer' = answer ∧ ys = after := by
  have hsilent : ∀ es : List Event, tokenRequest issuer ∉ es.filterMap (·.request?) →
      ∀ ev ∈ es, ¬ev.request? = some (tokenRequest issuer) :=
    fun es hes ev hev hrequest => hes (List.mem_filterMap.2 ⟨ev, hev, hrequest⟩)
  obtain ⟨-, heq, hys⟩ := Event.located (P := fun ev => ev.request? = some (tokenRequest issuer))
    (ht.symm.trans h) (hsilent _ hbefore) (hsilent _ hafter) rfl
  cases heq
  exact ⟨rfl, hys.symm⟩

/-- A turn that asked once has one answer. -/
theorem hears_iff (ht : t.events = before ++ ⟨.send (tokenRequest issuer), answer⟩ :: after)
    (hbefore : tokenRequest issuer ∉ before.filterMap (·.request?))
    (hafter : tokenRequest issuer ∉ after.filterMap (·.request?)) (answer' : Option Http.Reply) :
    t.Hears issuer answer' ↔ answer' = answer := by
  constructor
  · intro h
    obtain ⟨xs, ys, hevents⟩ := List.append_of_mem h
    exact (asked_once ht hbefore hafter hevents).1
  · rintro rfl
    rw [Turn.Hears, ht]
    simp

/-- It gets what the answer delivers at the time that is read right behind it. -/
theorem gets_iff (ht : t.events = before ++ ⟨.send (tokenRequest issuer), answer⟩ :: after)
    (hbefore : tokenRequest issuer ∉ before.filterMap (·.request?))
    (hafter : tokenRequest issuer ∉ after.filterMap (·.request?)) (token : AccessToken) :
    t.Gets issuer token ↔ ∃ reply, answer = some reply ∧ delivered? reply (clock? after) = some token := by
  constructor
  · rintro ⟨xs, reply, ys, hevents, hdelivered⟩
    obtain ⟨rfl, rfl⟩ := asked_once ht hbefore hafter hevents
    exact ⟨reply, rfl, hdelivered⟩
  · rintro ⟨reply, rfl, hdelivered⟩
    exact ⟨before, reply, after, ht, hdelivered⟩

/-- A turn that did not ask for a token got none. -/
theorem not_gets (h : tokenRequest issuer ∉ t.requests) (token : AccessToken) : ¬t.Gets issuer token := by
  rintro ⟨xs, reply, ys, hevents, -⟩
  refine h (List.mem_filterMap.2 ⟨⟨.send (tokenRequest issuer), some reply⟩, ?_, rfl⟩)
  rw [hevents]
  simp

end Asked

/-- The turn ends with an error that says what is wrong with the credential. -/
def Turn.FailsAuthorization (t : Turn) : Prop := ∃ e, t.ended = .error (.error (.credential e))

section Outcome
variable {t : Turn} {look es : List Event} {e : Halt} {token : AccessToken}

theorem gets_of_granted {ys : List Event} (hlook : Looked held look) (hes : Answered issuer es (.ok token))
    (ht : t.events = look ++ es ++ ⟨.writeToken (some token), ()⟩ :: ys)
    (hys : tokenRequest issuer ∉ ys.filterMap (·.request?)) :
    fault? (tokenRequest issuer) = none ∧ t.Gets issuer token ∧
      ∃ reply, (∀ answer, t.Hears issuer answer ↔ answer = some reply) ∧ ¬Denied (some reply) := by
  have hlook' : tokenRequest issuer ∉ look.filterMap (·.request?) := by simp [hlook.requests]
  cases hes with
  | @granted reply _ time hfault hdelivered =>
    have hevents : t.events = look ++ ⟨.send (tokenRequest issuer), some reply⟩ ::
        (ticks time ++ ⟨.writeToken (some token), ()⟩ :: ys) := by rw [ht, List.append_assoc]; rfl
    have hafter : tokenRequest issuer ∉
        (ticks time ++ ⟨.writeToken (some token), ()⟩ :: ys).filterMap (·.request?) := by
      cases time <;> exact hys
    have htime : clock? (ticks time ++ ⟨.writeToken (some token), ()⟩ :: ys) = time := by
      cases time <;> rfl
    refine ⟨hfault, ⟨look, reply, _, hevents, by rw [htime]; exact hdelivered⟩, reply,
      hears_iff hevents hlook' hafter, ?_⟩
    intro hdenied
    rw [delivered?_of_denied hdenied] at hdelivered
    cases hdelivered

theorem not_gets_of_failed (hlook : Looked held look) (hes : Answered issuer es (.error e))
    (ht : t.events = look ++ es) (token : AccessToken) : ¬t.Gets issuer token := by
  have hlook' : tokenRequest issuer ∉ look.filterMap (·.request?) := by simp [hlook.requests]
  cases hes with
  | unsendable =>
    refine not_gets ?_ token
    rwa [Turn.requests, ht, List.append_nil]
  | denied _ hdenied =>
    rw [gets_iff ht hlook' (by simp)]
    rintro ⟨reply, rfl, hdelivered⟩
    rw [delivered?_of_denied hdenied] at hdelivered
    cases hdelivered
  | beyond _ _ hnone =>
    rw [gets_iff ht hlook' (by simp [Event.request?])]
    rintro ⟨reply, heq, hdelivered⟩
    cases heq
    cases hnone.symm.trans hdelivered

/-- What a turn gets is what it leaves behind, and without a token it leaves what was there. -/
theorem Took.gets (h : Took issuer t held held') :
    (∃ token, t.Gets issuer token ∧ held' = some token) ∨ (held' = held ∧ ∀ token, ¬t.Gets issuer token) := by
  cases h with
  | unprepared _ hevents => exact .inr ⟨rfl, not_gets (by simp [Turn.requests, hevents])⟩
  | @reused token _ prepared ys _ _ hevents hys =>
    refine .inr ⟨rfl, not_gets ?_⟩
    have hrequests : t.requests = ys.filterMap (·.request?) := by
      rw [Turn.requests, hevents]
      rfl
    rw [hrequests, hys]
    exact not_mem_sendable
  | failed _ hlook hes hevents => exact .inr ⟨rfl, not_gets_of_failed hlook hes hevents⟩
  | renewed _ hlook hes hevents hys =>
    have hys' : tokenRequest issuer ∉ _ := hys ▸ not_mem_sendable
    exact .inl ⟨_, (gets_of_granted hlook hes hevents hys').2.1, rfl⟩

/-- Without a URL nothing is sent. -/
theorem Took.of_unprepared (h : Took issuer t held held') {e : Error} (hprepared : t.prepared = .error e) :
    t.requests = [] ∧ held' = held := by
  cases h with
  | unprepared _ hevents => simp [Turn.requests, hevents]
  | reused hsome | failed hsome | renewed hsome => cases hsome.symm.trans hprepared

/-- Where no token is due, the request is signed with the one that is held. -/
theorem Took.of_not_due (h : Took issuer t held held') {prepared : Url} (hprepared : t.prepared = .ok prepared)
    (hdue : ¬Due held t.time?) :
    held' = held ∧ ∃ token, held = some token ∧ t.requests = sendable (t.request prepared token.text) := by
  cases h with
  | unprepared hnone => cases hnone.symm.trans hprepared
  | reused hsome _ hevents hys =>
    cases hsome.symm.trans hprepared
    refine ⟨rfl, _, rfl, ?_⟩
    rw [← hys, Turn.requests, hevents]
    rfl
  | failed _ hlook _ hevents =>
    rw [Turn.time?, hevents] at hdue
    exact absurd (hlook.due _) hdue
  | renewed _ hlook _ hevents =>
    rw [Turn.time?, hevents, List.append_assoc] at hdue
    exact absurd (hlook.due _) hdue

/-- Where one is due that cannot be asked for, the turn fails at once. -/
theorem Took.of_unaskable (h : Took issuer t held held') {prepared : Url} (hprepared : t.prepared = .ok prepared)
    (hdue : Due held t.time?) (hfault : fault? (tokenRequest issuer) ≠ none) :
    t.requests = [] ∧ t.FailsAuthorization ∧ held' = held := by
  cases h with
  | unprepared hnone => cases hnone.symm.trans hprepared
  | reused _ hfresh hevents =>
    rw [Turn.time?, hevents] at hdue
    exact absurd hdue (not_due hfresh)
  | failed _ hlook hes hevents hended =>
    cases hes with
    | unsendable =>
      refine ⟨?_, ⟨_, hended⟩, rfl⟩
      rw [Turn.requests, hevents, List.append_nil, hlook.requests]
    | denied hnone | beyond hnone => exact absurd hnone hfault
  | renewed _ _ hes =>
    cases hes with
    | granted hnone => exact absurd hnone hfault

/-- Where one is due, the issuer is asked first, and what comes of that is told by the answer. -/
theorem Took.of_due (h : Took issuer t held held') {prepared : Url} (hprepared : t.prepared = .ok prepared)
    (hdue : Due held t.time?) (hfault : fault? (tokenRequest issuer) = none) :
    ∃ answer, (∀ answer', t.Hears issuer answer' ↔ answer' = answer) ∧
      (Denied answer → t.requests = [tokenRequest issuer] ∧ t.FailsAuthorization ∧ held' = held) ∧
      (¬Denied answer →
        (∃ token, t.Gets issuer token ∧ held' = some token ∧
          t.requests = tokenRequest issuer :: sendable (t.request prepared token.text)) ∨
        (∀ token, ¬t.Gets issuer token) ∧ t.requests = [tokenRequest issuer] ∧
          t.ended = .error .beyondCalendar ∧ held' = held) := by
  have hasks : sendable (tokenRequest issuer) = [tokenRequest issuer] := by simp [sendable, hfault]
  cases h with
  | unprepared hnone => cases hnone.symm.trans hprepared
  | reused _ hfresh hevents =>
    rw [Turn.time?, hevents] at hdue
    exact absurd hdue (not_due hfresh)
  | @failed _ look es _ _ _ hlook hes hevents hended =>
    have hlook' : tokenRequest issuer ∉ look.filterMap (·.request?) := by simp [hlook.requests]
    have hrequests : t.requests = [tokenRequest issuer] := by
      rw [Turn.requests, hevents, List.filterMap_append, hlook.requests, hes.requests, hasks, List.nil_append]
    cases hes with
    | unsendable hnone => exact absurd hfault hnone
    | denied _ hdenied =>
      exact ⟨_, hears_iff hevents hlook' (by simp), fun _ => ⟨hrequests, ⟨_, hended⟩, rfl⟩, absurd hdenied⟩
    | beyond _ hsound hnone =>
      refine ⟨_, hears_iff hevents hlook' (by simp [Event.request?]), fun h => absurd h hsound, fun _ => .inr ?_⟩
      exact ⟨not_gets_of_failed hlook (.beyond hfault hsound hnone) hevents, hrequests, hended, rfl⟩
  | @renewed _ look es ys token prepared' hsome hlook hes hevents hys =>
    cases hsome.symm.trans hprepared
    have hys' : tokenRequest issuer ∉ ys.filterMap (·.request?) := hys ▸ not_mem_sendable
    obtain ⟨-, hgot, reply, hhears, hsound⟩ := gets_of_granted hlook hes hevents hys'
    refine ⟨some reply, hhears, fun h => absurd h hsound, fun _ => .inl ⟨token, hgot, rfl, ?_⟩⟩
    rw [Turn.requests, hevents, List.filterMap_append, List.filterMap_append, hlook.requests, hes.requests, hasks,
      ← hys]
    rfl

end Outcome

/-- What is held after a session is the token of the latest turn that got one. -/
theorem Session.latest {ts : List Turn} (h : Session issuer held ts held') : Latest issuer held ts held' := by
  induction h with
  | nil => exact .start
  | concat _ ht ih =>
    rcases ht.took.gets with ⟨token, hgets, rfl⟩ | ⟨rfl, hnone⟩
    · exact .renewed hgets
    · exact .kept ih hnone

/-- After any session, a turn signs its request with the token of the latest turn that got one, itself
included. It asks for one before that exactly if there is none, or if the one that is held ends within 300
seconds; where the answer has no token in it, the turn fails, sends nothing more and leaves what is held. -/
theorem Session.reuses {ts : List Turn} {t : Turn} (h : Session issuer held ts k) (ht : t.Takes issuer k k') :
    Latest issuer held ts k ∧ Latest issuer held (ts ++ [t]) k' ∧
    (∀ e, t.prepared = .error e → t.requests = [] ∧ k' = k) ∧
    ∀ prepared, t.prepared = .ok prepared →
      (¬Due k t.time? → k' = k ∧ ∃ token, k = some token ∧
        t.requests = sendable (t.request prepared token.text)) ∧
      (Due k t.time? → fault? (tokenRequest issuer) ≠ none →
        t.requests = [] ∧ t.FailsAuthorization ∧ k' = k) ∧
      (Due k t.time? → fault? (tokenRequest issuer) = none →
        ∃ answer, (∀ answer', t.Hears issuer answer' ↔ answer' = answer) ∧
          (Denied answer → t.requests = [tokenRequest issuer] ∧ t.FailsAuthorization ∧ k' = k) ∧
          (¬Denied answer →
            (∃ token, t.Gets issuer token ∧ k' = some token ∧
              t.requests = tokenRequest issuer :: sendable (t.request prepared token.text)) ∨
            (∀ token, ¬t.Gets issuer token) ∧ t.requests = [tokenRequest issuer] ∧
              t.ended = .error .beyondCalendar ∧ k' = k)) := by
  refine ⟨h.latest, (h.concat ht).latest, fun e hnone => ?_, fun prepared hprepared => ?_⟩
  · exact ht.took.of_unprepared hnone
  · exact ⟨ht.took.of_not_due hprepared, ht.took.of_unaskable hprepared, ht.took.of_due hprepared⟩

/-! ## A token for an hour -/

/-- An exchange without parameters, as a call and as the turn that the world makes of it. -/
def fetching (issuer : TokenIssuer) (url : Url) : Call (Unit × Http.RateLimit) :=
  exchange (.issued issuer) ignore .get .account url none []

def fetchTurn {σ : Type} (w : World σ) (issuer : TokenIssuer) (url : Url) (st : Memory × σ) : Turn :=
  ⟨.get, .account, url, none, [], w.events (fetching issuer url).run st,
    (w.run (fetching issuer url).run st).1.map fun _ => ()⟩

theorem takes_fetchTurn {σ : Type} {w : World σ} {url : Url} {st : Memory × σ} :
    (fetchTurn w issuer url st).Takes issuer st.1.token (w.run (fetching issuer url).run st).2.1.token :=
  ⟨Unit, ignore, _, st.1, _, w.call_does_events _ st, w.follows_events _ st, rfl, rfl, rfl⟩

def hourIssuer : TokenIssuer := ⟨"id", ⟨"secret"⟩, Client.plainUrl⟩

/-- A peer whose first answer is a token for an hour. When it has given the second, it is one second short
of 55 minutes. -/
def hourPeer : World Nat where
  now n := ⟨if n < 2 then 0 else 3299⟩
  answer _ n :=
    (some (replyOf (if n = 0 then "\x7b\"access_token\":\"t\",\"expires_in\":3600\x7d" else "\x7b\x7d")), n + 1)

/-- What there is when a first request has been made. -/
def hourState : Memory × Nat := (hourPeer.run (fetching hourIssuer Client.plainUrl).run (Memory.fresh, 0)).2

/-- The token that the first turn got signs the request of the second. -/
theorem session_reuses_hour :
    let first := fetchTurn hourPeer hourIssuer Client.plainUrl (Memory.fresh, 0)
    let second := fetchTurn hourPeer hourIssuer Client.plainUrl hourState
    let token : AccessToken := ⟨"t", some ⟨3600⟩⟩
    Session hourIssuer none [first] (some token) ∧ second.Takes hourIssuer (some token) (some token) ∧
      second.requests = [second.request Client.plainUrl "t"] := by
  intro first second token
  have hheld : hourState.1.token = some token := by decide +kernel
  have hkept : (hourPeer.run (fetching hourIssuer Client.plainUrl).run hourState).2.1.token = some token := by
    decide +kernel
  have hfirst : first.Takes hourIssuer none (some token) := hheld ▸ takes_fetchTurn
  have hsecond : second.Takes hourIssuer (some token) (some token) := by
    have h : second.Takes hourIssuer hourState.1.token _ := takes_fetchTurn
    rwa [hheld, hkept] at h
  have hsession : Session hourIssuer none [first] (some token) := .concat (.nil none) hfirst
  have hprepared : second.prepared = .ok Client.plainUrl := Client.ok_of_toOption (by decide +kernel)
  have htime : second.time? = some ⟨3299⟩ := by decide +kernel
  have hfault : (fault? (second.request Client.plainUrl "t")).isNone = true := by decide +kernel
  obtain ⟨hfresh, -, -⟩ := (hsession.reuses hsecond).2.2.2 _ hprepared
  obtain ⟨-, _, hsame, hrequests⟩ := hfresh (htime ▸ not_due (by decide))
  cases hsame
  exact ⟨hsession, hsecond, by rwa [sendable, if_pos hfault] at hrequests⟩

end Transport

end AccessSync
