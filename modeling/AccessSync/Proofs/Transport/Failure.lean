import AccessSync.Proofs.Transport.Exchange
/-!
# How requests fail

A request fails if it is not answered, if the answer is cut short or if it is a refusal; a request for a
token also fails if there is no token in the answer or if it cannot be sent at all. `Fails` recognizes
this by the events that a call has to do from there on, and `Told` says what the whole of these is and
which error tells of the failure. A call that `TellsFailures` stops at the first and ends with its error.
Calls that are put together from such calls are such calls (`Call.TellsFailures.bind`), and so is every
exchange of messages (`Transport.exchange_tells`).
-/

namespace AccessSync

/-- The request is the one for a token that these credentials need. -/
def Credentials.AsksToken (credentials : Credentials) (request : Http.Request) : Prop :=
  ∃ issuer, credentials = .issued issuer ∧ request = Transport.tokenRequest issuer

/-- The reply, read at that instant, is a refusal that the error repeats. -/
structure Http.Reply.Refuses (reply : Http.Reply) (now : Instant) (e : ApiError) : Prop where
  failed : reply.status.isSuccess = false
  status : e.status = reply.status
  rateLimit : Http.RateLimit.ofReply? now reply.status reply.headers = some e.rateLimit
  texts : ∃ bytes, reply.body = some bytes ∧ e = Transport.readError reply.status bytes e.rateLimit

namespace Transport

/-- There is no answer, or it is cut short or a refusal. -/
def Unserved : Option Http.Reply → Prop
  | none => True
  | some reply => reply.status.isSuccess = false ∨ reply.body = none

/-- There is no token in the answer. -/
def Denied : Option Http.Reply → Prop
  | none => True
  | some reply => reply.status.isSuccess = false ∨ (reply.body.bind Json.ofBytes).bind readToken = none

/-- The first of these events is a request that fails, or shows that a token is needed which cannot be
asked for. -/
inductive Fails (credentials : Credentials) : List Event → Prop
  | unserved {request : Http.Request} {answer : Option Http.Reply} {rest : List Event} :
      ¬credentials.AsksToken request → Unserved answer → Fails credentials (⟨.send request, answer⟩ :: rest)
  | denied {request : Http.Request} {answer : Option Http.Reply} {rest : List Event} :
      credentials.AsksToken request → Denied answer → Fails credentials (⟨.send request, answer⟩ :: rest)
  | missing {issuer : TokenIssuer} {rest : List Event} :
      credentials = .issued issuer → (fault? (tokenRequest issuer)).isSome = true →
      Fails credentials (⟨.readToken, none⟩ :: rest)
  | stale {issuer : TokenIssuer} {held : AccessToken} {now : Instant} {rest : List Event} :
      credentials = .issued issuer → (fault? (tokenRequest issuer)).isSome = true →
      held.isStale now = true → Fails credentials (⟨.readToken, some held⟩ :: ⟨.now, now⟩ :: rest)

/-- Those are all events from a failure on, and that is how it is told. -/
inductive Told (credentials : Credentials) : List Event → Halt → Prop
  | unanswered {request : Http.Request} : ¬credentials.AsksToken request →
      Told credentials [⟨.send request, none⟩] (.error (.transfer .noReply))
  | cutShort {request : Http.Request} {reply : Http.Reply} {now : Instant} :
      ¬credentials.AsksToken request → reply.body = none →
      Told credentials [⟨.send request, some reply⟩, ⟨.now, now⟩] (.error (.transfer .cutShort))
  | refused {request : Http.Request} {reply : Http.Reply} {now : Instant} {e : ApiError} :
      ¬credentials.AsksToken request → reply.Refuses now e →
      Told credentials [⟨.send request, some reply⟩, ⟨.now, now⟩] (.error (.api e))
  | beyondCalendar {request : Http.Request} {reply : Http.Reply} {now : Instant} :
      ¬credentials.AsksToken request → Http.RateLimit.ofReply? now reply.status reply.headers = none →
      Told credentials [⟨.send request, some reply⟩, ⟨.now, now⟩] .beyondCalendar
  | tokenUnanswered {request : Http.Request} : credentials.AsksToken request →
      Told credentials [⟨.send request, none⟩] (.error (.credential (.tokenUnanswered request.url.text)))
  | tokenRefused {request : Http.Request} {reply : Http.Reply} : credentials.AsksToken request →
      reply.status.isSuccess = false →
      Told credentials [⟨.send request, some reply⟩]
        (.error (.credential (.tokenRefused reply.status
          (String.ofList (Utf8.decodeLossy (reply.body.getD []))))))
  | tokenUnreadable {request : Http.Request} {reply : Http.Reply} : credentials.AsksToken request →
      reply.status.isSuccess = true → (reply.body.bind Json.ofBytes).bind readToken = none →
      Told credentials [⟨.send request, some reply⟩] (.error (.credential .tokenUnreadable))
  | tokenMissing {issuer : TokenIssuer} : credentials = .issued issuer →
      (fault? (tokenRequest issuer)).isSome = true →
      Told credentials [⟨.readToken, none⟩]
        (.error (.credential (.tokenUnsendable (tokenRequest issuer).url.text)))
  | tokenStale {issuer : TokenIssuer} {held : AccessToken} {now : Instant} :
      credentials = .issued issuer → (fault? (tokenRequest issuer)).isSome = true →
      held.isStale now = true →
      Told credentials [⟨.readToken, some held⟩, ⟨.now, now⟩]
        (.error (.credential (.tokenUnsendable (tokenRequest issuer).url.text)))

end Transport

/-- No failure begins with the event. -/
def Event.Quiet : Event → Prop
  | ⟨.send _, _⟩ | ⟨.readToken, _⟩ => False
  | _ => True

theorem Transport.Fails.not_quiet {credentials : Credentials} {ev : Event} {rest : List Event}
    (h : Fails credentials (ev :: rest)) : ¬ev.Quiet := by
  cases h <;> exact id

/-! ## Calls that tell of failures -/

namespace Call

variable {α β : Type} {credentials : Credentials}

/-- At the first failure the call stops; `after` says how it ends then. What may follow the events that
are left, as `more`, does not count. -/
def TellsBy (credentials : Credentials) (after : Halt → Except Halt α) (x : Call α) : Prop :=
  ∀ es result before rest more, x.Does es (some result) → es = before ++ rest → rest ≠ [] →
    Transport.Fails credentials (rest ++ more) →
    ∃ h, Transport.Told credentials rest h ∧ result = after h

/-- At the first failure the call stops and ends with its error. -/
abbrev TellsFailures (credentials : Credentials) (x : Call α) : Prop := x.TellsBy credentials .error

theorem tells_of_quiet {x : Call α} {after : Halt → Except Halt α} (h : x.Always Event.Quiet) :
    x.TellsBy credentials after := by
  intro es result before rest more hdoes hes hne hfails
  cases rest with
  | nil => exact absurd rfl hne
  | cons ev rest => exact absurd (h es _ hdoes ev (by simp [hes])) hfails.not_quiet

theorem tells_pure {a : α} : (pure a : Call α).TellsFailures credentials := tells_of_quiet always_pure

theorem tells_fail {e : Error} : (fail e : Call α).TellsFailures credentials := tells_of_quiet always_fail

theorem tells_ofExcept {ε : Type} {error : ε → Error} {x : Except ε α} :
    (ofExcept error x).TellsFailures credentials := tells_of_quiet always_ofExcept

/-- There is no failure in a part that has a value, so it stands behind. -/
theorem TellsFailures.behind_of_ok {x : Call α} (hx : x.TellsFailures credentials) {a : α}
    {xs ys before rest more : List Event} (hdoes : x.Does xs (some (.ok a)))
    (hes : before ++ rest = xs ++ ys) (hne : rest ≠ []) (hfails : Transport.Fails credentials (rest ++ more)) :
    ∃ mid, before = xs ++ mid ∧ ys = mid ++ rest := by
  rcases List.append_eq_append_iff.1 hes with ⟨mid, rfl, rfl⟩ | ⟨mid, rfl, rfl⟩
  · cases mid with
    | nil => exact ⟨[], by simp, by simp⟩
    | cons ev mid =>
      obtain ⟨h, -, herror⟩ := hx _ (.ok a) before (ev :: mid) (ys ++ more) hdoes rfl (by simp)
        (by simpa using hfails)
      cases herror
  · exact ⟨mid, rfl, rfl⟩

/-- If the first part ends with its error as the whole does, the second may have its own way. -/
theorem TellsBy.bind {x : Call α} {f : α → Call β} {after : Halt → Except Halt β}
    (hx : x.TellsFailures credentials)
    (hafter : ∀ es h, x.Does es (some (.error h)) → (∃ ev ∈ es, ¬ev.Quiet) → after h = .error h)
    (hf : ∀ a, (f a).TellsBy credentials after) : (x >>= f).TellsBy credentials after := by
  intro es result before rest more hdoes hes hne hfails
  rcases does_bind.1 hdoes with ⟨-, hr⟩ | ⟨h, hxs, hr⟩ | ⟨a, xs, ys, hsplit, hxs, hys⟩
  · cases hr
  · obtain ⟨h', htold, herror⟩ := hx es (.error h) before rest more hxs hes hne hfails
    obtain rfl := Except.error.inj herror
    cases hr
    cases rest with
    | nil => exact absurd rfl hne
    | cons ev rest => exact ⟨h, htold, (hafter es h hxs ⟨ev, by simp [hes], hfails.not_quiet⟩).symm⟩
  · obtain ⟨mid, -, rfl⟩ := hx.behind_of_ok hxs (hes.symm.trans hsplit) hne hfails
    exact hf a _ result mid rest more hys rfl hne hfails

theorem TellsFailures.bind {x : Call α} {f : α → Call β} (hx : x.TellsFailures credentials)
    (hf : ∀ a, (f a).TellsFailures credentials) : (x >>= f).TellsFailures credentials :=
  TellsBy.bind hx (fun _ _ _ _ => rfl) hf

/-- Nothing fails in a first part without requests. -/
theorem TellsBy.behind {x : Call α} {f : α → Call β} {after : Halt → Except Halt β}
    (hx : x.Always Event.Quiet) (hf : ∀ a, (f a).TellsBy credentials after) :
    (x >>= f).TellsBy credentials after := by
  refine TellsBy.bind (tells_of_quiet hx) ?_ hf
  rintro es h hdoes ⟨ev, hev, hloud⟩
  exact absurd (hx es _ hdoes ev hev) hloud

/-- A call whose error is looked at goes on as it did if it has none. Otherwise what looks at the error
has to say how the whole ends. -/
theorem TellsBy.attempt_bind {x : Call α} {f : Except Error α → Call β} {after : Halt → Except Halt β}
    (hx : x.TellsFailures credentials) (hvalue : ∀ a, (f (.ok a)).TellsBy credentials after)
    (herror : ∀ e ys result, (f (.error e)).Does ys (some result) → ys = [] ∧ result = after (.error e))
    (hbeyond : after .beyondCalendar = .error .beyondCalendar) :
    (attempt x >>= f).TellsBy credentials after := by
  intro es result before rest more hdoes hes hne hfails
  rcases does_bind.1 hdoes with ⟨-, hr⟩ | ⟨h, hattempt, hr⟩ | ⟨seen, xs, ys, hsplit, hattempt, hys⟩
  · cases hr
  · obtain ⟨r', hxs, hr'⟩ := does_attempt.1 hattempt
    cases hr
    rcases r' with _ | (⟨e⟩ | _) | a
    · cases hr'
    · cases hr'
    · cases hr'
      obtain ⟨h', htold, hsame⟩ := hx es _ before rest more hxs hes hne hfails
      cases hsame
      exact ⟨_, htold, hbeyond.symm⟩
    · cases hr'
  obtain ⟨r', hxs, hr'⟩ := does_attempt.1 hattempt
  rcases r' with _ | (⟨e⟩ | _) | a
  · cases hr'
  · -- What looks at the error does nothing more, so the failure is what the error tells of.
    cases hr'
    obtain ⟨rfl, hresult⟩ := herror e ys result hys
    obtain ⟨h, htold, hsame⟩ := hx xs _ before rest more hxs (by simpa [hes] using hsplit.symm) hne hfails
    cases hsame
    exact ⟨_, htold, hresult⟩
  · cases hr'
  · cases hr'
    obtain ⟨mid, -, rfl⟩ := hx.behind_of_ok hxs (hes.symm.trans hsplit) hne hfails
    exact hvalue a _ result mid rest more hys rfl hne hfails

/-- An effect whose own failure is told by what follows it. -/
theorem tells_perform_bind {e : Effect} {f : e.Answer → Call β}
    (hfirst : ∀ answer ys result more, (f answer).Does ys (some result) →
      Transport.Fails credentials (⟨e, answer⟩ :: (ys ++ more)) →
      ∃ h, Transport.Told credentials (⟨e, answer⟩ :: ys) h ∧ result = .error h)
    (hf : ∀ answer, (f answer).TellsFailures credentials) : (perform e >>= f).TellsFailures credentials := by
  intro es result before rest more hdoes hes hne hfails
  rcases does_perform_bind.1 hdoes with ⟨-, hr⟩ | ⟨answer, ys, rfl, hys⟩
  · cases hr
  cases before with
  | nil =>
    obtain rfl : rest = ⟨e, answer⟩ :: ys := hes.symm
    exact hfirst answer ys result more hys hfails
  | cons ev before =>
    obtain ⟨rfl, rfl⟩ := List.cons.inj hes
    exact hf answer _ result before rest more hys rfl hne hfails

/-- A call of which only the first event can be a failure, and that ends with its error then. -/
theorem tells_of_first {x : Call α} (hquiet : ∀ ev es r, x.Does (ev :: es) r → ∀ ev' ∈ es, ev'.Quiet)
    (hfirst : ∀ ev es result more, x.Does (ev :: es) (some result) → Transport.Fails credentials (ev :: (es ++ more)) →
      ∃ h, Transport.Told credentials (ev :: es) h ∧ result = .error h) : x.TellsFailures credentials := by
  intro es result before rest more hdoes hes hne hfails
  subst hes
  cases before with
  | nil =>
    obtain ⟨ev, rest, rfl⟩ := List.exists_cons_of_ne_nil hne
    exact hfirst ev rest result more hdoes hfails
  | cons first before =>
    obtain ⟨ev, rest, rfl⟩ := List.exists_cons_of_ne_nil hne
    exact absurd (hquiet first _ _ hdoes ev (by simp)) hfails.not_quiet

end Call

/-! ## Exchanges of messages -/

namespace Transport

variable {α : Type} {credentials : Credentials} {issuer : TokenIssuer} {read : Json → Option α}

theorem status_readError (status : Http.Status) (bytes : List UInt8) (rateLimit : Http.RateLimit) :
    (readError status bytes rateLimit).status = status := by
  unfold readError
  split <;> rfl

theorem rateLimit_readError (status : Http.Status) (bytes : List UInt8) (rateLimit : Http.RateLimit) :
    (readError status bytes rateLimit).rateLimit = rateLimit := by
  unfold readError
  split <;> rfl

/-- A reply that is cut short or refuses is read as an error that says so. -/
theorem told_of_unserved {request : Http.Request} {reply : Http.Reply} (read : Json → Option α)
    (now : Instant) (hno : ¬credentials.AsksToken request) (h : Unserved (some reply)) :
    ∃ halt, Told credentials [⟨.send request, some reply⟩, ⟨.now, now⟩] halt ∧
      decode read now reply = .error halt := by
  unfold decode
  cases hquota : Http.RateLimit.ofReply? now reply.status reply.headers with
  | none => exact ⟨_, .beyondCalendar hno hquota, rfl⟩
  | some rateLimit =>
    cases hbody : reply.body with
    | none => exact ⟨_, .cutShort hno hbody, rfl⟩
    | some bytes =>
      have hfailed : reply.status.isSuccess = false := by simpa [Unserved, hbody] using h
      refine ⟨.error (.api (readError reply.status bytes rateLimit)), .refused hno ⟨hfailed, ?_, ?_, bytes, hbody, ?_⟩, ?_⟩
      · exact status_readError ..
      · rw [rateLimit_readError, hquota]
      · rw [rateLimit_readError]
      · simp [hfailed]

/-- Without a way to send the request for a token there is none. -/
theorem does_renewToken_of_fault (hfault : (fault? (tokenRequest issuer)).isSome = true) {es : List Event}
    {r : Option (Except Halt String)} (h : (renewToken issuer).Does es r) :
    es = [] ∧ r = some (.error (.error (.credential (.tokenUnsendable (tokenRequest issuer).url.text)))) := by
  have hacquire : acquireToken issuer =
      Call.fail (.credential (.tokenUnsendable (tokenRequest issuer).url.text)) := by
    simp [acquireToken, hfault]
  unfold renewToken at h
  rw [hacquire] at h
  exact Call.does_fail.1 h

theorem tells_acquireToken (hissued : credentials = .issued issuer) :
    (acquireToken issuer).TellsFailures credentials := by
  have hasks : credentials.AsksToken (tokenRequest issuer) := ⟨issuer, hissued, rfl⟩
  refine Call.tells_of_first (fun ev es r h => ?_) fun ev es result more h hfails => ?_
  · cases does_acquireToken h <;> simp [Event.Quiet]
  -- There is no token in the answer if it is denied.
  have hnone : ∀ {reply : Http.Reply} {rest}, Fails credentials (⟨.send (tokenRequest issuer), some reply⟩ :: rest) →
      reply.status.isSuccess = true → (reply.body.bind Json.ofBytes).bind readToken = none := by
    intro reply rest hfails hsuccess
    cases hfails with
    | unserved hno => exact absurd hasks hno
    | denied _ hdenied => simpa [Denied, hsuccess] using hdenied
  cases does_acquireToken h with
  | unanswered => exact ⟨_, .tokenUnanswered hasks, rfl⟩
  | refused hfailed => exact ⟨_, .tokenRefused hasks hfailed, rfl⟩
  | unreadable hsuccess hread => exact ⟨_, .tokenUnreadable hasks hsuccess hread, rfl⟩
  | unlimited hsuccess hread | limited hsuccess hread | beyond hsuccess hread =>
    cases (hnone hfails hsuccess).symm.trans hread

theorem tells_renewToken (hissued : credentials = .issued issuer) :
    (renewToken issuer).TellsFailures credentials := by
  refine (tells_acquireToken hissued).bind fun token => ?_
  refine Call.TellsFailures.bind (Call.tells_of_quiet (Call.always_perform ?_)) fun _ => Call.tells_pure
  exact fun _ => trivial

theorem tells_token (hissued : credentials = .issued issuer) : (token issuer).TellsFailures credentials := by
  refine Call.tells_perform_bind ?_ ?_
  · intro held ys result more hys hfails
    cases held with
    | none =>
      cases hfails with
      | missing hissued' hfault =>
        cases hissued.symm.trans hissued'
        obtain ⟨rfl, hresult⟩ := does_renewToken_of_fault hfault hys
        cases hresult
        exact ⟨_, .tokenMissing hissued hfault, rfl⟩
    | some held =>
      rcases Call.does_perform_bind.1 hys with ⟨-, hr⟩ | ⟨now, zs, rfl, hzs⟩
      · cases hr
      cases hfails with
      | stale hissued' hfault hstale =>
        cases hissued.symm.trans hissued'
        rw [if_pos hstale] at hzs
        obtain ⟨rfl, hresult⟩ := does_renewToken_of_fault hfault hzs
        cases hresult
        exact ⟨_, .tokenStale hissued hfault hstale, rfl⟩
  · intro held
    cases held with
    | none => exact tells_renewToken hissued
    | some held =>
      refine Call.TellsFailures.bind (Call.tells_of_quiet (Call.always_perform ?_)) fun now => ?_
      · exact fun _ => trivial
      split_ifs
      · exact tells_renewToken hissued
      · exact Call.tells_pure

theorem tells_credential (credentials : Credentials) (scope : Scope) :
    (credential credentials scope).TellsFailures credentials := by
  cases credentials with
  | anonymous => exact Call.tells_pure
  | basic => exact Call.tells_pure
  | issued issuer => exact (tells_token rfl).bind fun _ => Call.tells_pure
  | workspaceTokens tokens =>
    cases scope with
    | account => exact Call.tells_fail
    | workspace name =>
      simp only [credential]
      split
      · exact Call.tells_fail
      · exact Call.tells_pure

theorem tells_send {request : Http.Request} (hno : ¬credentials.AsksToken request) :
    (send read request).TellsFailures credentials := by
  have hexchanged : ∀ {ev es r}, (send read request).Does (ev :: es) r → Exchanged read request (ev :: es) r :=
    fun h => (does_send h).resolve_left fun hno => List.cons_ne_nil _ _ hno.1
  refine Call.tells_of_first (fun ev es r h => ?_) fun ev es result more h hfails => ?_
  · cases hexchanged h <;> simp [Event.Quiet]
  cases hexchanged h with
  | unanswered => exact ⟨_, .unanswered hno, rfl⟩
  | read reply now =>
    cases hfails with
    | denied hasks => exact absurd hasks hno
    | unserved _ hunserved => exact told_of_unserved read now hno hunserved

/-- The request of an exchange is none for a token. -/
theorem not_asksToken {request : Http.Request} {body : Option Json} (h : request.body = bodyOf body) :
    ¬credentials.AsksToken request := by
  rintro ⟨issuer, -, rfl⟩
  have htoken : (tokenRequest issuer).body =
      .form [("grant_type", "client_credentials"), ("scope", "all-apis")] := rfl
  rw [htoken] at h
  cases body <;> cases h

/-- Every exchange tells of its failures. -/
theorem exchange_tells {method : Http.Method} {scope : Scope} {url : Url} {body : Option Json}
    {terms : List Query.Term} :
    (exchange credentials read method scope url body terms).TellsFailures credentials := by
  refine Call.tells_ofExcept.bind fun prepared => ?_
  refine (tells_credential credentials scope).bind fun credential => ?_
  have hbody : (requestAt url credential method body).body = bodyOf body := rfl
  exact tells_send (not_asksToken hbody)

end Transport

end AccessSync
