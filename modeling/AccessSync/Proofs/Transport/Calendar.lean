import AccessSync.Proofs.Program.Course
import AccessSync.Proofs.Transport.Failure
/-!
# Replies that name a time beyond the calendar

A reply may say when to come back and how long its token is valid, in seconds. If that is more than a span
counts, or the calendar ends before it, the reply is untimely and the call that reads it has neither a value
nor an error. Main statement: an exchange ends beyond the calendar exactly if it came upon such a reply
(`Transport.exchange_stops`).
-/

namespace AccessSync

/-! ## Untimely replies -/

namespace Http.RateLimit

/-- The reply names a time to come back that there is not, as a span or counted from now. -/
def IsUntimely (now : Instant) (headers : Headers) : Prop :=
  (∃ seconds, retryAfter? headers = some seconds ∧ Instant.span? seconds = none) ∨
  (∃ seconds, reset? headers = some seconds ∧ Instant.span? seconds = none) ∨
  ∃ seconds, (retryAfter? headers).or (reset? headers) = some seconds ∧ now.later? seconds = none

theorem spanOf?_eq_none {seconds : Option Int} :
    spanOf? seconds = none ↔ ∃ s, seconds = some s ∧ Instant.span? s = none := by
  cases seconds <;> simp [spanOf?]

theorem eq_of_spanOf? {seconds span : Option Int} (h : spanOf? seconds = some span) : span = seconds := by
  cases seconds with
  | none =>
    cases h
    rfl
  | some s =>
    obtain ⟨s', hs, rfl⟩ := Option.map_eq_some_iff.1 h
    unfold Instant.span? at hs
    split_ifs at hs
    rw [hs]

/-- Those are the replies of which nothing can be said. -/
theorem ofReply?_eq_none_iff (now : Instant) (status : Status) (headers : Headers) :
    ofReply? now status headers = none ↔ IsUntimely now headers := by
  unfold IsUntimely ofReply?
  rw [← spanOf?_eq_none, ← spanOf?_eq_none]
  cases hretry : spanOf? (retryAfter? headers) with
  | none => simp
  | some retry =>
    cases hreset : spanOf? (reset? headers) with
    | none => simp
    | some reset =>
      obtain rfl := eq_of_spanOf? hretry
      obtain rfl := eq_of_spanOf? hreset
      cases hspan : (retryAfter? headers).or (reset? headers) with
      | none => simp [hspan]
      | some span => cases hlater : now.later? span <;> simp [hspan, hlater]

end Http.RateLimit

namespace Transport

/-- The reply is read as one that names a time which there is not: a token by its lifetime, any other by
what it says about the quota. -/
inductive Overdue (credentials : Credentials) (request : Http.Request) (reply : Http.Reply) (now : Instant) :
    Prop
  | quota : ¬credentials.AsksToken request → Http.RateLimit.IsUntimely now reply.headers →
      Overdue credentials request reply now
  | token {text : String} {lifetime : Int64} : credentials.AsksToken request →
      reply.status.isSuccess = true →
      (reply.body.bind Json.ofBytes).bind readToken = some (text, some lifetime) →
      (Instant.span? lifetime.toInt).bind now.later? = none → Overdue credentials request reply now

/-- In the course of these events such a reply was received. -/
def Untimely (credentials : Credentials) (es : List Event) : Prop :=
  ∃ request reply now, [⟨.send request, some reply⟩, ⟨.now, now⟩] <:+: es ∧
    Overdue credentials request reply now

variable {credentials : Credentials} {xs ys es : List Event}

theorem not_untimely_nil : ¬Untimely credentials [] := by
  rintro ⟨request, reply, now, hinfix, -⟩
  cases List.infix_nil.1 hinfix

/-- An event that is no reply has no part in it if it comes first. -/
theorem untimely_cons {ev : Event} (h : ∀ request reply, ev ≠ ⟨.send request, some reply⟩) :
    Untimely credentials (ev :: es) ↔ Untimely credentials es := by
  refine exists_congr fun request => exists_congr fun reply => exists_congr fun now => and_congr_left' ?_
  rw [List.infix_cons_iff, List.cons_prefix_cons]
  constructor
  · rintro (⟨hev, -⟩ | h')
    · exact absurd hev.symm (h request reply)
    · exact h'
  · exact .inr

/-- A reply is read by the time that comes right behind it. -/
theorem untimely_pair {request : Http.Request} {reply : Http.Reply} {now : Instant} :
    Untimely credentials [⟨.send request, some reply⟩, ⟨.now, now⟩] ↔
      Overdue credentials request reply now := by
  constructor
  · rintro ⟨request', reply', now', hinfix, h⟩
    have heq := hinfix.eq_of_length rfl
    simp only [List.cons.injEq, and_true] at heq
    obtain ⟨hsend, hnow⟩ := heq
    cases hsend
    cases hnow
    exact h
  · exact fun h => ⟨request, reply, now, List.infix_rfl, h⟩

theorem not_untimely_single {ev : Event} : ¬Untimely credentials [ev] := by
  rintro ⟨request, reply, now, hinfix, -⟩
  have := hinfix.length_le
  simp at this

/-- Neither part is untimely if the whole is not, and that is all where the second part does not begin with
the clock. -/
theorem untimely_append (h : ∀ now zs, ys ≠ ⟨.now, now⟩ :: zs) :
    Untimely credentials (xs ++ ys) ↔ Untimely credentials xs ∨ Untimely credentials ys := by
  constructor
  · rintro ⟨request, reply, now, hinfix, hoverdue⟩
    rcases List.infix_append_iff.1 hinfix with hx | hy | ⟨l₁, l₂, hsplit, hl₁, hl₂⟩
    · exact .inl ⟨request, reply, now, hx, hoverdue⟩
    · exact .inr ⟨request, reply, now, hy, hoverdue⟩
    · rcases l₁ with _ | ⟨first, _ | ⟨second, rest⟩⟩
      · exact .inr ⟨request, reply, now, (hsplit.trans (List.nil_append l₂)) ▸ hl₂.isInfix, hoverdue⟩
      · -- The reply would be the last event of the first part and the clock the first of the second.
        obtain ⟨-, rfl⟩ := List.cons.inj hsplit
        obtain ⟨zs, rfl⟩ := hl₂
        exact absurd rfl (h now zs)
      · obtain ⟨rfl, hsecond⟩ := List.cons.inj hsplit
        obtain ⟨rfl, hrest⟩ := List.cons.inj hsecond
        obtain ⟨rfl, -⟩ := List.append_eq_nil_iff.1 hrest.symm
        exact .inl ⟨request, reply, now, hl₁.isInfix, hoverdue⟩
  · rintro (⟨request, reply, now, hinfix, hoverdue⟩ | ⟨request, reply, now, hinfix, hoverdue⟩)
    · exact ⟨request, reply, now, hinfix.trans (List.prefix_append ..).isInfix, hoverdue⟩
    · exact ⟨request, reply, now, hinfix.trans (List.suffix_append ..).isInfix, hoverdue⟩

end Transport

/-! ## Calls that only such replies stop -/

namespace Call

variable {α β : Type} {credentials : Credentials}

/-- The call ends beyond the calendar exactly if it came upon an untimely reply. -/
def StopsUntimely (credentials : Credentials) (x : Call α) : Prop :=
  ∀ es result, x.Does es (some result) →
    (result = .error .beyondCalendar ↔ Transport.Untimely credentials es)

/-- The call does not begin with a look at the clock. -/
def BeginsUnclocked (x : Call α) : Prop := ∀ now es r, ¬x.Does (⟨.now, now⟩ :: es) r

theorem stops_pure {a : α} : (pure a : Call α).StopsUntimely credentials := by
  intro es result h
  obtain ⟨rfl, hr⟩ := does_pure.1 h
  cases hr
  simpa using Transport.not_untimely_nil

theorem stops_fail {e : Error} : (fail e : Call α).StopsUntimely credentials := by
  intro es result h
  obtain ⟨rfl, hr⟩ := does_fail.1 h
  cases hr
  simpa using Transport.not_untimely_nil

theorem stops_ofExcept {ε : Type} {error : ε → Error} {x : Except ε α} :
    (ofExcept error x).StopsUntimely credentials := by
  cases x with
  | ok a => exact stops_pure
  | error fault => exact stops_fail

theorem stops_perform {e : Effect} : (perform e).StopsUntimely credentials := by
  intro es result h
  rcases does_perform.1 h with ⟨-, hr⟩ | ⟨answer, rfl, hr⟩
  · cases hr
  · cases hr
    simpa using Transport.not_untimely_single

theorem unclocked_of_does_nil {x : Call α} (h : ∀ es r, x.Does es r → es = []) : x.BeginsUnclocked := by
  intro now es r hdoes
  cases h _ _ hdoes

theorem unclocked_pure {a : α} : (pure a : Call α).BeginsUnclocked :=
  unclocked_of_does_nil fun _ _ h => (does_pure.1 h).1

theorem unclocked_fail {e : Error} : (fail e : Call α).BeginsUnclocked :=
  unclocked_of_does_nil fun _ _ h => (does_fail.1 h).1

theorem unclocked_ofExcept {ε : Type} {error : ε → Error} {x : Except ε α} :
    (ofExcept error x).BeginsUnclocked := by
  cases x with
  | ok a => exact unclocked_pure
  | error fault => exact unclocked_fail

theorem unclocked_perform {e : Effect} (h : e ≠ .now) : (perform e).BeginsUnclocked := by
  intro now es r hdoes
  rcases does_perform.1 hdoes with ⟨hes, -⟩ | ⟨answer, hes, -⟩
  · cases hes
  · cases hes
    exact h rfl

/-- An effect comes before all that follows it. -/
theorem unclocked_perform_bind {e : Effect} {f : e.Answer → Call β} (h : e ≠ .now) :
    (perform e >>= f).BeginsUnclocked := by
  intro now es r hdoes
  rcases does_perform_bind.1 hdoes with ⟨hes, -⟩ | ⟨answer, ys, hes, -⟩
  · cases hes
  · cases hes
    exact h rfl

theorem BeginsUnclocked.bind {x : Call α} {f : α → Call β} (hx : x.BeginsUnclocked)
    (hf : ∀ a, (f a).BeginsUnclocked) : (x >>= f).BeginsUnclocked := by
  intro now es r hdoes
  rcases does_bind.1 hdoes with ⟨hxs, -⟩ | ⟨_, hxs, -⟩ | ⟨a, xs, ys, hsplit, hxs, hys⟩
  · exact hx _ _ _ hxs
  · exact hx _ _ _ hxs
  · cases xs with
    | nil =>
      obtain rfl : _ = ys := hsplit
      exact hf a _ _ _ hys
    | cons ev xs =>
      obtain ⟨rfl, -⟩ := List.cons.inj hsplit
      exact hx _ _ _ hxs

theorem BeginsUnclocked.attempt {x : Call α} (hx : x.BeginsUnclocked) : (attempt x).BeginsUnclocked := by
  intro now es r hdoes
  obtain ⟨r', hr', -⟩ := does_attempt.1 hdoes
  exact hx _ _ _ hr'

/-- Where the second part does not begin with the clock, the first reads all its replies itself. -/
theorem StopsUntimely.bind {x : Call α} {f : α → Call β} (hx : x.StopsUntimely credentials)
    (hf : ∀ a, (f a).StopsUntimely credentials) (hclock : ∀ a, (f a).BeginsUnclocked) :
    (x >>= f).StopsUntimely credentials := by
  intro es result hdoes
  rcases does_bind.1 hdoes with ⟨-, hr⟩ | ⟨h, hxs, hr⟩ | ⟨a, xs, ys, rfl, hxs, hys⟩
  · cases hr
  · cases hr
    rw [← hx es _ hxs]
    simp
  · have hno : ¬Transport.Untimely credentials xs := by
      rw [← hx xs _ hxs]
      simp
    have hys' : ∀ now zs, ys ≠ ⟨.now, now⟩ :: zs := by
      rintro now zs rfl
      exact hclock a _ _ _ hys
    rw [Transport.untimely_append hys', hf a ys result hys]
    simp [hno]

/-- What comes behind an effect that is no request has all the replies. -/
theorem stops_perform_bind {e : Effect} {f : e.Answer → Call β} (h : ∀ request, e ≠ .send request)
    (hf : ∀ answer, (f answer).StopsUntimely credentials) : (perform e >>= f).StopsUntimely credentials := by
  intro es result hdoes
  rcases does_perform_bind.1 hdoes with ⟨-, hr⟩ | ⟨answer, ys, rfl, hys⟩
  · cases hr
  · rw [hf answer ys result hys, Transport.untimely_cons]
    rintro request reply heq
    cases heq
    exact h _ rfl

theorem StopsUntimely.attempt {x : Call α} (hx : x.StopsUntimely credentials) :
    (attempt x).StopsUntimely credentials := by
  intro es result hdoes
  obtain ⟨r', hr', hresult⟩ := does_attempt.1 hdoes
  rcases r' with _ | (e | _) | a
  · cases hresult
  · cases hresult
    rw [← hx es _ hr']
    simp [attempted]
  · cases hresult
    rw [← hx es _ hr']
    simp [attempted]
  · cases hresult
    rw [← hx es _ hr']
    simp [attempted]

end Call

/-! ## Exchanges -/

namespace Transport

variable {α : Type} {credentials : Credentials} {issuer : TokenIssuer} {read : Json → Option α}

theorem decode_eq_beyond_iff {now : Instant} {reply : Http.Reply} :
    decode read now reply = .error .beyondCalendar ↔ Http.RateLimit.IsUntimely now reply.headers := by
  rw [← Http.RateLimit.ofReply?_eq_none_iff now reply.status]
  unfold decode
  cases Http.RateLimit.ofReply? now reply.status reply.headers with
  | none => simp
  | some rateLimit =>
    cases reply.body with
    | none => simp
    | some bytes =>
      dsimp only
      split
      · simp
      · split <;> simp

/-- Nothing but the token in it makes the reply to a request for a token an untimely one. -/
theorem overdue_iff_of_asks {request : Http.Request} {reply : Http.Reply} {now : Instant} {text : String}
    {lifetime : Int64} (hasks : credentials.AsksToken request) (hsuccess : reply.status.isSuccess = true)
    (hread : (reply.body.bind Json.ofBytes).bind readToken = some (text, some lifetime)) :
    Overdue credentials request reply now ↔ (Instant.span? lifetime.toInt).bind now.later? = none := by
  constructor
  · intro h
    cases h with
    | quota hno => exact absurd hasks hno
    | token _ _ hread' hlate =>
      cases hread.symm.trans hread'
      exact hlate
  · exact .token hasks hsuccess hread

theorem overdue_iff_of_not_asks {request : Http.Request} {reply : Http.Reply} {now : Instant}
    (hno : ¬credentials.AsksToken request) :
    Overdue credentials request reply now ↔ Http.RateLimit.IsUntimely now reply.headers := by
  constructor
  · intro h
    cases h with
    | quota _ hlate => exact hlate
    | token hasks => exact absurd hasks hno
  · exact .quota hno

theorem stops_acquireToken (hissued : credentials = .issued issuer) :
    (acquireToken issuer).StopsUntimely credentials := by
  have hasks : credentials.AsksToken (tokenRequest issuer) := ⟨issuer, hissued, rfl⟩
  intro es result h
  cases does_acquireToken h with
  | unsendable => simpa using not_untimely_nil
  | unanswered | refused | unreadable | unlimited => simpa using not_untimely_single
  | limited hsuccess hread hend | beyond hsuccess hread hend =>
    rw [untimely_pair, overdue_iff_of_asks hasks hsuccess hread]
    simp [hend]

theorem stops_renewToken (hissued : credentials = .issued issuer) :
    (renewToken issuer).StopsUntimely credentials := by
  refine (stops_acquireToken hissued).bind (fun token => ?_) fun token => ?_
  · exact Call.stops_perform.bind (fun _ => Call.stops_pure) fun _ => Call.unclocked_pure
  · exact (Call.unclocked_perform (by simp)).bind fun _ => Call.unclocked_pure

theorem stops_token (hissued : credentials = .issued issuer) : (token issuer).StopsUntimely credentials := by
  refine Call.stops_perform_bind (by simp) fun held => ?_
  cases held with
  | none => exact stops_renewToken hissued
  | some held =>
    refine Call.stops_perform_bind (by simp) fun now => ?_
    split_ifs
    · exact stops_renewToken hissued
    · exact Call.stops_pure

theorem stops_credential (credentials : Credentials) (scope : Scope) :
    (credential credentials scope).StopsUntimely credentials := by
  cases credentials with
  | anonymous => exact Call.stops_pure
  | basic => exact Call.stops_pure
  | issued issuer => exact (stops_token rfl).bind (fun _ => Call.stops_pure) fun _ => Call.unclocked_pure
  | workspaceTokens tokens =>
    cases scope with
    | account => exact Call.stops_fail
    | workspace name =>
      simp only [credential]
      split
      · exact Call.stops_fail
      · exact Call.stops_pure

theorem stops_send {request : Http.Request} (hno : ¬credentials.AsksToken request) :
    (send read request).StopsUntimely credentials := by
  unfold send
  split
  · exact Call.stops_fail
  intro es result hdoes
  rcases Call.does_perform_bind.1 hdoes with ⟨-, hr⟩ | ⟨answer, ys, rfl, hys⟩
  · cases hr
  cases answer with
  | none =>
    obtain ⟨rfl, hr⟩ := Call.does_fail.1 hys
    cases hr
    simpa using not_untimely_single
  | some reply =>
    rcases does_readReply.1 hys with ⟨-, hr⟩ | ⟨now, rfl, hr⟩
    · cases hr
    · cases hr
      rw [decode_eq_beyond_iff, untimely_pair, overdue_iff_of_not_asks hno]

theorem unclocked_send {request : Http.Request} : (send read request).BeginsUnclocked := by
  unfold send
  split
  · exact Call.unclocked_fail
  · exact Call.unclocked_perform_bind (by simp)

theorem unclocked_credential (credentials : Credentials) (scope : Scope) :
    (credential credentials scope).BeginsUnclocked := by
  cases credentials with
  | anonymous => exact Call.unclocked_pure
  | basic => exact Call.unclocked_pure
  | issued issuer =>
    have htoken : (token issuer).BeginsUnclocked := Call.unclocked_perform_bind (by simp)
    exact htoken.bind fun _ => Call.unclocked_pure
  | workspaceTokens tokens =>
    cases scope with
    | account => exact Call.unclocked_fail
    | workspace name =>
      simp only [credential]
      split
      · exact Call.unclocked_fail
      · exact Call.unclocked_pure

/-- An exchange ends beyond the calendar exactly if it came upon an untimely reply. -/
theorem exchange_stops {method : Http.Method} {scope : Scope} {url : Url} {body : Option Json}
    {terms : List Query.Term} :
    (exchange credentials read method scope url body terms).StopsUntimely credentials := by
  refine Call.stops_ofExcept.bind (fun prepared => ?_) fun prepared => ?_
  · refine (stops_credential credentials scope).bind (fun credential => ?_) fun _ => unclocked_send
    have hbody : (requestAt url credential method body).body = bodyOf body := rfl
    exact stops_send (not_asksToken hbody)
  · exact (unclocked_credential credentials scope).bind fun _ => unclocked_send

theorem exchange_unclocked {method : Http.Method} {scope : Scope} {url : Url} {body : Option Json}
    {terms : List Query.Term} : (exchange credentials read method scope url body terms).BeginsUnclocked :=
  Call.unclocked_ofExcept.bind fun _ => (unclocked_credential credentials scope).bind fun _ => unclocked_send

end Transport

end AccessSync
