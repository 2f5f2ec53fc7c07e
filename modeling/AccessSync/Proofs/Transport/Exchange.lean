import AccessSync.Client.Basic
import AccessSync.Proofs.Program.Trace
import AccessSync.Proofs.Text.Encoding
/-!
# What one exchange does

An exchange first prepares: it looks up its credential and may ask an issuer for a token, which is a
POST. Then it sends one request, of which `Asks` says what it carries, and reads the reply. Main
statements: `does_exchange` says so for every course an exchange can take, `Asks.parameters` that
the parameters of the request arrive as they were given, and `exchange_does` that an exchange whose
requests can be sent takes its full course.
-/

namespace AccessSync

/-- The parameters in the URL of a request. -/
def Http.Request.parameters (request : Http.Request) : List (String × String) :=
  Form.decode (request.url.query.getD [])

/-- Neither a version is touched nor anything sent but a request for a token. -/
def Event.Prepares (ev : Event) : Prop :=
  ev.isEtag = false ∧ ∀ request, ev.request? = some request → request.method = .post

/-- The event belongs to getting a token. -/
def Event.Authorizes : Event → Prop
  | ⟨.send request, _⟩ => request.method = .post
  | ⟨.now, _⟩ | ⟨.readToken, _⟩ | ⟨.writeToken _, _⟩ => True
  | _ => False

theorem Event.Authorizes.prepares {ev : Event} (h : ev.Authorizes) : ev.Prepares := by
  obtain ⟨e, answer⟩ := ev
  cases e with
  | send request =>
    refine ⟨rfl, ?_⟩
    rintro _ ⟨⟩
    exact h
  | now | readToken | writeToken => exact ⟨rfl, by simp [request?]⟩
  | _ => exact h.elim

/-- The event belongs to getting a token from that issuer. -/
def Event.GetsToken (issuer : TokenIssuer) : Event → Prop
  | ⟨.send request, _⟩ => request = Transport.tokenRequest issuer
  | ⟨.now, _⟩ | ⟨.readToken, _⟩ | ⟨.writeToken _, _⟩ => True
  | _ => False

theorem Event.GetsToken.authorizes {issuer : TokenIssuer} {ev : Event} (h : ev.GetsToken issuer) :
    ev.Authorizes := by
  obtain ⟨e, answer⟩ := ev
  cases e with
  | send request =>
    obtain rfl : request = Transport.tokenRequest issuer := h
    rfl
  | now | readToken | writeToken => exact trivial
  | _ => exact h.elim

/-- The event belongs to an exchange of messages. -/
def Event.Exchanges : Event → Prop
  | ⟨.send _, _⟩ | ⟨.now, _⟩ | ⟨.readToken, _⟩ | ⟨.writeToken _, _⟩ => True
  | _ => False

theorem Event.Authorizes.exchanges {ev : Event} (h : ev.Authorizes) : ev.Exchanges := by
  obtain ⟨e, answer⟩ := ev
  cases e with
  | send | now | readToken | writeToken => exact trivial
  | _ => exact h.elim

namespace Transport

variable {α : Type}

/-! ## The reply -/

/-- What a reply comes to that is read at that instant. -/
def decode (read : Json → Option α) (now : Instant) (reply : Http.Reply) :
    Except Halt (α × Http.RateLimit) :=
  match Http.RateLimit.ofReply? now reply.status reply.headers with
  | none => .error .beyondCalendar
  | some rateLimit =>
    match reply.body with
    | none => .error (.error (.transfer .cutShort))
    | some bytes =>
      if !reply.status.isSuccess then .error (.error (.api (readError reply.status bytes rateLimit)))
      else
        match (readBody bytes).bind read with
        | some a => .ok (a, rateLimit)
        | none => .error (.error .unreadableReply)

/-- What a successful reply holds, whatever it says about the quota. -/
def content? (read : Json → Option α) (reply : Http.Reply) : Option α :=
  if reply.status.isSuccess then reply.body.bind fun bytes => (readBody bytes).bind read else none

/-- A successful reply of that text, with no word about the quota. -/
def replyOf (text : String) : Http.Reply := ⟨⟨200⟩, [], some (Utf8.encode text.toList)⟩

theorem decode_replyOf {read : Json → Option α} {text : String} {a : α}
    (h : (readBody (Utf8.encode text.toList)).bind read = some a) (now : Instant) :
    decode read now (replyOf text) = .ok (a, ⟨.unknown, none, none, none⟩) := by
  have hquota : Http.RateLimit.ofReply? now ⟨200⟩ [] = some ⟨.unknown, none, none, none⟩ := rfl
  have hsuccess : Http.Status.isSuccess ⟨200⟩ = true := by decide
  simp only [decode, replyOf, hquota, hsuccess, h, Bool.not_true, Bool.false_eq_true, if_false]

theorem content?_of_decode {read : Json → Option α} {now : Instant} {reply : Http.Reply} {a : α}
    {rateLimit : Http.RateLimit} (h : decode read now reply = .ok (a, rateLimit)) :
    content? read reply = some a := by
  unfold decode at h
  unfold content?
  split at h
  · cases h
  · split at h
    · cases h
    · rename_i bytes hb
      split at h
      · cases h
      · rename_i hs
        split at h
        · rename_i ha
          cases h
          simpa [hb, ha] using hs
        · cases h

theorem success_of_decode {read : Json → Option α} {now : Instant} {reply : Http.Reply}
    {x : α × Http.RateLimit} (h : decode read now reply = .ok x) : reply.status.isSuccess = true := by
  have hcontent := content?_of_decode h
  unfold content? at hcontent
  split at hcontent
  · assumption
  · cases hcontent

/-- An API error tells the status of its reply. -/
theorem status_of_decode {read : Json → Option α} {now : Instant} {reply : Http.Reply} {e : ApiError}
    (h : decode read now reply = .error (.error (.api e))) : reply.status = e.status := by
  unfold decode at h
  split at h
  · cases h
  · split at h
    · cases h
    · rename_i bytes _
      split at h
      · cases h
        unfold readError
        split <;> rfl
      · split at h <;> cases h

theorem does_readReply {read : Json → Option α} {reply : Http.Reply} {es : List Event}
    {r : Option (Except Halt (α × Http.RateLimit))} :
    (readReply read reply).Does es r ↔
      (es = [] ∧ r = none) ∨ ∃ now, es = [⟨.now, now⟩] ∧ r = some (decode read now reply) := by
  have hrest : ∀ (now : Instant) (ys : List Event),
      Call.Does (match Http.RateLimit.ofReply? now reply.status reply.headers with
      | none => throw .beyondCalendar
      | some rateLimit =>
        match reply.body with
        | none => Call.fail (.transfer .cutShort)
        | some bytes =>
          if !reply.status.isSuccess then Call.fail (.api (readError reply.status bytes rateLimit))
          else
            match (readBody bytes).bind read with
            | some a => pure (a, rateLimit)
            | none => Call.fail .unreadableReply : Call (α × Http.RateLimit)) ys r ↔
      ys = [] ∧ r = some (decode read now reply) := by
    intro now ys
    unfold decode
    split
    · exact Call.does_throw
    · split
      · exact Call.does_fail
      · split
        · exact Call.does_fail
        · split
          · exact Call.does_pure
          · exact Call.does_fail
  rw [readReply, Call.does_perform_bind]
  refine or_congr_right (exists_congr fun now => ?_)
  constructor
  · rintro ⟨ys, rfl, hy⟩
    obtain ⟨rfl, hr⟩ := (hrest now ys).1 hy
    exact ⟨rfl, hr⟩
  · rintro ⟨rfl, hr⟩
    exact ⟨[], rfl, (hrest now []).2 ⟨rfl, hr⟩⟩

/-! ## The request -/

/-- The course of a request that is sent. -/
inductive Exchanged (read : Json → Option α) (request : Http.Request) :
    List Event → Option (Except Halt (α × Http.RateLimit)) → Prop
  | unanswered : Exchanged read request [⟨.send request, none⟩]
      (some (.error (.error (.transfer .noReply))))
  | answered (reply : Http.Reply) : Exchanged read request [⟨.send request, some reply⟩] none
  | read (reply : Http.Reply) (now : Instant) :
      Exchanged read request [⟨.send request, some reply⟩, ⟨.now, now⟩] (some (decode read now reply))

theorem does_send {read : Json → Option α} {request : Http.Request} {es : List Event}
    {r : Option (Except Halt (α × Http.RateLimit))} (h : (send read request).Does es r) :
    (es = [] ∧ ∀ a, r ≠ some (.ok a)) ∨ Exchanged read request es r := by
  unfold send at h
  split at h
  · obtain ⟨rfl, rfl⟩ := Call.does_fail.1 h
    exact .inl ⟨rfl, fun a ha => by cases ha⟩
  · rcases Call.does_perform_bind.1 h with ⟨rfl, rfl⟩ | ⟨reply, ys, rfl, hy⟩
    · exact .inl ⟨rfl, fun a ha => by cases ha⟩
    · right
      cases reply with
      | none =>
        obtain ⟨rfl, rfl⟩ := Call.does_fail.1 hy
        exact .unanswered
      | some reply =>
        rcases does_readReply.1 hy with ⟨rfl, rfl⟩ | ⟨now, rfl, rfl⟩
        · exact .answered reply
        · exact .read reply now

/-- The course of asking an issuer for a token. -/
inductive Acquired (issuer : TokenIssuer) : List Event → Option (Except Halt AccessToken) → Prop
  | unsendable : (fault? (tokenRequest issuer)).isSome = true →
      Acquired issuer []
        (some (.error (.error (.credential (.tokenUnsendable (tokenRequest issuer).url.text)))))
  | unsent : Acquired issuer [] none
  | unanswered : Acquired issuer [⟨.send (tokenRequest issuer), none⟩]
      (some (.error (.error (.credential (.tokenUnanswered (tokenRequest issuer).url.text)))))
  | refused {reply : Http.Reply} : reply.status.isSuccess = false →
      Acquired issuer [⟨.send (tokenRequest issuer), some reply⟩]
        (some (.error (.error (.credential (.tokenRefused reply.status
          (String.ofList (Utf8.decodeLossy (reply.body.getD []))))))))
  | unreadable {reply : Http.Reply} : reply.status.isSuccess = true →
      (reply.body.bind Json.ofBytes).bind readToken = none →
      Acquired issuer [⟨.send (tokenRequest issuer), some reply⟩]
        (some (.error (.error (.credential .tokenUnreadable))))
  | unlimited {reply : Http.Reply} {text : String} : reply.status.isSuccess = true →
      (reply.body.bind Json.ofBytes).bind readToken = some (text, none) →
      Acquired issuer [⟨.send (tokenRequest issuer), some reply⟩] (some (.ok ⟨text, none⟩))
  | untimed {reply : Http.Reply} : Acquired issuer [⟨.send (tokenRequest issuer), some reply⟩] none
  | limited {reply : Http.Reply} {text : String} {lifetime : Int64} {now expiresAt : Instant} :
      reply.status.isSuccess = true →
      (reply.body.bind Json.ofBytes).bind readToken = some (text, some lifetime) →
      (Instant.span? lifetime.toInt).bind now.later? = some expiresAt →
      Acquired issuer [⟨.send (tokenRequest issuer), some reply⟩, ⟨.now, now⟩] (some (.ok ⟨text, some expiresAt⟩))
  | beyond {reply : Http.Reply} {text : String} {lifetime : Int64} {now : Instant} :
      reply.status.isSuccess = true →
      (reply.body.bind Json.ofBytes).bind readToken = some (text, some lifetime) →
      (Instant.span? lifetime.toInt).bind now.later? = none →
      Acquired issuer [⟨.send (tokenRequest issuer), some reply⟩, ⟨.now, now⟩] (some (.error .beyondCalendar))

theorem does_acquireToken {issuer : TokenIssuer} {es : List Event} {r : Option (Except Halt AccessToken)}
    (h : (acquireToken issuer).Does es r) : Acquired issuer es r := by
  unfold acquireToken at h
  dsimp only at h
  split_ifs at h with hfault
  · obtain ⟨rfl, rfl⟩ := Call.does_fail.1 h
    exact .unsendable hfault
  rcases Call.does_perform_bind.1 h with ⟨rfl, rfl⟩ | ⟨answer, ys, rfl, hys⟩
  · exact .unsent
  cases answer with
  | none =>
    obtain ⟨rfl, rfl⟩ := Call.does_fail.1 hys
    exact .unanswered
  | some reply =>
    dsimp only at hys
    split_ifs at hys with hstatus
    · obtain ⟨rfl, rfl⟩ := Call.does_fail.1 hys
      exact .refused (by simpa using hstatus)
    have hsuccess : reply.status.isSuccess = true := by simpa using hstatus
    split at hys
    · obtain ⟨rfl, rfl⟩ := Call.does_fail.1 hys
      exact .unreadable hsuccess ‹_›
    rename_i text lifetime hread
    cases lifetime with
    | none =>
      obtain ⟨rfl, rfl⟩ := Call.does_pure.1 hys
      exact .unlimited hsuccess hread
    | some lifetime =>
      rcases Call.does_perform_bind.1 hys with ⟨rfl, rfl⟩ | ⟨now, zs, rfl, hzs⟩
      · exact .untimed
      cases hend : (Instant.span? lifetime.toInt).bind now.later? with
      | none =>
        rw [hend] at hzs
        obtain ⟨rfl, rfl⟩ := Call.does_throw.1 hzs
        exact .beyond hsuccess hread hend
      | some expiresAt =>
        rw [hend] at hzs
        obtain ⟨rfl, rfl⟩ := Call.does_pure.1 hzs
        exact .limited hsuccess hread hend

/-- Asking an issuer for a token sends the request for one, if anything. -/
theorem always_acquireToken (issuer : TokenIssuer) :
    (acquireToken issuer).Always (Event.GetsToken issuer) := by
  intro es r h
  cases does_acquireToken h with
  | unsendable | unsent => simp
  | unanswered | refused | unreadable | unlimited | untimed | limited | beyond => simp [Event.GetsToken]

theorem always_renewToken (issuer : TokenIssuer) : (renewToken issuer).Always (Event.GetsToken issuer) := by
  refine Call.always_bind (always_acquireToken issuer) fun _ => ?_
  refine Call.always_bind (Call.always_perform fun _ => trivial) fun _ => ?_
  exact Call.always_pure

theorem always_token (issuer : TokenIssuer) : (token issuer).Always (Event.GetsToken issuer) := by
  refine Call.always_bind (Call.always_perform fun _ => trivial) fun held => ?_
  cases held with
  | none => exact always_renewToken issuer
  | some held =>
    refine Call.always_bind (Call.always_perform fun _ => trivial) fun now => ?_
    split
    · exact always_renewToken issuer
    · exact Call.always_pure

/-- Looking up a credential may get a token and does nothing else. -/
theorem always_authorizes (credentials : Credentials) (scope : Scope) :
    (credential credentials scope).Always Event.Authorizes := by
  cases credentials with
  | anonymous => exact Call.always_pure
  | basic => exact Call.always_pure
  | issued issuer =>
    exact Call.always_bind ((always_token issuer).imp fun _ h => h.authorizes) fun _ => Call.always_pure
  | workspaceTokens tokens =>
    cases scope with
    | account => exact Call.always_fail
    | workspace name =>
      simp only [credential]
      split
      · exact Call.always_fail
      · exact Call.always_pure

/-- Looking up a credential only prepares. -/
theorem always_credential (credentials : Credentials) (scope : Scope) :
    (credential credentials scope).Always Event.Prepares :=
  (always_authorizes credentials scope).imp fun _ => Event.Authorizes.prepares

/-- A URL is unescaped and read anew, and parameters replace its query. -/
theorem prepareUrl_iff {url prepared : Url} {query : Query} :
    prepareUrl url query = .ok prepared ↔
      ∃ cs read, Utf8.decode (Percent.unescape (Utf8.encode url.chars)) = .ok cs ∧ Url.ofChars cs = .ok read ∧
        prepared = if query.isEmpty then read else read.setPairs (Form.encode query.pairs) := by
  unfold prepareUrl
  constructor
  · intro h
    split at h
    · cases h
    · rename_i cs hcs
      split at h
      · cases h
      · rename_i read hread
        cases h
        exact ⟨cs, read, hcs, hread, rfl⟩
  · rintro ⟨cs, read, hcs, hread, rfl⟩
    rw [hcs]
    dsimp only
    rw [hread]

/-- The request of an exchange: its method, its body and the URL it was prepared from. -/
structure Asks (method : Http.Method) (url : Url) (body : Option Json) (terms : List Query.Term)
    (request : Http.Request) : Prop where
  method : request.method = method
  body : request.body = bodyOf body
  url : ∃ prepared, prepareUrl url (Query.ofTerms terms) = .ok prepared ∧
    request.url = (takeUser prepared).1

theorem takeUser_query (url : Url) : (takeUser url).1.query = url.query := by
  unfold takeUser
  split
  · rfl
  · split
    · rfl
    · dsimp only
      split_ifs <;> rfl

theorem takeUser_path (url : Url) : (takeUser url).1.path = url.path := by
  unfold takeUser
  split
  · rfl
  · split
    · rfl
    · dsimp only
      split_ifs <;> rfl

/-- The parameters of an exchange arrive in their order as they were given. -/
theorem Asks.parameters {method : Http.Method} {url : Url} {body : Option Json}
    {terms : List Query.Term} {request : Http.Request} (h : Asks method url body terms request)
    (hne : (Query.ofTerms terms).isEmpty = false) :
    request.parameters = (Query.ofTerms terms).pairs := by
  obtain ⟨prepared, hp, hu⟩ := h.url
  have hq : prepared.query = some (Form.encode (Query.ofTerms terms).pairs) := by
    obtain ⟨_, _, -, -, rfl⟩ := prepareUrl_iff.1 hp
    rw [hne]
    rfl
  rw [Http.Request.parameters, hu, takeUser_query, hq]
  exact Form.decode_encode _

/-- An exchange that has not got to its request has no value; otherwise it sends that one request
behind what gets its credential. -/
theorem does_exchange_behind {credentials : Credentials} {read : Json → Option α} {method : Http.Method}
    {scope : Scope} {url : Url} {body : Option Json} {terms : List Query.Term} {P : Event → Prop}
    (hcredential : (credential credentials scope).Always P) {es : List Event}
    {r : Option (Except Halt (α × Http.RateLimit))}
    (h : (exchange credentials read method scope url body terms).Does es r) :
    ((∀ ev ∈ es, P ev) ∧ ∀ a, r ≠ some (.ok a)) ∨
    ∃ request xs ys, es = xs ++ ys ∧ (∀ ev ∈ xs, P ev) ∧ Asks method url body terms request ∧
      Exchanged read request ys r := by
  rcases Call.does_ofExcept_bind.1 h with ⟨_, -, rfl, rfl⟩ | ⟨prepared, hp, hc⟩
  · exact .inl ⟨by simp, fun a ha => by cases ha⟩
  rcases Call.does_bind.1 hc with ⟨hx, rfl⟩ | ⟨_, hx, rfl⟩ | ⟨credential, xs, ys, rfl, hx, hy⟩
  · exact .inl ⟨hcredential _ _ hx, fun a ha => by cases ha⟩
  · exact .inl ⟨hcredential _ _ hx, fun a ha => by cases ha⟩
  have hprep := hcredential _ _ hx
  -- A request that cannot be sent leaves no event behind.
  rcases does_send hy with ⟨rfl, hr⟩ | hs
  · exact .inl ⟨by rwa [List.append_nil], hr⟩
  · exact .inr ⟨_, xs, ys, rfl, hprep, ⟨rfl, rfl, prepared, hp, rfl⟩, hs⟩

/-- What an exchange does before its request only prepares it. -/
theorem does_exchange {credentials : Credentials} {read : Json → Option α} {method : Http.Method}
    {scope : Scope} {url : Url} {body : Option Json} {terms : List Query.Term} {es : List Event}
    {r : Option (Except Halt (α × Http.RateLimit))}
    (h : (exchange credentials read method scope url body terms).Does es r) :
    ((∀ ev ∈ es, ev.Prepares) ∧ ∀ a, r ≠ some (.ok a)) ∨
    ∃ request xs ys, es = xs ++ ys ∧ (∀ ev ∈ xs, ev.Prepares) ∧ Asks method url body terms request ∧
      Exchanged read request ys r :=
  does_exchange_behind (always_credential _ _) h

theorem always_exchange {credentials : Credentials} {read : Json → Option α} {method : Http.Method}
    {scope : Scope} {url : Url} {body : Option Json} {terms : List Query.Term} :
    (exchange credentials read method scope url body terms).Always Event.Exchanges := by
  refine Call.always_bind Call.always_ofExcept fun _ => ?_
  refine Call.always_bind ((always_authorizes _ _).imp fun _ h => h.exchanges) fun _ => ?_
  intro es r h
  rcases does_send h with ⟨rfl, -⟩ | hs
  · simp
  · cases hs <;> simp [Event.Exchanges]

/-! ## Requests that can be sent -/

/-- Requests to that URL can be sent: it is read anew as `base`, where a request can go, and the
credential is at hand and can stand in a header. -/
structure Sendable (credentials : Credentials) (scope : Scope) (url base : Url)
    (credential : Option Http.Credential) : Prop where
  available : Transport.credential credentials scope = pure credential
  prepared : prepareUrl url Query.empty = .ok base
  destination : isDestination (takeUser base).1 = true
  headers : ((takeUser base).2.toList ++ credential.toList).all (·.isSendable) = true

/-- The request of an exchange at a URL that was prepared. -/
def requestAt (prepared : Url) (credential : Option Http.Credential) (method : Http.Method)
    (body : Option Json) : Http.Request :=
  sign (draft method prepared jsonType (if method.isWrite then some jsonType else none) (bodyOf body)) credential

/-- The request of an exchange with parameters. -/
def requestTo (base : Url) (credential : Option Http.Credential) (method : Http.Method)
    (body : Option Json) (terms : List Query.Term) : Http.Request :=
  sign (draft method (base.setPairs (Form.encode (Query.ofTerms terms).pairs)) jsonType
    (if method.isWrite then some jsonType else none) (bodyOf body)) credential

theorem takeUser_setPairs (url : Url) (encoded : List Char) :
    takeUser (url.setPairs encoded) = ((takeUser url).1.setPairs encoded, (takeUser url).2) := by
  obtain ⟨scheme, authority, marked, path, query, fragment⟩ := url
  cases authority with
  | none => rfl
  | some a =>
    simp only [takeUser, Url.setPairs]
    split
    · rfl
    · split_ifs <;> rfl

/-- Parameters are written into the URL as it is read anew. -/
theorem prepareUrl_pairs {url base : Url} (h : prepareUrl url Query.empty = .ok base) {query : Query}
    (hne : query.isEmpty = false) :
    prepareUrl url query = .ok (base.setPairs (Form.encode query.pairs)) := by
  obtain ⟨cs, read, hcs, hread, rfl⟩ := prepareUrl_iff.1 h
  refine prepareUrl_iff.2 ⟨cs, _, hcs, hread, ?_⟩
  rw [hne]
  rfl

theorem fault?_requestAt {prepared : Url} {credential : Option Http.Credential}
    (hdestination : isDestination (takeUser prepared).1 = true)
    (hheaders : ((takeUser prepared).2.toList ++ credential.toList).all (·.isSendable) = true)
    (method : Http.Method) (body : Option Json) :
    fault? (requestAt prepared credential method body) = none := by
  simp only [fault?, requestAt, draft, sign, hdestination, hheaders, Bool.not_true, Bool.false_eq_true, if_false]

theorem fault?_requestTo {base : Url} {credential : Option Http.Credential}
    (hdestination : isDestination (takeUser base).1 = true)
    (hheaders : ((takeUser base).2.toList ++ credential.toList).all (·.isSendable) = true)
    (method : Http.Method) (body : Option Json) (terms : List Query.Term) :
    fault? (requestTo base credential method body terms) = none := by
  refine fault?_requestAt ?_ ?_ method body
  · rw [takeUser_setPairs]
    exact hdestination
  · rw [takeUser_setPairs]
    exact hheaders

theorem Sendable.prepareUrl {credentials : Credentials} {scope : Scope} {url base : Url}
    {credential : Option Http.Credential} (h : Sendable credentials scope url base credential)
    {query : Query} (hne : query.isEmpty = false) :
    Transport.prepareUrl url query = .ok (base.setPairs (Form.encode query.pairs)) :=
  prepareUrl_pairs h.prepared hne

theorem Sendable.fault? {credentials : Credentials} {scope : Scope} {url base : Url}
    {credential : Option Http.Credential} (h : Sendable credentials scope url base credential)
    (method : Http.Method) (body : Option Json) (terms : List Query.Term) :
    Transport.fault? (requestTo base credential method body terms) = none :=
  fault?_requestTo h.destination h.headers method body terms

/-- An exchange whose request can be sent sends it and reads the reply. -/
theorem exchange_does_at {credentials : Credentials} {read : Json → Option α} {method : Http.Method}
    {scope : Scope} {url prepared : Url} {body : Option Json} {terms : List Query.Term}
    {credential : Option Http.Credential} (hcredential : Transport.credential credentials scope = pure credential)
    (hprepared : Transport.prepareUrl url (Query.ofTerms terms) = .ok prepared)
    (hfault : Transport.fault? (requestAt prepared credential method body) = none) (reply : Http.Reply)
    (now : Instant) :
    (exchange credentials read method scope url body terms).Does
      [⟨.send (requestAt prepared credential method body), some reply⟩, ⟨.now, now⟩]
      (some (decode read now reply)) := by
  refine Call.does_ofExcept_bind.2 (.inr ⟨_, hprepared, ?_⟩)
  refine Call.does_bind.2 (.inr (.inr ⟨credential, [], _, rfl, ?_, ?_⟩))
  · rw [hcredential]
    exact Call.does_pure.2 ⟨rfl, rfl⟩
  · simp only [send, requestAt] at hfault ⊢
    rw [hfault]
    exact Call.does_perform_bind.2 (.inr ⟨some reply, [⟨.now, now⟩], rfl,
      does_readReply.2 (.inr ⟨now, rfl, rfl⟩)⟩)

/-- An exchange whose requests can be sent sends its request and reads the reply. -/
theorem exchange_does {credentials : Credentials} {read : Json → Option α} {method : Http.Method}
    {scope : Scope} {url base : Url} {body : Option Json} {terms : List Query.Term}
    {credential : Option Http.Credential} (h : Sendable credentials scope url base credential)
    (hne : (Query.ofTerms terms).isEmpty = false) (reply : Http.Reply) (now : Instant) :
    (exchange credentials read method scope url body terms).Does
      [⟨.send (requestTo base credential method body terms), some reply⟩, ⟨.now, now⟩]
      (some (decode read now reply)) :=
  exchange_does_at h.available (h.prepareUrl hne) (h.fault? method body terms) reply now

/-- Without parameters the request goes to the URL as it was read anew. -/
theorem exchange_does_bare {credentials : Credentials} {read : Json → Option α} {method : Http.Method}
    {scope : Scope} {url base : Url} {body : Option Json} {credential : Option Http.Credential}
    (h : Sendable credentials scope url base credential) (reply : Http.Reply) (now : Instant) :
    (exchange credentials read method scope url body []).Does
      [⟨.send (requestAt base credential method body), some reply⟩, ⟨.now, now⟩]
      (some (decode read now reply)) :=
  exchange_does_at h.available h.prepared (fault?_requestAt h.destination h.headers method body) reply now

end Transport

/-- An exchange whose request can be sent has the value that the text of its reply is read as. -/
theorem Client.exchange_does_read {α : Type} {c : Client} {read : Json → Option α} {method : Http.Method}
    {scope : Scope} {found : Except Error Url} {url base : Url} {body : Option Json}
    {credential : Option Http.Credential} {text : String} {a : α} (hfound : found = .ok url)
    (h : Transport.Sendable c.credentials scope url base credential)
    (hread : (Transport.readBody (Utf8.encode text.toList)).bind read = some a) (now : Instant) :
    (c.exchange read method scope found body []).Does
      [⟨.send (Transport.requestAt base credential method body), some (Transport.replyOf text)⟩, ⟨.now, now⟩]
      (some (.ok (a, ⟨.unknown, none, none, none⟩))) := by
  rw [← Transport.decode_replyOf hread now]
  exact Call.does_ofExcept_bind.2 (.inr ⟨url, hfound, Transport.exchange_does_bare h _ _⟩)

end AccessSync
