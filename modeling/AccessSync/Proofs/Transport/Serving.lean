import AccessSync.Proofs.Program.Running
import AccessSync.Proofs.Transport.Exchange
/-!
# Exchanges with a peer that serves

Of a peer only a part matters, `stored` says which. `Signs` and `Reachable` are what it takes to get
a request out, and `Answers` says of which sort the replies to requests of one sort are. Main
statements: `exchange_ends` says what an exchange comes to that gets its request out, and
`Answers.exchange` that it has a value of that sort if its request is answered.
-/

namespace AccessSync

namespace World

variable {α β σ : Type} {w : World σ} {stored : σ → β} {st st₁ st' : Memory × σ}

/-- What a peer has is the same, and so is all that the client remembers but tokens and versions. -/
structure Keeps (stored : σ → β) (st st' : Memory × σ) : Prop where
  stored : stored st'.2 = stored st.2
  groups : st'.1.groups = st.1.groups
  availability : st'.1.availability = st.1.availability

theorem Keeps.refl (st : Memory × σ) : Keeps stored st st := ⟨rfl, rfl, rfl⟩

theorem Keeps.trans (h : Keeps stored st st₁) (h' : Keeps stored st₁ st') : Keeps stored st st' :=
  ⟨h'.stored.trans h.stored, h'.groups.trans h.groups, h'.availability.trans h.availability⟩

/-- Requests in that scope can be signed at any time, and whatever the issuer of tokens does for it,
the peer keeps what it has. -/
structure Signs (w : World σ) (credentials : Credentials) (scope : Scope) (stored : σ → β) : Prop where
  credential : ∀ st, ∃ credential st', w.Ends (Transport.credential credentials scope) st (.ok credential) st' ∧
    credential.toList.all (·.isSendable) = true
  posts : ∀ request s, request.method = .post → stored (w.answer request s).2 = stored s

theorem Signs.keeps {credentials : Credentials} {scope : Scope} (h : w.Signs credentials scope stored)
    {r : Except Halt (Option Http.Credential)}
    (hends : w.Ends (Transport.credential credentials scope) st r st') : Keeps stored st st' := by
  refine Ends.keeps Keeps.refl Keeps.trans ?_ (Transport.always_authorizes credentials scope) hends
  intro e st hauthorizes
  cases e with
  | send request => exact ⟨h.posts request st.2 hauthorizes, rfl, rfl⟩
  | now | readToken | writeToken => exact ⟨rfl, rfl, rfl⟩
  | _ => exact hauthorizes.elim

end World

namespace Transport

variable {α β σ : Type} {w : World σ} {stored : σ → β} {read : Json → Option α}

/-- The reply holds that value, whenever it is read. -/
def Tells (read : Json → Option α) (reply : Http.Reply) (a : α) : Prop :=
  ∀ now, ∃ rateLimit, decode read now reply = .ok (a, rateLimit)

/-- Requests can go to that URL, which is read anew as `base`. -/
structure Reachable (url base : Url) : Prop where
  prepared : prepareUrl url Query.empty = .ok base
  destination : isDestination (takeUser base).1 = true
  own : (takeUser base).2.toList.all (·.isSendable) = true

/-- Requests to that URL arrive at its path. -/
theorem Asks.path {method : Http.Method} {url base : Url} {body : Option Json} {terms : List Query.Term}
    {request : Http.Request} (h : Asks method url body terms request) (hreach : Reachable url base)
    (hne : (Query.ofTerms terms).isEmpty = false) : request.url.path = base.path := by
  obtain ⟨prepared, hprepared, hurl⟩ := h.url
  rw [prepareUrl_pairs hreach.prepared hne] at hprepared
  cases hprepared
  rw [hurl, takeUser_path]
  rfl

/-- What an answer of the world comes to. -/
def outcome (read : Json → Option α) (w : World σ) : Option Http.Reply × σ → Except Halt (α × Http.RateLimit)
  | (none, _) => .error (.error (.transfer .noReply))
  | (some reply, s) => decode read (w.now s) reply

theorem ends_readReply (read : Json → Option α) (reply : Http.Reply) (st : Memory × σ) :
    w.Ends (readReply read reply) st (decode read (w.now st.2) reply) st := by
  refine World.ends_perform_bind.2 ?_
  unfold decode
  dsimp only [World.act]
  generalize Http.RateLimit.ofReply? (w.now st.2) reply.status reply.headers = quota
  cases quota with
  | none => rfl
  | some rateLimit =>
    generalize reply.body = body
    cases body with
    | none => rfl
    | some bytes =>
      dsimp only
      generalize (readBody bytes).bind read = value
      cases reply.status.isSuccess with
      | false => rfl
      | true => cases value <;> rfl

theorem ends_send {request : Http.Request} (h : fault? request = none) (st : Memory × σ) :
    w.Ends (send read request) st (outcome read w (w.answer request st.2))
      (st.1, (w.answer request st.2).2) := by
  unfold send
  rw [h]
  refine World.ends_perform_bind.2 ?_
  have hact : w.act (.send request) st = ((w.answer request st.2).1, st.1, (w.answer request st.2).2) := rfl
  rw [hact]
  generalize w.answer request st.2 = answer
  obtain ⟨reply, s⟩ := answer
  cases reply with
  | none => exact World.ends_fail.2 ⟨rfl, rfl⟩
  | some reply => exact ends_readReply read reply (st.1, s)

section Exchange
variable {credentials : Credentials} {scope : Scope} {url base : Url} {method : Http.Method}
  {body : Option Json} {terms : List Query.Term}

/-- An exchange gets its credential and sends its request; the reply decides. -/
theorem exchange_ends (hsigns : w.Signs credentials scope stored) (hreach : Reachable url base)
    (hne : (Query.ofTerms terms).isEmpty = false) (st : Memory × σ) :
    ∃ request st₁, Asks method url body terms request ∧ World.Keeps stored st st₁ ∧
      w.Ends (exchange credentials read method scope url body terms) st
        (outcome read w (w.answer request st₁.2)) (st₁.1, (w.answer request st₁.2).2) := by
  obtain ⟨credential, st₁, hcredential, hsendable⟩ := hsigns.credential st
  have hprepared := prepareUrl_pairs hreach.prepared hne
  have hfault : fault? (requestTo base credential method body terms) = none := by
    refine fault?_requestTo hreach.destination ?_ method body terms
    rw [List.all_append, hreach.own, hsendable]
    rfl
  refine ⟨requestTo base credential method body terms, st₁, ⟨rfl, rfl, _, hprepared, rfl⟩,
    hsigns.keeps hcredential, ?_⟩
  have hurl : w.Ends (Call.ofExcept id (prepareUrl url (Query.ofTerms terms))) st
      (.ok (base.setPairs (Form.encode (Query.ofTerms terms).pairs))) st :=
    World.ends_ofExcept_ok.2 ⟨hprepared, rfl⟩
  exact hurl.bind_iff.2 (hcredential.bind_iff.2 (ends_send hfault st₁))

/-- An exchange that has a value got a reply to its request. -/
theorem exchange_of_ok (hsigns : w.Signs credentials scope stored) (hreach : Reachable url base)
    (hne : (Query.ofTerms terms).isEmpty = false) {st st' : Memory × σ} {x : α × Http.RateLimit}
    (h : w.Ends (exchange credentials read method scope url body terms) st (.ok x) st') :
    ∃ request st₁ reply, Asks method url body terms request ∧ World.Keeps stored st st₁ ∧
      w.answer request st₁.2 = (some reply, st'.2) ∧ st'.1 = st₁.1 ∧ reply.status.isSuccess = true := by
  obtain ⟨request, st₁, hasks, hkeeps, hends⟩ :=
    exchange_ends hsigns hreach hne st
  have hsame := h.symm.trans hends
  cases hanswer : w.answer request st₁.2 with
  | mk reply s =>
    rw [hanswer] at hsame
    obtain ⟨hdecode, rfl⟩ := Prod.mk.inj hsame
    cases reply with
    | none => cases hdecode
    | some reply => exact ⟨request, st₁, reply, hasks, hkeeps, hanswer, rfl, success_of_decode hdecode.symm⟩

/-- Requests of that sort are answered with values of that sort, which may depend on what the peer
has, and change nothing there. -/
def Answers (w : World σ) (stored : σ → β) (Request : Http.Request → Prop) (read : Json → Option α)
    (Told : β → α → Prop) : Prop :=
  ∀ request s, Request request → ∃ reply s' a, w.answer request s = (some reply, s') ∧
    stored s' = stored s ∧ Tells read reply a ∧ Told (stored s) a

theorem Answers.exchange {Told : β → α → Prop}
    (h : Answers w stored (Asks method url body terms) read Told)
    (hsigns : w.Signs credentials scope stored) (hreach : Reachable url base)
    (hne : (Query.ofTerms terms).isEmpty = false) (st : Memory × σ) :
    ∃ a rateLimit st', w.Ends (exchange credentials read method scope url body terms) st
      (.ok (a, rateLimit)) st' ∧ World.Keeps stored st st' ∧ Told (stored st.2) a := by
  obtain ⟨request, st₁, hasks, hkeeps, hends⟩ := exchange_ends hsigns hreach hne st
  obtain ⟨reply, s', a, hanswer, hstored, htells, htold⟩ := h request st₁.2 hasks
  obtain ⟨rateLimit, hdecode⟩ := htells (w.now s')
  rw [hanswer] at hends
  refine ⟨a, rateLimit, (st₁.1, s'), ?_, hkeeps.trans ⟨hstored, rfl, rfl⟩, ?_⟩
  · rw [← hdecode]
    exact hends
  · rw [← hkeeps.stored]
    exact htold

end Exchange

end Transport

namespace Client

variable {α σ : Type} {w : World σ} {c : Client}

/-- At a known URL a client exchanges messages with its credentials. -/
theorem exchange_ok (c : Client) (read : Json → Option α) (method : Http.Method) (scope : Scope)
    {url : Except Error Url} {u : Url} (h : url = .ok u) (body : Option Json) (terms : List Query.Term) :
    c.exchange read method scope url body terms =
      Transport.exchange c.credentials read method scope u body terms := by
  subst h
  rfl

end Client

end AccessSync
