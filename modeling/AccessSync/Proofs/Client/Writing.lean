import AccessSync.Proofs.Client.Makeup
import AccessSync.Proofs.Client.Replacement
import AccessSync.Proofs.Transport.Failure
/-!
# Calls that write once

A call that `WritesOnce` reads, then sends one PUT at most and nothing after that; its result is what
becomes of the PUT. Without one it fails, or finds that nothing is to be done. Reading first and writing
then keeps this (`WritesOnce.behind`), and so does looking at the reply (`writesOnce_bind`).
-/

namespace AccessSync

/-- If the event sends a request, it is by such a method or asks for a token. -/
def Event.Sends (credentials : Credentials) (M : Http.Method → Prop) (ev : Event) : Prop :=
  ∀ request, ev.request? = some request → M request.method ∨ credentials.AsksToken request

theorem Event.sends_of_silent {credentials : Credentials} {M : Http.Method → Prop} {ev : Event}
    (h : ev.request? = none) : ev.Sends credentials M := by
  intro request hrequest
  rw [h] at hrequest
  cases hrequest

/-- If the event sends a request, it is a GET or asks for a token. -/
abbrev Event.ReadsOnly (credentials : Credentials) (ev : Event) : Prop := ev.Sends credentials (· = .get)

theorem Event.GetsToken.sends {issuer : TokenIssuer} {M : Http.Method → Prop} {ev : Event}
    (h : ev.GetsToken issuer) : ev.Sends (.issued issuer) M := by
  obtain ⟨e, answer⟩ := ev
  cases e with
  | send request =>
    rintro _ ⟨⟩
    exact .inr ⟨issuer, rfl, h⟩
  | now | readToken | writeToken => exact sends_of_silent rfl
  | _ => exact h.elim

/-- Looking up a credential asks for a token at most. -/
theorem Transport.credential_sends (credentials : Credentials) (scope : Scope) (M : Http.Method → Prop) :
    (credential credentials scope).Always (Event.Sends credentials M) := by
  cases credentials with
  | anonymous => exact Call.always_pure
  | basic => exact Call.always_pure
  | issued issuer =>
    exact Call.always_bind ((always_token issuer).imp fun _ h => h.sends) fun _ => Call.always_pure
  | workspaceTokens tokens =>
    cases scope with
    | account => exact Call.always_fail
    | workspace name =>
      simp only [credential]
      split
      · exact Call.always_fail
      · exact Call.always_pure

/-- A call that is made of exchanges by such methods sends nothing else but requests for tokens. -/
theorem Client.Consists.sends {α : Type} {c : Client} {M : Http.Method → Prop} {L : ResourceId → Prop}
    {x : Call α} (h : c.Consists M L x) : x.Always (Event.Sends c.credentials M) := by
  induction h with
  | pure => exact Call.always_pure
  | fail => exact Call.always_fail
  | @perform e he =>
    refine Call.always_perform fun _ => ?_
    cases e with
    | send => exact he.elim
    | _ => exact Event.sends_of_silent rfl
  | @exchange _ read method scope url body terms hmethod _ =>
    intro es r hdoes ev hev
    rcases Transport.sent_of_exchange (Transport.credential_sends _ scope M) (fun _ => Event.sends_of_silent) hdoes
      hev with hsends | ⟨request, answer, rfl, hasks⟩
    · exact hsends
    · rintro _ ⟨⟩
      exact .inl (hasks.method ▸ hmethod)
  | bind _ _ ihx ihf => exact Call.always_bind ihx ihf

/-! ## One write at most -/

/-- The results are both values, or the same way to end without one. -/
def Agree {α β : Type} (r : Except Halt α) (r' : Except Halt β) : Prop :=
  (r.map fun _ => ()) = r'.map fun _ => ()

/-- The events of a call that reads and then writes at most once. If it has a value without a write, the
events are `Settled`; otherwise its result agrees with that of the write, whose reply is read by `read`. -/
inductive WritesOnce {α : Type} (credentials : Credentials) (read : Json → Option Unit)
    (Settled : List Event → Prop) : List Event → Option (Except Halt α) → Prop
  | unwritten {es : List Event} {r : Option (Except Halt α)} :
      (∀ ev ∈ es, ev.ReadsOnly credentials) → (∀ a, r = some (.ok a) → Settled es) →
      WritesOnce credentials read Settled es r
  | written {request : Http.Request} {before sent after : List Event}
      {outcome : Option (Except Halt (Unit × Http.RateLimit))} {r : Option (Except Halt α)} :
      (∀ ev ∈ before, ev.ReadsOnly credentials) → request.method = .put →
      Transport.Exchanged read request sent outcome → (∀ ev ∈ after, ev.request? = none) →
      (∀ result, r = some result → ∃ told, outcome = some told ∧ Agree told result) →
      WritesOnce credentials read Settled (before ++ sent ++ after) r

namespace WritesOnce

variable {α β : Type} {credentials : Credentials} {read : Json → Option Unit}
  {S S' : List Event → Prop} {xs es : List Event}
  {r : Option (Except Halt α)}

/-- A call that has no value and has not written. -/
theorem of_reads (hreads : ∀ ev ∈ es, ev.ReadsOnly credentials) (hno : ∀ a, r ≠ some (.ok a)) :
    WritesOnce credentials read S es r := .unwritten hreads fun a ha => absurd ha (hno a)

/-- What settles the one may settle the other. -/
theorem imp (h : WritesOnce credentials read S es r) (himp : S es → S' es) :
    WritesOnce credentials read S' es r := by
  cases h with
  | unwritten hreads hvalue => exact .unwritten hreads fun a ha => himp (hvalue a ha)
  | written hreads hput hsent hafter hresult => exact .written hreads hput hsent hafter hresult

/-- Reading before it changes nothing. -/
theorem behind (hxs : ∀ ev ∈ xs, ev.ReadsOnly credentials) (h : WritesOnce credentials read S' es r)
    (hsettled : S' es → S (xs ++ es)) : WritesOnce credentials read S (xs ++ es) r := by
  have happend : ∀ ys : List Event, (∀ ev ∈ ys, ev.ReadsOnly credentials) →
      ∀ ev ∈ xs ++ ys, ev.ReadsOnly credentials := by
    intro ys hys ev hev
    rcases List.mem_append.1 hev with hev | hev
    · exact hxs ev hev
    · exact hys ev hev
  cases h with
  | unwritten hreads hvalue => exact .unwritten (happend _ hreads) fun a ha => hsettled (hvalue a ha)
  | @written _ before sent after _ _ hreads hput hsent hafter hresult =>
    rw [← List.append_assoc, ← List.append_assoc]
    exact .written (happend _ hreads) hput hsent hafter hresult

/-- The same events with a result that agrees. -/
theorem agree {r' : Option (Except Halt β)} (h : WritesOnce credentials read S es r)
    (hr : ∀ result', r' = some result' → ∃ result, r = some result ∧ Agree result result') :
    WritesOnce credentials read S es r' := by
  cases h with
  | unwritten hreads hvalue =>
    refine .unwritten hreads fun b hb => ?_
    obtain ⟨result, hresult, hagree⟩ := hr _ hb
    cases result with
    | error => cases hagree
    | ok a => exact hvalue a hresult
  | written hreads hput hsent hafter hresult =>
    refine .written hreads hput hsent hafter fun result' hresult' => ?_
    obtain ⟨result, hsame, hagree⟩ := hr result' hresult'
    obtain ⟨told, htold, hagree'⟩ := hresult result hsame
    exact ⟨told, htold, hagree'.trans hagree⟩

theorem map (g : α → β) (h : WritesOnce credentials read S es r) :
    WritesOnce credentials read S es (r.map (·.map g)) := by
  refine h.agree fun result' hresult' => ?_
  cases r with
  | none => cases hresult'
  | some result =>
    cases hresult'
    refine ⟨result, rfl, ?_⟩
    cases result <;> rfl

end WritesOnce

/-- If the first part writes and what follows it only looks at the reply, then the whole writes. -/
theorem writesOnce_bind {α β : Type} {credentials : Credentials} {read : Json → Option Unit} {x : Call α}
    {f : α → Call β}
    (hx : ∀ es r, x.Does es r → WritesOnce credentials read (fun _ => False) es r)
    (hsilent : ∀ a, (f a).Always (·.request? = none))
    (hvalue : ∀ a ys h, ¬(f a).Does ys (some (.error h))) {es : List Event} {r : Option (Except Halt β)}
    (h : (x >>= f).Does es r) : WritesOnce credentials read (fun _ => False) es r := by
  rcases Call.does_bind.1 h with ⟨hxs, rfl⟩ | ⟨e, hxs, rfl⟩ | ⟨a, xs, ys, rfl, hxs, hys⟩
  · exact (hx _ _ hxs).agree fun _ hnone => by cases hnone
  · refine (hx _ _ hxs).agree fun result hresult => ?_
    cases hresult
    exact ⟨_, rfl, rfl⟩
  · generalize hr : some (Except.ok a) = r' at hxs
    cases hx _ _ hxs with
    | unwritten _ hno => exact (hno a hr.symm).elim
    | @written _ before sent after _ _ hreads hput hsent hafter hresult =>
      rw [List.append_assoc]
      refine .written hreads hput hsent ?_ fun result hresult' => ?_
      · intro ev hev
        rcases List.mem_append.1 hev with hev | hev
        · exact hafter ev hev
        · exact hsilent a _ _ hys ev hev
      · obtain ⟨told, htold, hagree⟩ := hresult _ hr.symm
        refine ⟨told, htold, ?_⟩
        subst hresult'
        cases result with
        | error e => exact absurd hys (hvalue a ys e)
        | ok b => exact hagree

section Parts
variable {α β : Type} {credentials : Credentials} {read : Json → Option Unit} {S : List Event → Prop}
  {es : List Event}

/-- A part that is only read stands before the rest. -/
theorem writesOnce_after {x : Call α} {f : α → Call β} {r : Option (Except Halt β)}
    (hx : x.Always (Event.ReadsOnly credentials))
    (hf : ∀ a xs ys, x.Does xs (some (.ok a)) → (f a).Does ys r →
      WritesOnce credentials read (fun zs => S (xs ++ zs)) ys r)
    (h : (x >>= f).Does es r) : WritesOnce credentials read S es r := by
  rcases Call.does_bind.1 h with ⟨hxs, rfl⟩ | ⟨e, hxs, rfl⟩ | ⟨a, xs, ys, rfl, hxs, hys⟩
  · exact .of_reads (hx _ _ hxs) fun a ha => by cases ha
  · exact .of_reads (hx _ _ hxs) fun a ha => by cases ha
  · exact .behind (hx _ _ hxs) (hf a xs ys hxs hys) id

/-- A value that may be a fault is looked at before the rest. -/
theorem writesOnce_ofExcept {ε : Type} {error : ε → Error} {x : Except ε α} {f : α → Call β}
    {r : Option (Except Halt β)}
    (hf : ∀ a, x = .ok a → (f a).Does es r → WritesOnce credentials read S es r)
    (h : (Call.ofExcept error x >>= f).Does es r) : WritesOnce credentials read S es r := by
  rcases Call.does_ofExcept_bind.1 h with ⟨_, -, rfl, rfl⟩ | ⟨a, ha, hy⟩
  · exact .of_reads (by simp) fun b hb => by cases hb
  · exact hf a ha hy

/-- Something is fetched, edited and replaced if it changed. If it did not, it was as it should be. -/
theorem writesOnce_edit {fetch : Call (α × Http.RateLimit)} {next : α × Http.RateLimit → Call β}
    (edit : α → Bool × α) (replace : α → Call Http.RateLimit) (changed unchanged : β)
    (hfetch : fetch.Always (Event.ReadsOnly credentials))
    (hreplace : ∀ a es r, (replace a).Does es r → WritesOnce credentials read (fun _ => False) es r)
    (hnext : ∀ a rateLimit, next (a, rateLimit) =
      if (edit a).1 then replace (edit a).2 >>= fun _ => pure changed else pure unchanged)
    {r : Option (Except Halt β)} (h : (fetch >>= next).Does es r) :
    WritesOnce credentials read
      (fun zs => ∃ a rateLimit, fetch.Does zs (some (.ok (a, rateLimit))) ∧ (edit a).1 = false) es r := by
  refine writesOnce_after hfetch ?_ h
  rintro ⟨a, rateLimit⟩ xs ys hxs hys
  rw [hnext] at hys
  split_ifs at hys with hchanged
  · obtain ⟨r', hwritten, rfl⟩ := Call.does_bind_pure.1 hys
    exact ((hreplace _ _ _ hwritten).map _).imp fun hno => hno.elim
  · obtain ⟨rfl, -⟩ := Call.does_pure.1 hys
    refine .unwritten (by simp) fun _ _ => ⟨a, rateLimit, ?_, by simpa using hchanged⟩
    rwa [List.append_nil]

end Parts

/-! ## Calls that write -/

namespace Transport

variable {α : Type} {read : Json → Option α}

/-- Reads a value for whether it can be read. -/
def readable (read : Json → Option α) (v : Json) : Option Unit := (read v).map fun _ => ()

theorem decode_readable (now : Instant) (reply : Http.Reply) :
    decode (readable read) now reply = (decode read now reply).map fun x => ((), x.2) := by
  have hbind : ∀ v : Option Json, v.bind (readable read) = (v.bind read).map fun _ => () := by
    intro v
    cases v <;> rfl
  unfold decode
  cases Http.RateLimit.ofReply? now reply.status reply.headers with
  | none => rfl
  | some rateLimit =>
    cases reply.body with
    | none => rfl
    | some bytes =>
      dsimp only
      rw [hbind]
      cases reply.status.isSuccess with
      | false => rfl
      | true => cases (readBody bytes).bind read <;> rfl

theorem Exchanged.readable {request : Http.Request} {es : List Event}
    {r : Option (Except Halt (α × Http.RateLimit))} (h : Exchanged read request es r) :
    Exchanged (Transport.readable read) request es (r.map (·.map fun x => ((), x.2))) := by
  cases h with
  | unanswered => exact .unanswered
  | answered reply => exact .answered reply
  | read reply now =>
    rw [Option.map_some, ← decode_readable]
    exact .read reply now

end Transport

namespace Client

variable {α : Type} {c : Client} {scope : Scope} {es : List Event}

/-- A PUT is what it sends, if anything, and its reply decides. -/
theorem exchange_writesOnce {read : Json → Option α} {url : Except Error Url} {body : Option Json}
    {terms : List Query.Term} {r : Option (Except Halt (α × Http.RateLimit))}
    (h : (c.exchange read .put scope url body terms).Does es r) :
    WritesOnce c.credentials (Transport.readable read) (fun _ => False) es r := by
  rcases does_exchange_behind (Transport.credential_sends _ scope (· = .get)) h with
    ⟨hreads, hno⟩ | ⟨_, request, xs, ys, -, rfl, hreads, hasks, hcourse⟩
  · exact .of_reads hreads hno
  · rw [← List.append_nil (xs ++ ys)]
    refine .written hreads hasks.method hcourse.readable (by simp) fun result hresult => ?_
    subst hresult
    refine ⟨_, rfl, ?_⟩
    cases result <;> rfl

theorem put_writesOnce {d : Directory α} {a : α} {r : Option (Except Halt Http.RateLimit)}
    (h : (c.put d scope a).Does es r) :
    WritesOnce c.credentials (Transport.readable Transport.ignore) (fun _ => False) es r := by
  obtain ⟨r', hx, rfl⟩ := (Call.does_bind_pure (g := fun x : Unit × Http.RateLimit => x.2)).1 h
  exact (exchange_writesOnce hx).map _

theorem putPrincipal_writesOnce {p : Principal} {r : Option (Except Halt Http.RateLimit)}
    (h : (c.putPrincipal scope p).Does es r) :
    WritesOnce c.credentials (Transport.readable Transport.ignore) (fun _ => False) es r := by
  cases p <;> exact put_writesOnce h

theorem putAssignment_writesOnce {workspace : Int64} {principalId : String} {body : Option Json}
    {r : Option (Except Halt Http.RateLimit)} (h : (c.putAssignment workspace principalId body).Does es r) :
    WritesOnce c.credentials (Transport.readable Transport.ignore) (fun _ => False) es r := by
  obtain ⟨r', hx, rfl⟩ := (Call.does_bind_pure (g := fun x : Unit × Http.RateLimit => x.2)).1 h
  exact (exchange_writesOnce hx).map _

theorem putRules_writesOnce {target : AccessTarget} {rules : List Rule} {r : Option (Except Halt Http.RateLimit)}
    (h : (c.putRules scope target rules).Does es r) :
    WritesOnce c.credentials (Transport.readable (Json.nullable? readRuleSet)) (fun _ => False) es r := by
  rcases Call.does_ofExcept_bind.1 h with ⟨_, -, rfl, rfl⟩ | ⟨url, -, hx⟩
  · exact .of_reads (by simp) fun a ha => by cases ha
  rcases does_lastEtag_bind.1 hx with ⟨rfl, rfl⟩ | ⟨told, ys, rfl, hy⟩
  · exact .of_reads (by simp) fun a ha => by cases ha
  have hlookup : ∀ ev ∈ [(⟨.readEtag (target.ruleSetName c.accountId), told⟩ : Event)],
      ev.ReadsOnly c.credentials := by
    intro ev hev
    rw [List.mem_singleton] at hev
    subst hev
    exact Event.sends_of_silent rfl
  have hwrites : WritesOnce c.credentials (Transport.readable (Json.nullable? readRuleSet))
      (fun _ => False) ys r := by
    refine writesOnce_bind (fun _ _ => exchange_writesOnce) ?_ ?_ hy
    -- All that follows the write is that a new version is remembered.
    · rintro ⟨_ | ⟨rules', etag⟩, rateLimit⟩
      · exact Call.always_pure
      · dsimp only
        split_ifs
        · exact Call.always_bind (Call.always_perform fun _ => rfl) fun _ => Call.always_pure
        · exact Call.always_pure
    · rintro ⟨_ | ⟨rules', etag⟩, rateLimit⟩ zs e hz
      · cases (Call.does_pure.1 hz).2
      · dsimp only at hz
        split_ifs at hz
        · rcases Call.does_perform_bind.1 hz with ⟨-, hr⟩ | ⟨_, _, -, hlast⟩
          · cases hr
          · cases (Call.does_pure.1 hlast).2
        · cases (Call.does_pure.1 hz).2
  exact hwrites.behind hlookup id

/-! ## Edits -/

/-- Those rules of the target were read. -/
def FoundRules (c : Client) (target : AccessTarget) (rules : List Rule) (es : List Event) : Prop :=
  ∃ etag request reply own, request.Reads (target.ruleSetName c.accountId) etag ∧
    ⟨.send request, some reply⟩ ∈ es ∧ Transport.content? readRuleSet reply = some (rules, own)

theorem FoundRules.mono {target : AccessTarget} {rules : List Rule} {es' : List Event}
    (h : c.FoundRules target rules es) (hsub : es ⊆ es') : c.FoundRules target rules es' := by
  obtain ⟨etag, request, reply, own, hreads, hev, hcontent⟩ := h
  exact ⟨etag, request, reply, own, hreads, hsub hev, hcontent⟩

/-- Rules that are not written were read and needed no change. -/
theorem editRules_writesOnce {target : AccessTarget} {edit : List Rule → Bool × List Rule}
    {r : Option (Except Halt Bool)} (h : (c.editRules scope target edit).Does es r) :
    WritesOnce c.credentials (Transport.readable (Json.nullable? readRuleSet))
      (fun zs => ∃ rules, c.FoundRules target rules zs ∧ (edit rules).1 = false) es r := by
  have hedit := writesOnce_edit edit (c.putRules scope target) true false reads_listRules.sends
    (fun _ _ _ => putRules_writesOnce) (by
      intro rules rateLimit
      dsimp only
      rcases edit rules with ⟨_ | _, rules'⟩ <;> rfl) h
  refine hedit.imp ?_
  rintro ⟨rules, rateLimit, hread, hsame⟩
  obtain ⟨told, prep, request, reply, now, own, rfl, -, hreads, hdecode⟩ := does_listRules_ok hread
  exact ⟨rules, ⟨_, request, reply, own, hreads, by simp, Transport.content?_of_decode hdecode⟩, hsame⟩

/-! ## Names -/

/-- The natural key of the first object in the reply to a listing. -/
def firstKeyOf (d : Directory α) (reply : Http.Reply) : Option String :=
  (Transport.content? (Listing.read (d.read Listing.depth)) reply).bind fun found => found.1.head?.map d.key

/-- The natural key of the first principal of that kind in the reply to a listing. -/
def firstKey? : PrincipalKind → Http.Reply → Option String
  | .user => firstKeyOf .users
  | .group => firstKeyOf .groups
  | .servicePrincipal => firstKeyOf .servicePrincipals

/-- The principal of that id was looked up, and that was its natural key. -/
def FoundKey (c : Client) (scope : Scope) (kind : PrincipalKind) (id key : String) (es : List Event) : Prop :=
  ∃ url request reply, c.resolver.resolve kind.endpoint scope = .ok url ∧
    Transport.Asks .get url none [Query.Term.single, Query.Term.equals "id" id] request ∧
    ⟨.send request, some reply⟩ ∈ es ∧ firstKey? kind reply = some key

theorem FoundKey.mono {kind : PrincipalKind} {id key : String} {es' : List Event}
    (h : c.FoundKey scope kind id key es) (hsub : es ⊆ es') : c.FoundKey scope kind id key es' := by
  obtain ⟨url, request, reply, hurl, hasks, hev, hkey⟩ := h
  exact ⟨url, request, reply, hurl, hasks, hsub hev, hkey⟩

theorem found_of_findKey {d : Directory α} {id key : String}
    (h : (c.findKey d scope id).Does es (some (.ok (some key)))) :
    ∃ url request reply, c.resolver.resolve d.endpoint scope = .ok url ∧
      Transport.Asks .get url none [Query.Term.single, Query.Term.equals "id" id] request ∧
      ⟨.send request, some reply⟩ ∈ es ∧ firstKeyOf d reply = some key := by
  obtain ⟨r₁, hfirst, h₁⟩ := Call.does_bind_pure.1 h
  obtain ⟨r₂, hlist, rfl⟩ := Call.does_bind_pure.1 hfirst
  obtain ⟨r₃, hexchange, rfl⟩ := (Call.does_bind_pure
    (g := fun x : (List α × UInt32) × Http.RateLimit => (⟨x.1.1, x.1.2, x.2⟩ : Listing α))).1 hlist
  rcases r₃ with _ | e | ⟨⟨items, total⟩, rateLimit⟩
  · cases h₁
  · cases h₁
  obtain ⟨url, request, reply, hurl, hasks, hev, hcontent⟩ := content_of_exchange hexchange
  have hkey : items.head?.map d.key = some key := by simpa [Except.map, eq_comm] using h₁
  exact ⟨url, request, reply, hurl, hasks, hev, by simp [firstKeyOf, hcontent, hkey]⟩

theorem found_of_nameOfId {kind : PrincipalKind} {id : String} {p : PrincipalName}
    (h : (c.nameOfId scope kind id).Does es (some (.ok p))) :
    p.kind = kind ∧ c.FoundKey scope kind id p.key es := by
  rcases Call.does_bind.1 h with ⟨-, hr⟩ | ⟨_, -, hr⟩ | ⟨found, xs, ys, rfl, hxs, hys⟩
  · cases hr
  · cases hr
  cases found with
  | none => cases (Call.does_fail.1 hys).2
  | some key =>
    obtain ⟨rfl, hp⟩ := Call.does_pure.1 hys
    cases hp
    rw [List.append_nil]
    cases kind with
    | user => exact ⟨rfl, found_of_findKey (d := .users) hxs⟩
    | group => exact ⟨rfl, found_of_findKey (d := .groups) hxs⟩
    | servicePrincipal => exact ⟨rfl, found_of_findKey (d := .servicePrincipals) hxs⟩

end Client

end AccessSync
