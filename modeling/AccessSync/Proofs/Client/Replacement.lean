import AccessSync.Client.Principals
import AccessSync.Proofs.RuleSet.Calls
/-!
# Fetching and replacing principals

An object is fetched by a GET and replaced by a PUT. A fetch that has ended has found an object in a
reply (`fetched_of_get`), and a replacement carries what is written of the object (`replaces_of_put`). A
call that fetches something, edits it and replaces it if it changed sends its PUT behind a fetch that
has ended (`put_of_edit`).
-/

namespace AccessSync

namespace Transport

variable {α : Type} {read : Json → Option α}

/-- What was read in a reply was read in the value that the reply holds. -/
theorem json_of_content? {reply : Http.Reply} {a : α} (h : content? read reply = some a) :
    ∃ v, content? some reply = some v ∧ read v = some a := by
  unfold content? at h ⊢
  split_ifs at h ⊢ with hsuccess
  obtain ⟨bytes, hbytes, hbody⟩ := Option.bind_eq_some_iff.1 h
  obtain ⟨v, hv, hread⟩ := Option.bind_eq_some_iff.1 hbody
  exact ⟨v, by simp [hbytes, hv], hread⟩

/-- A course sends its request first and nothing else. -/
theorem Exchanged.sends {request : Http.Request} {es : List Event}
    {r : Option (Except Halt (α × Http.RateLimit))} (h : Exchanged read request es r) :
    ∃ answer fs, es = ⟨.send request, answer⟩ :: fs ∧ ∀ ev ∈ fs, ev.request? = none := by
  cases h <;> exact ⟨_, _, rfl, by simp [Event.request?]⟩

/-- An event of an exchange sends its request, or is of a sort that takes in all that gets the credential and
all that sends nothing. -/
theorem sent_of_exchange {credentials : Credentials} {method : Http.Method} {scope : Scope} {url : Url}
    {body : Option Json} {terms : List Query.Term} {es : List Event} {r : Option (Except Halt (α × Http.RateLimit))}
    {P : Event → Prop} (hcredential : (credential credentials scope).Always P)
    (hsilent : ∀ ev : Event, ev.request? = none → P ev)
    (h : (exchange credentials read method scope url body terms).Does es r) {ev : Event} (hev : ev ∈ es) :
    P ev ∨ ∃ request answer, ev = ⟨.send request, answer⟩ ∧ Asks method url body terms request := by
  rcases does_exchange_behind hcredential h with ⟨hall, -⟩ | ⟨request, xs, ys, rfl, hbehind, hasks, hr⟩
  · exact .inl (hall ev hev)
  obtain ⟨answer, fs, rfl, hfs⟩ := hr.sends
  rcases List.mem_append.1 hev with hev | hev
  · exact .inl (hbehind ev hev)
  rcases List.mem_cons.1 hev with rfl | hev
  · exact .inr ⟨request, answer, rfl, hasks⟩
  · exact .inl (hsilent ev (hfs ev hev))

end Transport

/-- Where principals of that kind are served. -/
def PrincipalKind.endpoint : PrincipalKind → Endpoint
  | .user => .users
  | .group => .groups
  | .servicePrincipal => .servicePrincipals

namespace Client

/-- The object of that id was fetched, and the reply holds `v`. -/
def Fetched (c : Client) (e : Endpoint) (scope : Scope) (id : String) (v : Json) (es : List Event) : Prop :=
  ∃ url request reply, c.resolver.resolveWith e scope [id] = .ok url ∧
    Transport.Asks .get url none [] request ∧ ⟨.send request, some reply⟩ ∈ es ∧
    Transport.content? some reply = some v

/-- The request replaces the object of that id by `v`. -/
def Replaces (c : Client) (e : Endpoint) (scope : Scope) (id : String) (v : Json)
    (request : Http.Request) : Prop :=
  ∃ url, c.resolver.resolveWith e scope [id] = .ok url ∧ Transport.Asks .put url (some v) [] request

theorem Fetched.mono {c : Client} {e : Endpoint} {scope : Scope} {id : String} {v : Json}
    {es es' : List Event} (h : c.Fetched e scope id v es) (hsub : es ⊆ es') : c.Fetched e scope id v es' := by
  obtain ⟨url, request, reply, hurl, hasks, hev, hcontent⟩ := h
  exact ⟨url, request, reply, hurl, hasks, hsub hev, hcontent⟩

variable {α : Type} {c : Client} {scope : Scope} {d : Directory α} {id : String}
  {es before after : List Event} {request : Http.Request} {answer : Option Http.Reply}

/-! ## Objects of one directory -/

section Exchanges
variable {read : Json → Option α} {method : Http.Method} {url? : Except Error Url} {body : Option Json}
  {terms : List Query.Term} {r : Option (Except Halt (α × Http.RateLimit))}

/-- An exchange at a URL that may be a fault has no value, or sends its request there behind what gets the
credential. -/
theorem does_exchange_behind {P : Event → Prop} (hcredential : (Transport.credential c.credentials scope).Always P)
    (h : (c.exchange read method scope url? body terms).Does es r) :
    ((∀ ev ∈ es, P ev) ∧ ∀ a, r ≠ some (.ok a)) ∨
    ∃ url request xs ys, url? = .ok url ∧ es = xs ++ ys ∧ (∀ ev ∈ xs, P ev) ∧
      Transport.Asks method url body terms request ∧ Transport.Exchanged read request ys r := by
  rcases Call.does_ofExcept_bind.1 h with ⟨_, -, rfl, rfl⟩ | ⟨url, hurl, hx⟩
  · exact .inl ⟨by simp, fun a ha => by cases ha⟩
  rcases Transport.does_exchange_behind hcredential hx with hno | ⟨request, xs, ys, hes, hbehind, hasks, hr⟩
  · exact .inl hno
  · exact .inr ⟨url, request, xs, ys, hurl, hes, hbehind, hasks, hr⟩

/-- What it does before its request only prepares it. -/
theorem does_exchange_resolved (h : (c.exchange read method scope url? body terms).Does es r) :
    ((∀ ev ∈ es, ev.Prepares) ∧ ∀ a, r ≠ some (.ok a)) ∨
    ∃ url request xs ys, url? = .ok url ∧ es = xs ++ ys ∧ (∀ ev ∈ xs, ev.Prepares) ∧
      Transport.Asks method url body terms request ∧ Transport.Exchanged read request ys r :=
  does_exchange_behind (Transport.always_credential _ _) h

/-- What an exchange sends is its request, or belongs to getting the credential. -/
theorem asks_behind {P : Event → Prop} (hcredential : (Transport.credential c.credentials scope).Always P)
    (hsilent : ∀ ev : Event, ev.request? = none → P ev)
    (h : (c.exchange read method scope url? body terms).Does es r) (hev : ⟨.send request, answer⟩ ∈ es)
    (hnot : ¬P ⟨.send request, answer⟩) : ∃ url, url? = .ok url ∧ Transport.Asks method url body terms request := by
  rcases Call.does_ofExcept_bind.1 h with ⟨_, -, rfl, -⟩ | ⟨url, hurl, hx⟩
  · cases hev
  obtain ⟨request', answer', heq, hasks⟩ := (Transport.sent_of_exchange hcredential hsilent hx hev).resolve_left hnot
  cases heq
  exact ⟨url, hurl, hasks⟩

/-- What an exchange sends, but for a token, is its request. -/
theorem asks_of_exchange (h : (c.exchange read method scope url? body terms).Does es r)
    (hev : ⟨.send request, answer⟩ ∈ es) (hm : request.method ≠ .post) :
    ∃ url, url? = .ok url ∧ Transport.Asks method url body terms request := by
  have hasks : Event.Asks ⟨.send request, answer⟩ := ⟨request, rfl, hm⟩
  have hcredential : (Transport.credential c.credentials scope).Always (¬·.Asks) :=
    (Transport.always_credential _ _).imp fun _ => Event.Prepares.not_asks
  exact asks_behind hcredential (fun _ => Event.not_asks) h hev (not_not_intro hasks)

/-- An exchange that has a value has read it in the reply to its request. -/
theorem content_of_exchange {a : α} {rateLimit : Http.RateLimit}
    (h : (c.exchange read method scope url? body terms).Does es (some (.ok (a, rateLimit)))) :
    ∃ url request reply, url? = .ok url ∧ Transport.Asks method url body terms request ∧
      ⟨.send request, some reply⟩ ∈ es ∧ Transport.content? read reply = some a := by
  rcases does_exchange_resolved h with ⟨-, hno⟩ | ⟨url, request, xs, ys, hurl, rfl, -, hasks, hr⟩
  · exact absurd rfl (hno _)
  generalize hq : some (Except.ok (a, rateLimit)) = q at hr
  cases hr with
  | unanswered => cases hq
  | answered => cases hq
  | read reply now =>
    exact ⟨url, request, reply, hurl, hasks, by simp, Transport.content?_of_decode (Option.some.inj hq).symm⟩

/-- A fetch sends no write. -/
theorem not_put_of_get (h : (c.get d scope id).Does es r) : ∀ ev ∈ es, ¬ev.IsPut := by
  rintro ev hev ⟨request, hr, hm⟩
  obtain ⟨answer, rfl⟩ := Event.eq_send hr
  obtain ⟨url, -, hasks⟩ := asks_of_exchange h hev (by simp [hm])
  cases hm.symm.trans hasks.method

end Exchanges

/-- A fetch that has ended has read an object in a reply. -/
theorem fetched_of_get {a : α} {rateLimit : Http.RateLimit}
    (h : (c.get d scope id).Does es (some (.ok (a, rateLimit)))) :
    ∃ v, c.Fetched d.endpoint scope id v es ∧ d.read 0 v = some a := by
  obtain ⟨url, request, reply, hurl, hasks, hev, hcontent⟩ := content_of_exchange h
  obtain ⟨v, hv, hread⟩ := Transport.json_of_content? hcontent
  exact ⟨v, ⟨url, request, reply, hurl, hasks, hev, hv⟩, hread⟩

/-- A replacement carries what is written of the object. -/
theorem replaces_of_put {a : α} {r : Option (Except Halt Http.RateLimit)} (h : (c.put d scope a).Does es r)
    (hev : ⟨.send request, answer⟩ ∈ es) (hm : request.method = .put) :
    c.Replaces d.endpoint scope (d.id a) (d.write a) request := by
  obtain ⟨r', hx, -⟩ := (Call.does_bind_pure (g := fun x : Unit × Http.RateLimit => x.2)).1 h
  exact asks_of_exchange hx hev (by simp [hm])

/-! ## Principals of any kind -/

section Principals
variable {kind : PrincipalKind} {p : Principal}

/-- Fetching an object as a principal sends no write; when it has ended, it has read the principal. -/
theorem get_as_principal {β : Type} {d : Directory β} {wrap : β → Principal} (he : d.endpoint = kind.endpoint)
    (hread : ∀ v, Principal.read v kind = (d.read 0 v).map wrap)
    {r : Option (Except Halt (Principal × Http.RateLimit))}
    (h : Call.Does (c.get d scope id >>= fun x => pure (wrap x.1, x.2)) es r) :
    (∀ ev ∈ es, ¬ev.IsPut) ∧ ∀ p rateLimit, r = some (.ok (p, rateLimit)) →
      ∃ v, c.Fetched kind.endpoint scope id v es ∧ Principal.read v kind = some p := by
  obtain ⟨r', hx, rfl⟩ := Call.does_bind_pure.1 h
  refine ⟨not_put_of_get hx, ?_⟩
  intro p rateLimit hr
  rcases r' with _ | e | ⟨b, rateLimit'⟩
  · cases hr
  · cases hr
  cases hr
  obtain ⟨v, hv, hb⟩ := fetched_of_get hx
  exact ⟨v, he ▸ hv, by rw [hread, hb]; rfl⟩

/-- A principal is fetched from the directory of its kind. -/
theorem get_of_getPrincipal {r : Option (Except Halt (Principal × Http.RateLimit))}
    (h : (c.getPrincipal scope kind id).Does es r) :
    (∀ ev ∈ es, ¬ev.IsPut) ∧ ∀ p rateLimit, r = some (.ok (p, rateLimit)) →
      ∃ v, c.Fetched kind.endpoint scope id v es ∧ Principal.read v kind = some p := by
  cases kind with
  | user => exact get_as_principal (d := .users) rfl (fun _ => rfl) h
  | group => exact get_as_principal (d := .groups) rfl (fun _ => rfl) h
  | servicePrincipal => exact get_as_principal (d := .servicePrincipals) rfl (fun _ => rfl) h

/-- A principal is replaced in the directory of its kind. -/
theorem replaces_of_putPrincipal {r : Option (Except Halt Http.RateLimit)}
    (h : (c.putPrincipal scope p).Does es r) (hev : ⟨.send request, answer⟩ ∈ es)
    (hm : request.method = .put) : c.Replaces p.kind.endpoint scope p.id p.toJson request := by
  cases p with
  | user u => exact replaces_of_put h hev hm
  | group g => exact replaces_of_put h hev hm
  | servicePrincipal s => exact replaces_of_put h hev hm

end Principals

/-! ## Editing what was fetched -/

/-- The write of an edit stands behind a fetch that has ended and replaces what the edit made of what was
found. -/
theorem put_of_edit (edit : α → Bool × α) (replace : α → Call Http.RateLimit)
    {fetch : Call (α × Http.RateLimit)} {next : α × Http.RateLimit → Call Unit}
    (hfetch : ∀ {es r}, fetch.Does es r → ∀ ev ∈ es, ¬ev.IsPut)
    (hnext : ∀ a rateLimit, next (a, rateLimit) =
      if (edit a).1 then replace (edit a).2 >>= fun _ => pure () else pure ())
    {r : Option (Except Halt Unit)} (h : (fetch >>= next).Does es r)
    (hes : es = before ++ ⟨.send request, answer⟩ :: after) (hm : request.method = .put) :
    ∃ a rateLimit found rest, before = found ++ rest ∧ fetch.Does found (some (.ok (a, rateLimit))) ∧
      (edit a).1 = true ∧ ∃ ys r', (replace (edit a).2).Does ys r' ∧ ⟨.send request, answer⟩ ∈ ys := by
  have hput : Event.IsPut ⟨.send request, answer⟩ := ⟨request, rfl, hm⟩
  rcases Call.does_bind.1 h with ⟨hx, -⟩ | ⟨e, hx, -⟩ | ⟨⟨a, rateLimit⟩, xs, ys, rfl, hx, hy⟩
  · exact absurd hput (hfetch hx _ (by simp [hes]))
  · exact absurd hput (hfetch hx _ (by simp [hes]))
  -- The fetch sends no write, so the write stands behind it.
  obtain ⟨rest, rfl, rfl⟩ := (Event.append_eq_append_cons hes).resolve_left
    fun ⟨mid, hmid⟩ => hfetch hx _ (by rw [hmid]; simp) hput
  rw [hnext] at hy
  split_ifs at hy with hchanged
  · obtain ⟨r', hreplace, -⟩ := Call.does_bind_pure.1 hy
    exact ⟨a, rateLimit, xs, rest, rfl, hx, hchanged, _, r', hreplace, by simp⟩
  · obtain ⟨hnil, -⟩ := Call.does_pure.1 hy
    simp at hnil

end Client

end AccessSync
