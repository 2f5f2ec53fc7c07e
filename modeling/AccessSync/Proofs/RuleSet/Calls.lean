import AccessSync.Proofs.RuleSet.Target
import AccessSync.Proofs.Transport.Exchange
/-!
# What calls on a rule set do

Reading a rule set and writing one go the same way (`does_versioned`): the version that is remembered
is looked up, one request goes out that names the set and that version, and the version in the reply
is remembered, if there is one. `does_editRules` puts the two together: an edit reads, and writes what
it has made of the rules, if that is anything new. `put_of_editRules` says what precedes the one write
of an edit and what that write carries.
-/

namespace AccessSync

namespace Http.Request

/-- The request reads that rule set and names that version. -/
structure Reads (request : Http.Request) (name etag : String) : Prop where
  method : request.method = .get
  parameters : request.parameters = [("etag", etag), ("name", name)]

/-- The request replaces that rule set by these rules and names that version, both in its parameters
and in its body. -/
structure Writes (request : Http.Request) (name etag : String) (rules : List Rule) : Prop where
  method : request.method = .put
  parameters : request.parameters = [("etag", etag), ("name", name)]
  body : request.body = .json (Client.ruleSetToJson name etag rules)

end Http.Request

theorem Query.ofTerms_ruleSet {name : String} (etag : String) (hn : name ≠ "") :
    (Query.ofTerms [.ruleSet name etag]).pairs = [("etag", etag), ("name", name)] := by
  simp [ofTerms, Term.apply, set, add, empty, addNonempty, hn]

theorem Transport.Asks.ruleSet {method : Http.Method} {url : Url} {body : Option Json}
    {name etag : String} {request : Http.Request} (hn : name ≠ "")
    (h : Asks method url body [.ruleSet name etag] request) :
    request.parameters = [("etag", etag), ("name", name)] := by
  have hp := Query.ofTerms_ruleSet etag hn
  rw [h.parameters (by simp [Query.isEmpty, hp]), hp]

/-- The event asks something of the API, a token aside. -/
def Event.Asks (ev : Event) : Prop :=
  ∃ request, ev.request? = some request ∧ request.method ≠ .post

/-- The event sends a write. -/
def Event.IsPut (ev : Event) : Prop :=
  ∃ request, ev.request? = some request ∧ request.method = .put

namespace Event

variable {ev : Event}

theorem Prepares.not_asks (h : ev.Prepares) : ¬ev.Asks := by
  rintro ⟨request, hr, hm⟩
  exact hm (h.2 request hr)

theorem not_asks (h : ev.request? = none) : ¬ev.Asks := by
  rintro ⟨request, hr, -⟩
  rw [h] at hr
  cases hr

theorem IsPut.asks (h : ev.IsPut) : ev.Asks := by
  obtain ⟨request, hr, hm⟩ := h
  refine ⟨request, hr, ?_⟩
  rw [hm]
  decide

end Event

namespace Client

/-- The version in the reply to a write, if it tells one. -/
def newEtag : Option (List Rule × String) → Option String
  | some (_, etag) => if etag ≠ "" then some etag else none
  | none => none

/-- The course of a request for a rule set. A reply with a version has it remembered before the call
goes on; `version?` takes the version and `value` the result from what the reply holds. -/
inductive Kept {α β : Type} (read : Json → Option α) (version? : α → Option String)
    (value : α × Http.RateLimit → β) (name : String) (request : Http.Request) :
    List Event → Option (Except Halt β) → Prop
  | lost : Kept read version? value name request [⟨.send request, none⟩]
      (some (.error (.error (.transfer .noReply))))
  | answered (reply : Http.Reply) :
      Kept read version? value name request [⟨.send request, some reply⟩] none
  | failed {reply : Http.Reply} {now : Instant} {h : Halt} :
      Transport.decode read now reply = .error h →
      Kept read version? value name request [⟨.send request, some reply⟩, ⟨.now, now⟩] (some (.error h))
  | silent {reply : Http.Reply} {now : Instant} {a : α} {rateLimit : Http.RateLimit} :
      Transport.decode read now reply = .ok (a, rateLimit) → version? a = none →
      Kept read version? value name request [⟨.send request, some reply⟩, ⟨.now, now⟩]
        (some (.ok (value (a, rateLimit))))
  | told {reply : Http.Reply} {now : Instant} {a : α} {rateLimit : Http.RateLimit} {etag : String} :
      Transport.decode read now reply = .ok (a, rateLimit) → version? a = some etag →
      Kept read version? value name request [⟨.send request, some reply⟩, ⟨.now, now⟩] none
  | recorded {reply : Http.Reply} {now : Instant} {a : α} {rateLimit : Http.RateLimit} {etag : String} :
      Transport.decode read now reply = .ok (a, rateLimit) → version? a = some etag →
      Kept read version? value name request
        [⟨.send request, some reply⟩, ⟨.now, now⟩, ⟨.writeEtag name etag, ()⟩]
        (some (.ok (value (a, rateLimit))))

/-- The course of a call on a rule set: nothing at all, or the version that is remembered is looked up
and then either no request is sent or one that names this version. -/
def Versioned {β : Type} (name : String) (Request : String → Http.Request → Prop)
    (Course : Http.Request → List Event → Option (Except Halt β) → Prop) (es : List Event)
    (r : Option (Except Halt β)) : Prop :=
  (es = [] ∧ ∀ b, r ≠ some (.ok b)) ∨
  ∃ told rest, es = ⟨.readEtag name, told⟩ :: rest ∧
    (((∀ ev ∈ rest, ev.Prepares) ∧ ∀ b, r ≠ some (.ok b)) ∨
    ∃ request xs ys, rest = xs ++ ys ∧ (∀ ev ∈ xs, ev.Prepares) ∧
      Request (told.getD "") request ∧ Course request ys r)

theorem Versioned.imp {β : Type} {name : String} {Request Request' : String → Http.Request → Prop}
    {Course : Http.Request → List Event → Option (Except Halt β) → Prop} {es : List Event}
    {r : Option (Except Halt β)} (h : Versioned name Request Course es r)
    (himp : ∀ etag request, Request etag request → Request' etag request) :
    Versioned name Request' Course es r := by
  rcases h with hno | ⟨told, rest, rfl, hno | ⟨request, xs, ys, rfl, hprep, hreq, hcourse⟩⟩
  · exact .inl hno
  · exact .inr ⟨told, rest, rfl, .inl hno⟩
  · exact .inr ⟨told, _, rfl, .inr ⟨request, xs, ys, rfl, hprep, himp _ _ hreq, hcourse⟩⟩

theorem does_lastEtag_bind {β : Type} {name : String} {f : String → Call β} {es : List Event}
    {r : Option (Except Halt β)} : (lastEtag name >>= f).Does es r ↔
      (es = [] ∧ r = none) ∨
      ∃ told ys, es = ⟨.readEtag name, told⟩ :: ys ∧ (f (told.getD "")).Does ys r :=
  Call.does_perform_bind (e := .readEtag name) (f := fun told => f (told.getD ""))

/-- A call to an endpoint whose URL is known goes as an exchange does. -/
theorem does_exchange {α : Type} {c : Client} {read : Json → Option α} {method : Http.Method}
    {scope : Scope} {url : Url} {body : Option Json} {terms : List Query.Term} {es : List Event}
    {r : Option (Except Halt (α × Http.RateLimit))}
    (h : (c.exchange read method scope (.ok url) body terms).Does es r) :
    ((∀ ev ∈ es, ev.Prepares) ∧ ∀ a, r ≠ some (.ok a)) ∨
    ∃ request xs ys, es = xs ++ ys ∧ (∀ ev ∈ xs, ev.Prepares) ∧
      Transport.Asks method url body terms request ∧ Transport.Exchanged read request ys r := by
  rcases Call.does_ofExcept_bind.1 h with ⟨_, hfault, -⟩ | ⟨_, hok, hx⟩
  · cases hfault
  · cases hok
    exact Transport.does_exchange hx

section Versioned
variable {α β : Type} {c : Client} {scope : Scope} {name : String} {read : Json → Option α}
  {method : Http.Method} {body : String → Option Json} {f : α × Http.RateLimit → Call β}

/-- Looking up the version, exchanging and remembering the new version. -/
theorem does_versioned (version? : α → Option String) (value : α × Http.RateLimit → β)
    {es : List Event} {r : Option (Except Halt β)}
    (hf : ∀ a rateLimit ys r, (f (a, rateLimit)).Does ys r →
      (version? a = none ∧ ys = [] ∧ r = some (.ok (value (a, rateLimit)))) ∨
      ∃ etag, version? a = some etag ∧ ((ys = [] ∧ r = none) ∨
        (ys = [⟨.writeEtag name etag, ()⟩] ∧ r = some (.ok (value (a, rateLimit))))))
    (h : (do
      let url ← Call.ofExcept id (c.resolver.resolve .ruleSets scope)
      let etag ← lastEtag name
      let x ← c.exchange read method scope (.ok url) (body etag) [.ruleSet name etag]
      f x).Does es r) :
    Versioned name
      (fun etag request => ∃ url, c.resolver.resolve .ruleSets scope = .ok url ∧
        Transport.Asks method url (body etag) [.ruleSet name etag] request)
      (Kept read version? value name) es r := by
  rcases Call.does_ofExcept_bind.1 h with ⟨_, -, rfl, rfl⟩ | ⟨url, hu, h1⟩
  · exact .inl ⟨rfl, fun b hb => by cases hb⟩
  rcases does_lastEtag_bind.1 h1 with ⟨rfl, rfl⟩ | ⟨told, rest, rfl, h2⟩
  · exact .inl ⟨rfl, fun b hb => by cases hb⟩
  refine .inr ⟨told, rest, rfl, ?_⟩
  -- The exchange is under way, has failed, or has a value to remember the version of.
  rcases Call.does_bind.1 h2 with ⟨hx, rfl⟩ | ⟨e, hx, rfl⟩ | ⟨⟨a, rateLimit⟩, us, vs, rfl, hx, hy⟩
  · rcases does_exchange hx with ⟨hprep, -⟩ | ⟨request, xs, ys, rfl, hprep, hask, hr⟩
    · exact .inl ⟨hprep, fun b hb => by cases hb⟩
    · refine .inr ⟨request, xs, ys, rfl, hprep, ⟨url, hu, hask⟩, ?_⟩
      cases hr with
      | answered reply => exact .answered reply
  · rcases does_exchange hx with ⟨hprep, -⟩ | ⟨request, xs, ys, rfl, hprep, hask, hr⟩
    · exact .inl ⟨hprep, fun b hb => by cases hb⟩
    · refine .inr ⟨request, xs, ys, rfl, hprep, ⟨url, hu, hask⟩, ?_⟩
      generalize hq : some (Except.error e) = q at hr
      cases hr with
      | unanswered =>
        cases hq
        exact .lost
      | answered => cases hq
      | read reply now => exact .failed (Option.some.inj hq).symm
  · rcases does_exchange hx with ⟨-, hno⟩ | ⟨request, xs, ys, rfl, hprep, hask, hr⟩
    · exact absurd rfl (hno _)
    · refine .inr ⟨request, xs, ys ++ vs, List.append_assoc .., hprep, ⟨url, hu, hask⟩, ?_⟩
      generalize hq : some (Except.ok (a, rateLimit)) = q at hr
      cases hr with
      | unanswered => cases hq
      | answered => cases hq
      | read reply now =>
        have hd := (Option.some.inj hq).symm
        rcases hf a rateLimit vs r hy with ⟨hv, rfl, rfl⟩ | ⟨etag, hv, ⟨rfl, rfl⟩ | ⟨rfl, rfl⟩⟩
        · exact .silent hd hv
        · exact .told hd hv
        · exact .recorded hd hv

end Versioned

/-- A course sends its request first and nothing else. -/
theorem Kept.sends {α β : Type} {read : Json → Option α} {version? : α → Option String}
    {value : α × Http.RateLimit → β} {name : String} {request : Http.Request} {es : List Event}
    {r : Option (Except Halt β)} (h : Kept read version? value name request es r) :
    ∃ answer fs, es = ⟨.send request, answer⟩ :: fs ∧ ∀ ev ∈ fs, ev.request? = none := by
  cases h <;> exact ⟨_, _, rfl, by simp [Event.request?]⟩

/-- What stands before the request of a call on a rule set, what the request carries, and what
follows. -/
theorem Versioned.sent {β : Type} {name : String} {Request : String → Http.Request → Prop}
    {Course : Http.Request → List Event → Option (Except Halt β) → Prop} {es before after : List Event}
    {r : Option (Except Halt β)} (h : Versioned name Request Course es r)
    (hc : ∀ request ys r, Course request ys r →
      ∃ answer fs, ys = ⟨.send request, answer⟩ :: fs ∧ ∀ ev ∈ fs, ev.request? = none)
    {request : Http.Request} {answer : Option Http.Reply}
    (hes : es = before ++ ⟨.send request, answer⟩ :: after) (hm : request.method ≠ .post) :
    ∃ told prep, before = ⟨.readEtag name, told⟩ :: prep ∧ (∀ ev ∈ prep, ev.Prepares) ∧
      Request (told.getD "") request ∧ Course request (⟨.send request, answer⟩ :: after) r ∧
      ∀ ev ∈ after, ev.request? = none := by
  have hasks : Event.Asks ⟨.send request, answer⟩ := ⟨request, rfl, hm⟩
  have hread : ∀ told, ¬Event.Asks ⟨.readEtag name, told⟩ := fun told => Event.not_asks rfl
  rcases h with ⟨rfl, -⟩ | ⟨told, rest, rfl, ⟨hprep, -⟩ | ⟨sent, xs, ys, rfl, hprep, hreq, hk⟩⟩
  · simp at hes
  · have hmem : (⟨.send request, answer⟩ : Event) ∈ (⟨.readEtag name, told⟩ : Event) :: rest := by
      rw [hes]; simp
    rcases List.mem_cons.1 hmem with heq | hmem
    · exact absurd (heq ▸ hasks) (hread told)
    · exact absurd hasks (hprep _ hmem).not_asks
  · obtain ⟨answer', fs, rfl, hfs⟩ := hc _ _ _ hk
    obtain ⟨rfl, heq, rfl⟩ := Event.located (P := Event.Asks) (List.cons_append.trans hes)
      (fun ev hev => by
        rcases List.mem_cons.1 hev with rfl | hev
        · exact hread told
        · exact (hprep ev hev).not_asks)
      (fun ev hev => Event.not_asks (hfs ev hev)) hasks
    cases heq
    exact ⟨told, xs, rfl, hprep, hreq, hk, hfs⟩

variable {c : Client} {scope : Scope} {target : AccessTarget}

/-- What reading a rule set does. -/
theorem does_listRules {es : List Event} {r : Option (Except Halt (List Rule × Http.RateLimit))}
    (h : (c.listRules scope target).Does es r) :
    Versioned (target.ruleSetName c.accountId)
      (fun etag request => request.Reads (target.ruleSetName c.accountId) etag)
      (Kept readRuleSet (fun x => some x.2) (fun x => (x.1.1, x.2)) (target.ruleSetName c.accountId))
      es r := by
  refine (does_versioned (fun x => some x.2) (fun x => (x.1.1, x.2)) ?_ h).imp ?_
  · intro a rateLimit ys r hy
    rcases Call.does_perform_bind.1 hy with ⟨rfl, rfl⟩ | ⟨_, zs, rfl, hz⟩
    · exact .inr ⟨a.2, rfl, .inl ⟨rfl, rfl⟩⟩
    · obtain ⟨rfl, rfl⟩ := Call.does_pure.1 hz
      exact .inr ⟨a.2, rfl, .inr ⟨rfl, rfl⟩⟩
  · rintro etag request ⟨url, -, hask⟩
    exact ⟨hask.method, hask.ruleSet (target.ruleSetName_ne_empty _)⟩

/-- What writing a rule set does. -/
theorem does_putRules {rules : List Rule} {es : List Event} {r : Option (Except Halt Http.RateLimit)}
    (h : (c.putRules scope target rules).Does es r) :
    Versioned (target.ruleSetName c.accountId)
      (fun etag request => request.Writes (target.ruleSetName c.accountId) etag rules)
      (Kept (Json.nullable? readRuleSet) newEtag (·.2) (target.ruleSetName c.accountId)) es r := by
  refine (does_versioned newEtag (·.2) ?_ h).imp ?_
  · intro written rateLimit ys r hy
    cases written with
    | none =>
      obtain ⟨rfl, rfl⟩ := Call.does_pure.1 hy
      exact .inl ⟨rfl, rfl, rfl⟩
    | some x =>
      by_cases he : x.2 = ""
      · simp only [he, ne_eq, not_true_eq_false, if_false] at hy
        obtain ⟨rfl, rfl⟩ := Call.does_pure.1 hy
        exact .inl ⟨by simp [newEtag, he], rfl, rfl⟩
      · simp only [he, ne_eq, not_false_eq_true, if_true] at hy
        have hnew : newEtag (some x) = some x.2 := by simp [newEtag, he]
        rcases Call.does_perform_bind.1 hy with ⟨rfl, rfl⟩ | ⟨_, zs, rfl, hz⟩
        · exact .inr ⟨x.2, hnew, .inl ⟨rfl, rfl⟩⟩
        · obtain ⟨rfl, rfl⟩ := Call.does_pure.1 hz
          exact .inr ⟨x.2, hnew, .inr ⟨rfl, rfl⟩⟩
  · rintro etag request ⟨url, -, hask⟩
    exact ⟨hask.method, hask.ruleSet (target.ruleSetName_ne_empty _), hask.body⟩

/-- What a read that has ended did, and what it found. -/
theorem does_listRules_ok {es : List Event} {rules : List Rule} {rateLimit : Http.RateLimit}
    (h : (c.listRules scope target).Does es (some (.ok (rules, rateLimit)))) :
    ∃ told prep request reply now own,
      es = ⟨.readEtag (target.ruleSetName c.accountId), told⟩ :: prep ++
        [⟨.send request, some reply⟩, ⟨.now, now⟩,
          ⟨.writeEtag (target.ruleSetName c.accountId) own, ()⟩] ∧
      (∀ ev ∈ prep, ev.Prepares) ∧ request.Reads (target.ruleSetName c.accountId) (told.getD "") ∧
      Transport.decode readRuleSet now reply = .ok ((rules, own), rateLimit) := by
  rcases does_listRules h with ⟨-, hno⟩ | ⟨told, rest, rfl, ⟨-, hno⟩ |
    ⟨request, xs, ys, rfl, hprep, hreq, hk⟩⟩
  · exact absurd rfl (hno _)
  · exact absurd rfl (hno _)
  · generalize hq : some (Except.ok (rules, rateLimit)) = q at hk
    cases hk with
    | lost => cases hq
    | answered => cases hq
    | failed => cases hq
    | silent hd hv => cases hv
    | told => cases hq
    | @recorded reply now a _ _ hd hv =>
      cases hq
      cases hv
      exact ⟨told, xs, request, reply, now, a.2, rfl, hprep, hreq, hd⟩

/-- An edit reads the rules; unless that fails, it writes what it makes of them if that is anything
new. -/
theorem does_editRules {edit : List Rule → Bool × List Rule} {es : List Event}
    {r : Option (Except Halt Bool)} (h : (c.editRules scope target edit).Does es r) :
    (∃ r', (c.listRules scope target).Does es r' ∧ ((r' = none ∧ r = none) ∨
      ∃ e, r' = some (.error e) ∧ r = some (.error e))) ∨
    ∃ rules rateLimit xs ys, es = xs ++ ys ∧
      (c.listRules scope target).Does xs (some (.ok (rules, rateLimit))) ∧
      (((edit rules).1 = false ∧ ys = [] ∧ r = some (.ok false)) ∨
      ((edit rules).1 = true ∧ ∃ r', (c.putRules scope target (edit rules).2).Does ys r' ∧
        r = r'.map (·.map fun _ => true))) := by
  rcases Call.does_bind.1 h with ⟨hx, rfl⟩ | ⟨e, hx, rfl⟩ | ⟨⟨rules, rateLimit⟩, xs, ys, rfl, hx, hy⟩
  · exact .inl ⟨none, hx, .inl ⟨rfl, rfl⟩⟩
  · exact .inl ⟨_, hx, .inr ⟨e, rfl, rfl⟩⟩
  refine .inr ⟨rules, rateLimit, xs, ys, rfl, hx, ?_⟩
  dsimp only at hy
  generalize edit rules = edited at hy ⊢
  obtain ⟨changed, rules'⟩ := edited
  cases changed with
  | false =>
    obtain ⟨rfl, rfl⟩ := Call.does_pure.1 hy
    exact .inl ⟨rfl, rfl, rfl⟩
  | true =>
    refine .inr ⟨rfl, ?_⟩
    rcases Call.does_bind.1 hy with ⟨hw, rfl⟩ | ⟨e, hw, rfl⟩ | ⟨rateLimit', us, vs, rfl, hw, hv⟩
    · exact ⟨none, hw, rfl⟩
    · exact ⟨_, hw, rfl⟩
    · obtain ⟨rfl, rfl⟩ := Call.does_pure.1 hv
      exact ⟨_, by rwa [List.append_nil], rfl⟩

/-- A read of a rule set sends no write. -/
theorem not_put_of_listRules {es : List Event} {r : Option (Except Halt (List Rule × Http.RateLimit))}
    (h : (c.listRules scope target).Does es r) : ∀ ev ∈ es, ¬ev.IsPut := by
  rintro ev hev ⟨request, hr, hm⟩
  obtain ⟨answer, rfl⟩ := Event.eq_send hr
  -- Wherever it stands, what is sent there is a read.
  obtain ⟨before, after, rfl⟩ := List.append_of_mem hev
  obtain ⟨_, _, _, _, hreads, -⟩ :=
    (does_listRules h).sent (fun _ _ _ => Kept.sends) rfl (by simp [hm])
  have := hreads.method
  rw [hm] at this
  cases this

/-- What an edit does before its write: it reads the rules, makes something new of them and looks up
the version that the write is to name. -/
structure ReadFor (name : String) (edit : List Rule → Bool × List Rule) (before : List Event)
    (reply : Http.Reply) (rules : List Rule) (own : String) (told : Option String) : Prop where
  events : ∃ asked fetch get now prep,
    before = (⟨.readEtag name, asked⟩ :: fetch ++ [⟨.send get, some reply⟩, ⟨.now, now⟩]) ++
      ⟨.writeEtag name own, ()⟩ :: ⟨.readEtag name, told⟩ :: prep ∧
    (∀ ev ∈ fetch ++ prep, ev.Prepares) ∧ get.Reads name (asked.getD "")
  found : Transport.content? readRuleSet reply = some (rules, own)
  changed : (edit rules).1 = true

/-- What the result of an edit tells about the answer to its write. -/
structure Reports (answer : Option Http.Reply) (r : Option (Except Halt Bool)) : Prop where
  not_unchanged : r ≠ some (.ok false)
  success : r = some (.ok true) → ∃ reply, answer = some reply ∧ reply.status.isSuccess = true
  failure : ∀ e, r = some (.error (.error (.api e))) →
    ∃ reply, answer = some reply ∧ reply.status = e.status

theorem Kept.reports {name : String} {request : Http.Request} {answer : Option Http.Reply}
    {after : List Event} {r : Option (Except Halt Http.RateLimit)}
    (h : Kept (Json.nullable? readRuleSet) newEtag (·.2) name request
      (⟨.send request, answer⟩ :: after) r) :
    Reports answer (r.map (·.map fun _ => true)) := by
  cases h with
  | lost => exact ⟨by simp [Except.map], by simp [Except.map], fun e he => by simp [Except.map] at he⟩
  | answered => exact ⟨by simp, by simp, by simp⟩
  | @failed reply _ h hd =>
    refine ⟨by simp [Except.map], by simp [Except.map], fun e he => ⟨reply, rfl, ?_⟩⟩
    simp only [Option.map_some, Except.map, Option.some.injEq, Except.error.injEq] at he
    exact Transport.status_of_decode (he ▸ hd)
  | @silent reply _ _ _ hd _ =>
    exact ⟨by simp [Except.map], fun _ => ⟨reply, rfl, Transport.success_of_decode hd⟩,
      by simp [Except.map]⟩
  | told => exact ⟨by simp, by simp, by simp⟩
  | @recorded reply _ _ _ _ hd _ =>
    exact ⟨by simp [Except.map], fun _ => ⟨reply, rfl, Transport.success_of_decode hd⟩,
      by simp [Except.map]⟩

variable {edit : List Rule → Bool × List Rule}

/-- The write of an edit carries what the edit made of its read and the version looked up after the
read. -/
theorem put_of_editRules {es before after : List Event} {request : Http.Request}
    {answer : Option Http.Reply} {r : Option (Except Halt Bool)}
    (h : (c.editRules scope target edit).Does es r)
    (hes : es = before ++ ⟨.send request, answer⟩ :: after) (hm : request.method = .put) :
    (∃ reply rules own told,
      ReadFor (target.ruleSetName c.accountId) edit before reply rules own told ∧
      request.Writes (target.ruleSetName c.accountId) (told.getD "") (edit rules).2) ∧
    (∀ ev ∈ before, ¬ev.IsPut) ∧ (∀ ev ∈ after, ev.request? = none) ∧ Reports answer r := by
  have hput : Event.IsPut ⟨.send request, answer⟩ := ⟨request, rfl, hm⟩
  rcases does_editRules h with ⟨r', hx, -⟩ | ⟨rules, rateLimit, xs, ys, rfl, hx, hy⟩
  · exact absurd hput (not_put_of_listRules hx _ (hes ▸ by simp))
  have hxs := not_put_of_listRules hx
  -- The write is not in the reading part, so it stands behind it.
  obtain ⟨before', rfl, rfl⟩ := (Event.append_eq_append_cons hes).resolve_left
    fun ⟨mid, hmid⟩ => hxs _ (by rw [hmid]; simp) hput
  rcases hy with ⟨-, hnil, -⟩ | ⟨hchanged, r', hy, rfl⟩
  · simp at hnil
  obtain ⟨told, prep, rfl, hprep, hwrites, hk, hafter⟩ :=
    (does_putRules hy).sent (fun _ _ _ => Kept.sends) rfl (by simp [hm])
  obtain ⟨asked, fetch, get, reply, now, own, rfl, hfetch, hreads, hd⟩ := does_listRules_ok hx
  refine ⟨⟨reply, rules, own, told, ⟨⟨asked, fetch, get, now, prep, by simp, ?_, hreads⟩,
    Transport.content?_of_decode hd, hchanged⟩, hwrites⟩, ?_, hafter, hk.reports⟩
  · intro ev hev
    rcases List.mem_append.1 hev with hev | hev
    · exact hfetch ev hev
    · exact hprep ev hev
  · intro ev hev hwrite
    rcases List.mem_append.1 hev with hev | hev
    -- Neither the read nor what prepares the write is a write.
    · exact hxs ev hev hwrite
    rcases List.mem_cons.1 hev with rfl | hev
    · exact Event.not_asks rfl hwrite.asks
    · exact (hprep ev hev).not_asks hwrite.asks

/-- An edit that has changed something has written it. -/
theorem put_of_editRules_true {es : List Event}
    (h : (c.editRules scope target edit).Does es (some (.ok true))) : ∃ ev ∈ es, ev.IsPut := by
  rcases does_editRules h with ⟨r', -, ⟨-, hr⟩ | ⟨e, -, hr⟩⟩ | ⟨rules, rateLimit, xs, ys, rfl, -, hy⟩
  · cases hr
  · cases hr
  rcases hy with ⟨-, -, hr⟩ | ⟨-, r', hy, hr⟩
  · cases hr
  obtain ⟨rateLimit', rfl⟩ : ∃ rateLimit', r' = some (.ok rateLimit') := by
    rcases r' with _ | _ | rateLimit'
    · cases hr
    · cases hr
    · exact ⟨rateLimit', rfl⟩
  rcases does_putRules hy with ⟨-, hno⟩ | ⟨told, rest, rfl, ⟨-, hno⟩ |
    ⟨request, us, vs, rfl, -, hwrites, hk⟩⟩
  · exact absurd rfl (hno _)
  · exact absurd rfl (hno _)
  · obtain ⟨answer, fs, rfl, -⟩ := hk.sends
    exact ⟨⟨.send request, answer⟩, by simp, request, rfl, hwrites.method⟩

/-- An edit that says that nothing has changed has written nothing. -/
theorem not_put_of_editRules_false {es : List Event}
    (h : (c.editRules scope target edit).Does es (some (.ok false))) : ∀ ev ∈ es, ¬ev.IsPut := by
  rcases does_editRules h with ⟨r', -, ⟨-, hr⟩ | ⟨e, -, hr⟩⟩ | ⟨rules, rateLimit, xs, ys, rfl, hx, hy⟩
  · cases hr
  · cases hr
  rcases hy with ⟨-, rfl, -⟩ | ⟨-, r', -, hr⟩
  · rw [List.append_nil]
    exact not_put_of_listRules hx
  · rcases r' with _ | _ | _ <;> cases hr

/-! ## Calls that take their full course -/

section Reaches
variable {url base : Url} {credential : Option Http.Credential}

/-- The client can send requests for rule sets in that scope. -/
structure Reaches (c : Client) (scope : Scope) (url base : Url) (credential : Option Http.Credential) :
    Prop where
  resolved : c.resolver.resolve .ruleSets scope = .ok url
  sendable : Transport.Sendable c.credentials scope url base credential

theorem Reaches.exchange_does {α : Type} (h : c.Reaches scope url base credential)
    (read : Json → Option α) (method : Http.Method) (body : Option Json) {name : String}
    (hn : name ≠ "") (etag : String) (reply : Http.Reply) (now : Instant) :
    (c.exchange read method scope (.ok url) body [.ruleSet name etag]).Does
      [⟨.send (Transport.requestTo base credential method body [.ruleSet name etag]), some reply⟩,
        ⟨.now, now⟩] (some (Transport.decode read now reply)) :=
  Call.does_ofExcept_bind.2 (.inr ⟨url, rfl, Transport.exchange_does h.sendable
    (by simp [Query.isEmpty, Query.ofTerms_ruleSet etag hn]) reply now⟩)

theorem Reaches.asks (h : c.Reaches scope url base credential) (method : Http.Method)
    (body : Option Json) {name : String} (hn : name ≠ "") (etag : String) :
    Transport.Asks method url body [.ruleSet name etag]
      (Transport.requestTo base credential method body [.ruleSet name etag]) :=
  ⟨rfl, rfl, _, h.sendable.prepareUrl (by simp [Query.isEmpty, Query.ofTerms_ruleSet etag hn]), rfl⟩

/-- The request of a read. -/
def readRequest (base : Url) (credential : Option Http.Credential) (name etag : String) : Http.Request :=
  Transport.requestTo base credential .get none [.ruleSet name etag]

/-- The request of a write. -/
def writeRequest (base : Url) (credential : Option Http.Credential) (name etag : String)
    (rules : List Rule) : Http.Request :=
  Transport.requestTo base credential .put (some (ruleSetToJson name etag rules)) [.ruleSet name etag]

theorem Reaches.reads (h : c.Reaches scope url base credential) {name : String} (hn : name ≠ "")
    (etag : String) : (readRequest base credential name etag).Reads name etag :=
  ⟨rfl, (h.asks .get none hn etag).ruleSet hn⟩

theorem Reaches.writes (h : c.Reaches scope url base credential) {name : String} (hn : name ≠ "")
    (etag : String) (rules : List Rule) :
    (writeRequest base credential name etag rules).Writes name etag rules :=
  ⟨rfl, (h.asks .put _ hn etag).ruleSet hn, rfl⟩

/-- The version is looked up, the request goes out, and the new version is recorded. -/
def exchangeEvents (name : String) (told : Option String) (request : Http.Request)
    (reply : Http.Reply) (now : Instant) (etag : String) : List Event :=
  [⟨.readEtag name, told⟩, ⟨.send request, some reply⟩, ⟨.now, now⟩, ⟨.writeEtag name etag, ()⟩]

theorem follows_exchangeEvents {m : Memory} {name : String} {told : Option String}
    (h : told = m.etags.get? name) (request : Http.Request) (reply : Http.Reply) (now : Instant)
    (etag : String) : m.Follows (exchangeEvents name told request reply now etag)
      { m with etags := m.etags.put name etag } :=
  .cons h (.cons trivial (.cons trivial (.cons trivial (.nil _))))

/-- A read whose reply can be read. -/
theorem Reaches.listRules_does (h : c.Reaches scope url base credential) (target : AccessTarget)
    (told : Option String) {reply : Http.Reply} {now : Instant} {rules : List Rule} {own : String}
    {rateLimit : Http.RateLimit}
    (hd : Transport.decode readRuleSet now reply = .ok ((rules, own), rateLimit)) :
    (c.listRules scope target).Does
      (exchangeEvents (target.ruleSetName c.accountId) told
        (readRequest base credential (target.ruleSetName c.accountId) (told.getD "")) reply now own)
      (some (.ok (rules, rateLimit))) := by
  have hex := h.exchange_does readRuleSet .get none
    (target.ruleSetName_ne_empty c.accountId) (told.getD "") reply now
  rw [hd] at hex
  refine Call.does_ofExcept_bind.2 (.inr ⟨url, h.resolved, ?_⟩)
  refine does_lastEtag_bind.2 (.inr ⟨told, _, rfl, ?_⟩)
  refine Call.does_bind.2 (.inr (.inr ⟨((rules, own), rateLimit), _, [_], rfl, hex, ?_⟩))
  exact Call.does_perform_bind.2 (.inr ⟨(), [], rfl, Call.does_pure.2 ⟨rfl, rfl⟩⟩)

/-- A write whose reply tells a new version. -/
theorem Reaches.putRules_does (h : c.Reaches scope url base credential) (target : AccessTarget)
    (rules : List Rule) (told : Option String) {reply : Http.Reply} {now : Instant}
    {written : List Rule} {etag : String} {rateLimit : Http.RateLimit}
    (hd : Transport.decode (Json.nullable? readRuleSet) now reply =
      .ok (some (written, etag), rateLimit)) (he : etag ≠ "") :
    (c.putRules scope target rules).Does
      (exchangeEvents (target.ruleSetName c.accountId) told
        (writeRequest base credential (target.ruleSetName c.accountId) (told.getD "") rules) reply now
        etag)
      (some (.ok rateLimit)) := by
  have hex := h.exchange_does (Json.nullable? readRuleSet) .put
    (some (ruleSetToJson (target.ruleSetName c.accountId) (told.getD "") rules))
    (target.ruleSetName_ne_empty c.accountId) (told.getD "") reply now
  rw [hd] at hex
  refine Call.does_ofExcept_bind.2 (.inr ⟨url, h.resolved, ?_⟩)
  refine does_lastEtag_bind.2 (.inr ⟨told, _, rfl, ?_⟩)
  refine Call.does_bind.2 (.inr (.inr ⟨(some (written, etag), rateLimit), _, [_], rfl, hex, ?_⟩))
  simp only [ne_eq, he, not_false_eq_true, if_true]
  exact Call.does_perform_bind.2 (.inr ⟨(), [], rfl, Call.does_pure.2 ⟨rfl, rfl⟩⟩)

/-- A write that fails. -/
theorem Reaches.putRules_fails (h : c.Reaches scope url base credential) (target : AccessTarget)
    (rules : List Rule) (told : Option String) {reply : Http.Reply} {now : Instant} {e : Halt}
    (hd : Transport.decode (Json.nullable? readRuleSet) now reply = .error e) :
    (c.putRules scope target rules).Does
      [⟨.readEtag (target.ruleSetName c.accountId), told⟩,
        ⟨.send (writeRequest base credential (target.ruleSetName c.accountId) (told.getD "") rules),
          some reply⟩, ⟨.now, now⟩] (some (.error e)) := by
  have hex := h.exchange_does (Json.nullable? readRuleSet) .put
    (some (ruleSetToJson (target.ruleSetName c.accountId) (told.getD "") rules))
    (target.ruleSetName_ne_empty c.accountId) (told.getD "") reply now
  rw [hd] at hex
  refine Call.does_ofExcept_bind.2 (.inr ⟨url, h.resolved, ?_⟩)
  refine does_lastEtag_bind.2 (.inr ⟨told, _, rfl, ?_⟩)
  exact Call.does_bind.2 (.inr (.inl ⟨e, hex, rfl⟩))

/-- An edit that changes something goes on from its read to its write. -/
theorem editRules_does {xs ys : List Event} {rules : List Rule} {rateLimit : Http.RateLimit}
    {r : Option (Except Halt Http.RateLimit)}
    (hx : (c.listRules scope target).Does xs (some (.ok (rules, rateLimit))))
    (hedit : (edit rules).1 = true) (hy : (c.putRules scope target (edit rules).2).Does ys r) :
    (c.editRules scope target edit).Does (xs ++ ys) (r.map (·.map fun _ => true)) := by
  refine Call.does_bind.2 (.inr (.inr ⟨(rules, rateLimit), xs, ys, rfl, hx, ?_⟩))
  dsimp only
  generalize edit rules = edited at hedit hy ⊢
  obtain ⟨changed, rules'⟩ := edited
  cases hedit
  rcases r with _ | e | rateLimit'
  · exact Call.does_bind.2 (.inl ⟨hy, rfl⟩)
  · exact Call.does_bind.2 (.inr (.inl ⟨e, hy, rfl⟩))
  · exact Call.does_bind.2 (.inr (.inr ⟨rateLimit', ys, [], by simp, hy, Call.does_pure.2 ⟨rfl, rfl⟩⟩))

end Reaches

/-- The client of an account without credentials. -/
def plain : Client := ⟨⟨"a", ⟨['h', 't', 't', 'p'], some ⟨[], [], .name ['h'], none⟩, false,
  .segments [[]], none, none⟩, .subdomain ""⟩, .anonymous⟩

/-- Where it finds rule sets. -/
def plainUrl : Url := ⟨['h', 't', 't', 'p'], some ⟨[], [], .name ['h'], none⟩, false,
  .segments (["api", "2.0", "preview", "accounts", "a", "access-control", "rule-sets"].map (·.toList)),
  none, none⟩

/-- Faults cannot be compared, so a URL is found by leaving them out. -/
theorem ok_of_toOption {ε : Type} {x : Except ε Url} {url : Url} (h : x.toOption = some url) : x = .ok url := by
  cases x with
  | error => cases h
  | ok => cases h; rfl

theorem plain_reaches : plain.Reaches .account plainUrl plainUrl none := by
  refine ⟨ok_of_toOption ?_, rfl, ok_of_toOption ?_, ?_, ?_⟩ <;> decide +kernel

end Client

end AccessSync
