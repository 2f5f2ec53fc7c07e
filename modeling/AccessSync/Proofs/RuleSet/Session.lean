import AccessSync.Proofs.Client.Calls
/-!
# The versions that a session sends

A session is any sequence of calls of a new client, one after another, with whatever the API and the
issuer reply. Main statement: every request for a rule set names the version that the latest reply
for this very rule set told (`etag_of_history`). Replies that could not be read, calls that have
nothing to do with rule sets and calls on other targets play no part.
-/

namespace AccessSync

/-! ## What replies tell -/

/-- The version that a reply told, given the event of the request and the one that follows. A read
tells the version of its reply, which is empty if the reply names none; a write tells one only if its
reply names one. -/
def Event.told? : Event → Event → Option String
  | ⟨.send request, some reply⟩, ⟨.now, now⟩ =>
    match request.method with
    | .get => (Transport.decode Client.readRuleSet now reply).toOption.map (·.1.2)
    | .put => (Transport.decode (Json.nullable? Client.readRuleSet) now reply).toOption.bind
        fun x => Client.newEtag x.1
    | _ => none
  | _, _ => none

/-- The versions that the replies told, in their order. -/
def versions : List Event → List String
  | [] => []
  | [_] => []
  | first :: second :: es => (first.told? second).toList ++ versions (second :: es)

theorem Event.told?_eq_none {ev : Event} (h : ¬ev.Asks) (next : Event) : ev.told? next = none := by
  unfold told?
  split
  · rename_i request _ _
    have hm : request.method = .post := by
      by_contra hm
      exact h ⟨request, rfl, hm⟩
    rw [hm]
  · rfl

theorem versions_cons {ev : Event} (h : ¬ev.Asks) (es : List Event) :
    versions (ev :: es) = versions es := by
  cases es with
  | nil => rfl
  | cons next es =>
    rw [versions, Event.told?_eq_none h]
    rfl

theorem versions_reply (request : Http.Request) (reply : Http.Reply) (now : Instant) (es : List Event) :
    versions (⟨.send request, some reply⟩ :: ⟨.now, now⟩ :: es) =
      (Event.told? ⟨.send request, some reply⟩ ⟨.now, now⟩).toList ++ versions es := by
  rw [versions, versions_cons (Event.not_asks rfl)]

theorem versions_append {xs : List Event} (h : ∀ ev ∈ xs, ¬ev.Asks) (ys : List Event) :
    versions (xs ++ ys) = versions ys := by
  induction xs with
  | nil => rfl
  | cons ev xs ih =>
    rw [List.cons_append, versions_cons (h ev (by simp)), ih fun ev hev => h ev (by simp [hev])]

/-- No reply stands across an event that asks for nothing. -/
theorem versions_append_cons {ev : Event} (h : ¬ev.Asks) (xs ys : List Event) :
    versions (xs ++ ev :: ys) = versions (xs ++ [ev]) ++ versions ys := by
  induction xs with
  | nil => exact versions_cons h ys
  | cons x xs ih =>
    cases xs with
    | nil =>
      -- A reply of the last event is told with `ev`, which stands in both sides.
      rw [List.cons_append, List.nil_append, versions, versions_cons h]
      simp [versions]
    | cons y xs =>
      simp only [List.cons_append, versions] at ih ⊢
      rw [ih, List.append_assoc]

theorem versions_concat_readEtag (xs : List Event) (name : String) (told : Option String) :
    versions (xs ++ [⟨.readEtag name, told⟩]) = versions xs := by
  have hnone : ∀ ev : Event, ev.told? ⟨.readEtag name, told⟩ = none := by
    rintro ⟨e, answer⟩
    unfold Event.told?
    split
    · rename_i heq
      cases heq
    · rfl
  induction xs with
  | nil => rfl
  | cons x xs ih =>
    cases xs with
    | nil =>
      show (x.told? _).toList ++ versions [_] = []
      rw [hnone]
      rfl
    | cons y xs =>
      simp only [List.cons_append, versions] at ih ⊢
      rw [ih]

/-! ## What calls record -/

/-- For that rule set the events record what the replies tell, and for others nothing. -/
structure Records (name : String) (es : List Event) : Prop where
  own : es.filterMap (·.recorded? name) = versions es
  other : ∀ name', name' ≠ name → es.filterMap (·.recorded? name') = []

namespace Records

theorem quiet_append {name : String} {xs ys : List Event}
    (hx : ∀ ev ∈ xs, ev.RecordsNothing ∧ ¬ev.Asks) (hy : Records name ys) : Records name (xs ++ ys) := by
  have hnone : ∀ name', xs.filterMap (·.recorded? name') = [] := fun name' =>
    List.filterMap_eq_nil_iff.2 fun ev hev => (hx ev hev).1 name'
  refine ⟨?_, fun name' hne => ?_⟩
  · rw [List.filterMap_append, hnone, versions_append fun ev hev => (hx ev hev).2]
    exact hy.own
  · rw [List.filterMap_append, hnone]
    exact hy.other name' hne

theorem nil (name : String) : Records name [] := ⟨rfl, fun _ _ => rfl⟩

theorem append {name : String} (xs : List Event) {ys : List Event} {ev : Event} (hev : ¬ev.Asks)
    (hx : Records name (xs ++ [ev])) (hy : Records name ys) : Records name (xs ++ ev :: ys) := by
  refine ⟨?_, fun name' hne => ?_⟩
  · rw [versions_append_cons hev, ← hx.own, ← hy.own, ← List.filterMap_append, List.append_assoc]
    rfl
  · rw [List.append_cons, List.filterMap_append, hx.other name' hne, hy.other name' hne]
    rfl

end Records

/-- Looking up a version and what comes before a request neither record nor ask anything. -/
theorem quiet_of_lookup {name : String} {told : Option String} {prep : List Event}
    (h : ∀ ev ∈ prep, ev.Prepares) :
    ∀ ev ∈ (⟨.readEtag name, told⟩ : Event) :: prep, ev.RecordsNothing ∧ ¬ev.Asks := by
  intro ev hev
  rcases List.mem_cons.1 hev with rfl | hev
  · exact ⟨fun _ => rfl, Event.not_asks rfl⟩
  · exact ⟨Event.recorded?_eq_none (h ev hev).1, (h ev hev).not_asks⟩

namespace Client

section Kept
variable {α β : Type} {read : Json → Option α} {version? : α → Option String}
  {value : α × Http.RateLimit → β} {name : String} {request : Http.Request} {es : List Event}
  {result : Except Halt β}

/-- A course that has come to its end has recorded what its reply told. -/
theorem Kept.records
    (ht : ∀ reply now, Event.told? ⟨.send request, some reply⟩ ⟨.now, now⟩ =
      (Transport.decode read now reply).toOption.bind fun x => version? x.1)
    (h : Kept read version? value name request es (some result)) : Records name es := by
  cases h with
  | lost => exact ⟨rfl, fun _ _ => rfl⟩
  | failed hd =>
    refine ⟨?_, fun _ _ => rfl⟩
    rw [versions_reply, ht, hd]
    rfl
  | silent hd hv =>
    refine ⟨?_, fun _ _ => rfl⟩
    rw [versions_reply, ht, hd, Except.toOption, Option.bind_some, hv]
    rfl
  | recorded hd hv =>
    refine ⟨?_, fun name' hne => ?_⟩
    · rw [versions_reply, ht, hd, Except.toOption, Option.bind_some, hv]
      simp [versions, Event.recorded?]
    · simp [Event.recorded?, hne.symm]

theorem Versioned.records {Request : String → Http.Request → Prop}
    (ht : ∀ etag request reply now, Request etag request →
      Event.told? ⟨.send request, some reply⟩ ⟨.now, now⟩ =
        (Transport.decode read now reply).toOption.bind fun x => version? x.1)
    (h : Versioned name Request (Kept read version? value name) es (some result)) :
    Records name es := by
  rcases h with ⟨rfl, -⟩ | ⟨told, rest, rfl, ⟨hprep, -⟩ | ⟨request, xs, ys, rfl, hprep, hreq, hk⟩⟩
  · exact .nil name
  · rw [← List.append_nil (_ :: rest)]
    exact .quiet_append (quiet_of_lookup hprep) (.nil name)
  · rw [← List.cons_append]
    exact .quiet_append (quiet_of_lookup hprep) (hk.records fun reply now => ht _ _ _ _ hreq)

end Kept

variable {c : Client} {scope : Scope} {target : AccessTarget}

theorem records_of_listRules {es : List Event} {result : Except Halt (List Rule × Http.RateLimit)}
    (h : (c.listRules scope target).Does es (some result)) :
    Records (target.ruleSetName c.accountId) es :=
  (does_listRules h).records <| by
    intro etag request reply now hreads
    rw [Event.told?, hreads.method]
    cases Transport.decode readRuleSet now reply <;> rfl

theorem records_of_putRules {rules : List Rule} {es : List Event} {result : Except Halt Http.RateLimit}
    (h : (c.putRules scope target rules).Does es (some result)) :
    Records (target.ruleSetName c.accountId) es :=
  (does_putRules h).records <| by
    intro etag request reply now hwrites
    rw [Event.told?, hwrites.method]

theorem records_of_editRules {edit : List Rule → Bool × List Rule} {es : List Event}
    {result : Except Halt Bool} (h : (c.editRules scope target edit).Does es (some result)) :
    Records (target.ruleSetName c.accountId) es := by
  rcases does_editRules h with ⟨r', hx, ⟨-, hr⟩ | ⟨e, rfl, -⟩⟩ |
    ⟨rules, rateLimit, xs, ys, rfl, hx, hy⟩
  · cases hr
  · exact records_of_listRules hx
  have hrecords := records_of_listRules hx
  obtain ⟨told, prep, request, reply, now, own, rfl, -⟩ := does_listRules_ok hx
  rcases hy with ⟨-, rfl, -⟩ | ⟨-, r', hy, hr⟩
  · rwa [List.append_nil]
  · obtain ⟨result', rfl, -⟩ := Option.map_eq_some_iff.1 hr.symm
    -- The read ends with recording a version, so no reply stands across the seam.
    have hlast : ¬Event.Asks ⟨.writeEtag (target.ruleSetName c.accountId) own, ()⟩ :=
      Event.not_asks rfl
    have := Records.append (_ :: prep ++ [⟨.send request, some reply⟩, ⟨.now, now⟩]) hlast
      (by simpa using hrecords) (records_of_putRules hy)
    simpa using this

/-! ## Requests for rule sets -/

/-- The request names the version that was looked up, and all that was done before this belongs to
parts that have come to their end. -/
def SendsLookedUp (name : String) (before : List Event) (request : Http.Request) : Prop :=
  ∃ xs told prep, before = xs ++ ⟨.readEtag name, told⟩ :: prep ∧ Records name xs ∧
    (∀ ev ∈ prep, ev.Prepares) ∧
    (request.Reads name (told.getD "") ∨ ∃ rules, request.Writes name (told.getD "") rules)

variable {before after : List Event} {request : Http.Request} {answer : Option Http.Reply}

theorem sent_of_listRules {r : Option (Except Halt (List Rule × Http.RateLimit))}
    (h : (c.listRules scope target).Does (before ++ ⟨.send request, answer⟩ :: after) r)
    (hm : request.method ≠ .post) :
    SendsLookedUp (target.ruleSetName c.accountId) before request := by
  obtain ⟨told, prep, rfl, hprep, hreads, -⟩ :=
    (does_listRules h).sent (fun _ _ _ => Kept.sends) rfl hm
  exact ⟨[], told, prep, rfl, .nil _, hprep, .inl hreads⟩

theorem sent_of_putRules {rules : List Rule} {r : Option (Except Halt Http.RateLimit)}
    (h : (c.putRules scope target rules).Does (before ++ ⟨.send request, answer⟩ :: after) r)
    (hm : request.method ≠ .post) :
    SendsLookedUp (target.ruleSetName c.accountId) before request := by
  obtain ⟨told, prep, rfl, hprep, hwrites, -⟩ :=
    (does_putRules h).sent (fun _ _ _ => Kept.sends) rfl hm
  exact ⟨[], told, prep, rfl, .nil _, hprep, .inr ⟨rules, hwrites⟩⟩

theorem sent_of_editRules {edit : List Rule → Bool × List Rule} {r : Option (Except Halt Bool)}
    (h : (c.editRules scope target edit).Does (before ++ ⟨.send request, answer⟩ :: after) r)
    (hm : request.method ≠ .post) :
    SendsLookedUp (target.ruleSetName c.accountId) before request := by
  rcases does_editRules h with ⟨r', hx, -⟩ | ⟨rules, rateLimit, xs, ys, hes, hx, hy⟩
  · exact sent_of_listRules hx hm
  rcases Event.append_eq_append_cons hes.symm with ⟨mid, rfl⟩ | ⟨mid, rfl, rfl⟩
  · exact sent_of_listRules hx hm
  -- The request comes after the whole read.
  rcases hy with ⟨-, hnil, -⟩ | ⟨-, r', hy, -⟩
  · simp at hnil
  obtain ⟨told, prep, rfl, hprep, hwrites, -⟩ :=
    (does_putRules hy).sent (fun _ _ _ => Kept.sends) rfl hm
  exact ⟨xs, told, prep, rfl, records_of_listRules hx, hprep, .inr ⟨_, hwrites⟩⟩

end Client

namespace RuleCall

variable {c : Client} {call : RuleCall}

/-- A call on a rule set records the versions that its replies tell. -/
theorem records {es : List Event} {result : Except Halt Unit}
    (h : (call.call c).Does es (some result)) : Records (call.target.ruleSetName c.accountId) es := by
  cases call with
  | list scope target =>
    obtain ⟨r, hd, hr⟩ := Call.does_forget.1 h
    obtain ⟨result', rfl, -⟩ := Option.map_eq_some_iff.1 hr.symm
    exact Client.records_of_listRules hd
  | put scope target rules =>
    obtain ⟨r, hd, hr⟩ := Call.does_forget.1 h
    obtain ⟨result', rfl, -⟩ := Option.map_eq_some_iff.1 hr.symm
    exact Client.records_of_putRules hd
  | edit scope target change =>
    obtain ⟨r, hd, hr⟩ := Call.does_forget.1 h
    obtain ⟨result', rfl, -⟩ := Option.map_eq_some_iff.1 hr.symm
    rw [Change.call_eq] at hd
    exact Client.records_of_editRules hd

/-- What a call on a rule set asks of the API names the version that was looked up. -/
theorem sent {before after : List Event} {request : Http.Request} {answer : Option Http.Reply}
    {r : Option (Except Halt Unit)}
    (h : (call.call c).Does (before ++ ⟨.send request, answer⟩ :: after) r)
    (hm : request.method ≠ .post) :
    Client.SendsLookedUp (call.target.ruleSetName c.accountId) before request := by
  cases call with
  | list scope target =>
    obtain ⟨r, hd, -⟩ := Call.does_forget.1 h
    exact Client.sent_of_listRules hd hm
  | put scope target rules =>
    obtain ⟨r, hd, -⟩ := Call.does_forget.1 h
    exact Client.sent_of_putRules hd hm
  | edit scope target change =>
    obtain ⟨r, hd, -⟩ := Call.does_forget.1 h
    rw [Change.call_eq] at hd
    exact Client.sent_of_editRules hd hm

end RuleCall

/-! ## Sessions -/

/-- A call that has come to its end, and what it did. -/
structure Session.Turn where
  call : ClientCall
  events : List Event

/-- Calls of a new client, one after another, and what it remembers after them. -/
inductive Session (c : Client) : List Session.Turn → Memory → Prop
  | start : Session c [] .fresh
  | turn {turns : List Session.Turn} {m m' : Memory} (call : ClientCall) {es : List Event}
      {result : Except Halt Unit} : Session c turns m → (call.call c).Does es (some result) →
      m.Follows es m' → Session c (turns ++ [⟨call, es⟩]) m'

/-- The versions that were told in the turns on that target. -/
def toldOf (target : AccessTarget) (turns : List Session.Turn) : List String :=
  (turns.filter (·.call.target? = some target)).flatMap (versions ·.events)

theorem toldOf_append (target : AccessTarget) (turns : List Session.Turn) (turn : Session.Turn) :
    toldOf target (turns ++ [turn]) =
      toldOf target turns ++ if turn.call.target? = some target then versions turn.events else [] := by
  rw [toldOf, List.filter_append, List.flatMap_append, toldOf]
  congr 1
  by_cases h : turn.call.target? = some target <;> simp [h]

/-- What a turn records for a target. -/
theorem recorded_of_turn {c : Client} {call : ClientCall} {es : List Event} {result : Except Halt Unit}
    (h : (call.call c).Does es (some result)) (target : AccessTarget) :
    es.filterMap (·.recorded? (target.ruleSetName c.accountId)) =
      if call.target? = some target then versions es else [] := by
  split_ifs with ht
  · cases call with
    | rules call =>
      cases ht
      exact (RuleCall.records h).own
    | _ => cases ht
  · by_cases hnone : call.target? = none
    · exact List.filterMap_eq_nil_iff.2 fun ev hev =>
        ClientCall.records_nothing c hnone es _ h ev hev _
    · cases call with
      | rules call =>
        refine (RuleCall.records h).other _ fun heq => ht ?_
        rw [AccessTarget.ruleSetName_injective c.accountId heq]
        rfl
      | _ => exact absurd rfl hnone

/-- A client remembers of a target what the latest turn on it was told. -/
theorem Session.etags {c : Client} {turns : List Session.Turn} {m : Memory} (h : Session c turns m)
    (target : AccessTarget) :
    m.etags.get? (target.ruleSetName c.accountId) = (toldOf target turns).getLast? := by
  induction h with
  | start => exact Store.get?_empty _
  | turn call hs hd hf ih =>
    rw [hf.etags, ih, Memory.lastRecorded, recorded_of_turn hd, toldOf_append, List.getLast?_append]

/-- The version that the latest reply for the target told, in earlier turns or in the present one;
empty if there was none. -/
def latestEtag (target : AccessTarget) (turns : List Session.Turn) (present : List Event) : String :=
  (toldOf target turns ++ versions present).getLast?.getD ""

/-- Every request for a rule set names the version that the latest reply for its target told, and no
other target has a rule set of that name. -/
theorem etag_of_history {c : Client} {turns : List Session.Turn} {m m' : Memory} {call : RuleCall}
    {before after : List Event} {request : Http.Request} {answer : Option Http.Reply}
    {r : Option (Except Halt Unit)} (hs : Session c turns m)
    (hd : (call.call c).Does (before ++ ⟨.send request, answer⟩ :: after) r)
    (hf : m.Follows (before ++ ⟨.send request, answer⟩ :: after) m') (hm : request.method ≠ .post) :
    (request.Reads (call.target.ruleSetName c.accountId) (latestEtag call.target turns before) ∨
      ∃ rules, request.Writes (call.target.ruleSetName c.accountId)
        (latestEtag call.target turns before) rules) ∧
    ∀ target, target ≠ call.target →
      target.ruleSetName c.accountId ≠ call.target.ruleSetName c.accountId := by
  refine ⟨?_, fun target hne h => hne (AccessTarget.ruleSetName_injective c.accountId h)⟩
  obtain ⟨xs, told, prep, rfl, hrecords, hprep, hreq⟩ := RuleCall.sent hd hm
  -- What was looked up is what had been recorded by then.
  obtain ⟨k, hxs, hrest⟩ := Memory.follows_append.1 (List.append_assoc _ _ _ ▸ hf)
  have htold : told = k.etags.get? (call.target.ruleSetName c.accountId) := by
    cases hrest with
    | cons ht _ => exact ht
  rw [hxs.etags, hs.etags, Memory.lastRecorded, hrecords.own] at htold
  have hpresent : versions (xs ++ ⟨.readEtag (call.target.ruleSetName c.accountId), told⟩ :: prep) =
      versions xs := by
    have hquiet := versions_append (fun ev hev => (hprep ev hev).not_asks) []
    rw [List.append_nil] at hquiet
    rw [versions_append_cons (Event.not_asks rfl), versions_concat_readEtag, hquiet]
    exact List.append_nil _
  have hlatest : told.getD "" = latestEtag call.target turns
      (xs ++ ⟨.readEtag (call.target.ruleSetName c.accountId), told⟩ :: prep) := by
    rw [latestEtag, hpresent, List.getLast?_append, ← htold]
  rwa [hlatest] at hreq

/-- The account's rules and those of a group without id are read; what is written to the account then
names the version of the first reply. -/
theorem etag_of_history_after_reads : ∃ turns m m' before after request answer r,
    Session Client.plain turns m ∧
    ((RuleCall.put .account .account []).call Client.plain).Does
      (before ++ ⟨.send request, answer⟩ :: after) r ∧
    m.Follows (before ++ ⟨.send request, answer⟩ :: after) m' ∧ request.method ≠ .post ∧
    latestEtag .account turns before = "1" ∧
    (request.Reads (AccessTarget.account.ruleSetName "a") (latestEtag .account turns before) ∨
      ∃ rules, request.Writes (AccessTarget.account.ruleSetName "a")
        (latestEtag .account turns before) rules) := by
  have hone : (Transport.readBody (Utf8.encode "\x7b\"etag\":\"1\"\x7d".toList)).bind Client.readRuleSet =
      some ([], "1") := by decide +kernel
  have htwo : (Transport.readBody (Utf8.encode "\x7b\"etag\":\"2\"\x7d".toList)).bind Client.readRuleSet =
      some ([], "2") := by decide +kernel
  have hthree : (Transport.readBody (Utf8.encode "\x7b\"etag\":\"3\"\x7d".toList)).bind
      (Json.nullable? Client.readRuleSet) = some (some ([], "3")) := by decide +kernel
  have hfirst := Client.plain_reaches.listRules_does .account none
    (Transport.decode_replyOf hone ⟨0⟩)
  have hsecond := Client.plain_reaches.listRules_does (.principal .group "") none
    (Transport.decode_replyOf htwo ⟨0⟩)
  have hthird := Client.plain_reaches.putRules_does .account [] (some "1")
    (Transport.decode_replyOf hthree ⟨0⟩) (by decide)
  have hs := Session.turn (.rules (.list .account (.principal .group "")))
    (Session.turn (.rules (.list .account .account)) .start (Call.does_forget.2 ⟨_, hfirst, rfl⟩)
      (Client.follows_exchangeEvents rfl _ _ _ _))
    (Call.does_forget.2 ⟨_, hsecond, rfl⟩) (Client.follows_exchangeEvents (by decide +kernel) _ _ _ _)
  have hd : ((RuleCall.put .account .account []).call Client.plain).Does ([_] ++ _ :: _) _ :=
    Call.does_forget.2 ⟨_, hthird, rfl⟩
  have htold : some "1" = ((Memory.fresh.etags.put (AccessTarget.account.ruleSetName "a") "1").put
      ((AccessTarget.principal .group "").ruleSetName "a") "2").get?
      (AccessTarget.account.ruleSetName "a") := by decide +kernel
  have hf := Client.follows_exchangeEvents (m := { Memory.fresh with etags := _ }) htold
  have hm : (Client.writeRequest Client.plainUrl none
      (AccessTarget.account.ruleSetName Client.plain.accountId) "1" []).method ≠ .post := by decide
  exact ⟨_, _, _, [_], _, _, _, _, hs, hd, hf _ _ _ _, hm, by decide +kernel,
    (etag_of_history hs hd (hf _ _ _ _) hm).1⟩

end AccessSync
