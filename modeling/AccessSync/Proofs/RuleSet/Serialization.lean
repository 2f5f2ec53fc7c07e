import AccessSync.Proofs.RuleSet.Sharing
import Mathlib.Data.List.Nodup
/-!
# Changes are made one after another

Clients that each do one change at a time meet at a keeper, in any interleaving of their requests.
Main statement: `accepted_changes_serialize`. What the keeper holds is what the accepted changes make
of the rules at the beginning, one after another in the order of their writes; a change that says it
was made is one of them, and one that says it changed nothing or met a conflict is not.

Two facts carry the proof. The version that a write names is that of its own read, as no other call of
its client comes between (`ofClient_between`). And whatever rules were read in the present version are
still the present ones, as a version never comes back (`Consistent`).
-/

namespace AccessSync

open Pool

/-! ## The order of accepted writes -/

/-- A write that was not refused. -/
def Event.isAccepted : Event → Bool
  | ⟨.send request, answer⟩ =>
    request.method = .put && !answer.any fun reply => reply.status = .conflict
  | _ => false

/-- Whose writes were accepted, in their order. -/
def accepted {ι : Type} (es : List (ι × Event)) : List ι := (es.filter (·.2.isAccepted)).map (·.1)

theorem Event.isPut_of_isAccepted {ev : Event} (h : ev.isAccepted = true) : ev.IsPut := by
  obtain ⟨e, answer⟩ := ev
  cases e with
  | send request =>
    simp only [isAccepted, Bool.and_eq_true, decide_eq_true_eq] at h
    exact ⟨request, rfl, h.1⟩
  | _ => cases h

theorem Event.isAccepted_send {request : Http.Request} {answer : Option Http.Reply}
    (hm : request.method = .put) : Event.isAccepted ⟨.send request, answer⟩ = true ↔
      ∀ reply, answer = some reply → reply.status ≠ .conflict := by
  cases answer <;> simp [isAccepted, hm]

theorem accepted_concat {ι : Type} (es : List (ι × Event)) (i : ι) (ev : Event) :
    accepted (es ++ [(i, ev)]) = accepted es ++ if ev.isAccepted then [i] else [] := by
  rw [accepted, accepted, List.filter_append, List.map_append]
  congr 1
  cases h : ev.isAccepted <;> simp [h]

theorem mem_accepted {ι : Type} [DecidableEq ι] {es : List (ι × Event)} {i : ι} :
    i ∈ accepted es ↔ ∃ ev ∈ own i es, ev.isAccepted = true := by
  simp only [accepted, List.mem_map, List.mem_filter, mem_own, Prod.exists]
  constructor
  · rintro ⟨j, ev, ⟨hev, ha⟩, rfl⟩
    exact ⟨ev, hev, ha⟩
  · rintro ⟨ev, hev, ha⟩
    exact ⟨i, ev, ⟨hev, ha⟩, rfl⟩

/-! ## One step of a keeper -/

/-- A keeper changes only when it accepts a write, which then names the present version. -/
theorem Keeper.serves_write {request : Http.Request} {answer : Option Http.Reply} {k k' : Keeper}
    (h : Keeper.Serves request answer k k') {name etag : String} {rules : List Rule}
    (hw : request.Writes name etag rules) :
    (Event.isAccepted ⟨.send request, answer⟩ = true ∧ etag = k.etag name ∧
      ∃ fresh, k' = k.replace name rules fresh) ∨
    (Event.isAccepted ⟨.send request, answer⟩ = false ∧ k' = k) := by
  cases h with
  | read hreads => exact absurd hw hreads.not_writes
  | accept hwrites _ _ hanswer =>
    obtain ⟨rfl, rfl, rfl⟩ := hw.eq hwrites
    exact .inl ⟨(Event.isAccepted_send hw.method).2 hanswer, rfl, _, rfl⟩
  | refuse hwrites _ hconflict =>
    refine .inr ⟨?_, rfl⟩
    rw [← Bool.not_eq_true, Event.isAccepted_send hw.method]
    exact fun hn => hn _ rfl hconflict
  | other _ hn => exact absurd hw (hn _ _ _)

theorem Keeper.meets_of_not_put {ev : Event} {k k' : Keeper} (h : Meets Keeper.Serves ev k k')
    (hput : ¬ev.IsPut) : k' = k ∧ ev.isAccepted = false := by
  have ha : ev.isAccepted = false := by
    rw [← Bool.not_eq_true]
    exact fun ha => hput (Event.isPut_of_isAccepted ha)
  refine ⟨?_, ha⟩
  obtain ⟨e, answer⟩ := ev
  cases e with
  | send request =>
    cases h with
    | accept hwrites => exact absurd ⟨request, rfl, hwrites.method⟩ hput
    | _ => rfl
  | _ => exact h

/-- Every version that was read is one that the rule set has had, and if it is the present one, so are
the rules that were read with it. -/
def Consistent {ι : Type} (k : Keeper) (es : List (ι × Event)) : Prop :=
  ∀ i request reply name asked rules own, (i, ⟨.send request, some reply⟩) ∈ es →
    request.Reads name asked → Transport.content? Client.readRuleSet reply = some (rules, own) →
    own ∈ k.used name ∧ (own = k.etag name → rules = k.rules name)

theorem Consistent.step {ι : Type} {k k' : Keeper} {es : List (ι × Event)} (h : Consistent k es) (i : ι)
    {ev : Event} (hm : Meets Keeper.Serves ev k k') : Consistent k' (es ++ [(i, ev)]) := by
  intro j request reply name asked rules own hmem hreads hfound
  rcases List.mem_append.1 hmem with hmem | hmem
  · obtain ⟨hused, hpresent⟩ := h j request reply name asked rules own hmem hreads hfound
    obtain ⟨e, answer⟩ := ev
    cases e with
    | send sent =>
      cases hm with
      | @accept _ name' fresh _ _ _ _ _ hfresh _ =>
        by_cases hname : name = name'
        · -- A version that was read before is not the fresh one.
          subst hname
          rw [Keeper.used_replace, Keeper.etag_replace]
          refine ⟨List.mem_cons_of_mem _ hused, ?_⟩
          rintro rfl
          exact absurd hused hfresh
        · rw [Keeper.used_replace_of_ne _ _ _ hname, Keeper.etag_replace_of_ne _ _ _ hname,
            Keeper.rules_replace_of_ne _ _ _ hname]
          exact ⟨hused, hpresent⟩
      | _ => exact ⟨hused, hpresent⟩
    | _ => cases hm; exact ⟨hused, hpresent⟩
  · rw [List.mem_singleton] at hmem
    cases hmem
    cases hm with
    | read hreads' hanswer =>
      obtain rfl := hreads.name_eq hreads'
      have hfound' := hanswer reply rfl
      rw [hfound] at hfound'
      cases hfound'
      exact ⟨Keeper.etag_used _ _, fun _ => rfl⟩
    | accept hwrites => exact absurd hwrites hreads.not_writes
    | refuse hwrites => exact absurd hwrites hreads.not_writes
    | other hn => exact absurd hreads (hn _ _)

/-! ## Runs -/

/-- A change of the rules of one target. -/
structure TargetChange where
  scope : Scope
  target : AccessTarget
  change : Change

namespace TargetChange

def call (c : Client) (t : TargetChange) : Call Bool := t.change.call c t.scope t.target

/-- The rule set that is changed. -/
def ruleSet (c : Client) (t : TargetChange) : String := t.target.ruleSetName c.accountId

end TargetChange

section Clients
variable {ι κ : Type} [DecidableEq ι] [DecidableEq κ] {home : ι → κ} {clients : κ → Client}
  {changes : ι → TargetChange} {memory : κ → Memory} {keeper : Keeper} {es : List (ι × Event)}
  {st : Stage ι κ Keeper (Except Halt Bool)}

/-- The changes of the clients before their first step. -/
abbrev startOf (home : ι → κ) (clients : κ → Client) (changes : ι → TargetChange)
    (memory : κ → Memory) (keeper : Keeper) : Stage ι κ Keeper (Except Halt Bool) :=
  .ofCalls (fun i => (changes i).call (clients (home i))) memory keeper

theorem consistent_of_run (h : Run home Keeper.Serves (startOf home clients changes memory keeper) es st) :
    Consistent st.peer es := by
  induction h with
  | start => exact fun _ _ _ _ _ _ _ hmem => by cases hmem
  | step i answer _ _ _ hm ih => exact ih.step i hm

/-- What a write carries when the client does one change at a time: the change made of rules that were
read before, and the version that was read with them. -/
theorem write_of_run (h : Run home Keeper.Serves (startOf home clients changes memory keeper) es st)
    (hone : OneAtATime home (startOf home clients changes memory keeper) es) {i : ι}
    {before after : List (ι × Event)} {request : Http.Request} {answer : Option Http.Reply}
    (hes : es = before ++ (i, ⟨.send request, answer⟩) :: after) (hm : request.method = .put) :
    (∃ get asked reply rules own, (i, ⟨.send get, some reply⟩) ∈ before ∧
      get.Reads ((changes i).ruleSet (clients (home i))) asked ∧
      Transport.content? Client.readRuleSet reply = some (rules, own) ∧
      request.Writes ((changes i).ruleSet (clients (home i))) own ((changes i).change.edit rules).2) ∧
    (∀ ev ∈ own i before, ¬ev.IsPut) ∧ Client.Reports answer (st.left i).result? := by
  subst hes
  have hdoes := h.call_does i
  rw [own_append, own_cons_self, TargetChange.call, Change.call_eq] at hdoes
  obtain ⟨⟨reply, rules, own', told, ⟨⟨asked, fetch, get, now, prep, hown, -, hreads⟩, hfound, -⟩,
    hwrites⟩, hbefore, -, hreports⟩ := Client.put_of_editRules hdoes rfl hm
  refine ⟨⟨get, asked.getD "", reply, rules, own', ?_, hreads, hfound, ?_⟩, hbefore, hreports⟩
  · exact mem_own.1 (by rw [hown]; simp)
  · obtain ⟨st', hrun⟩ := h.of_append
    obtain ⟨first, second, third, rfl, -, hsecond, -, htold⟩ := lookup_after_record hrun hown
    rw [hone.of_append.ofClient_between hrun rfl hsecond] at htold
    rw [htold] at hwrites
    exact hwrites

/-- The rules of a set are what the accepted changes of it make of those at the beginning. -/
theorem rules_of_run (h : Run home Keeper.Serves (startOf home clients changes memory keeper) es st)
    (hone : OneAtATime home (startOf home clients changes memory keeper) es) (name : String) :
    st.peer.rules name =
      ((accepted es).filter fun i => (changes i).ruleSet (clients (home i)) = name).foldl
        (fun rules i => ((changes i).change.edit rules).2) (keeper.rules name) := by
  induction h with
  | start => rfl
  | @step es st i e answer next s h hleft htells hm ih =>
    have hrun := h.step i answer hleft htells hm
    specialize ih hone.of_append
    rw [accepted_concat, List.filter_append, List.foldl_append, ← ih]
    by_cases hput : Event.IsPut ⟨e, answer⟩
    · obtain ⟨request, hr, hmethod⟩ := hput
      obtain ⟨_, heq⟩ := Event.eq_send hr
      cases heq
      obtain ⟨⟨get, asked, reply, rules, own', hget, hreads, hfound, hwrites⟩, -⟩ :=
        write_of_run hrun hone rfl hmethod
      rcases Keeper.serves_write hm hwrites with ⟨ha, hetag, fresh, rfl⟩ | ⟨ha, rfl⟩
      · -- The version that was read is still the present one, so the rules are, too.
        have hrules := ((consistent_of_run h) i get reply _ asked rules own' hget hreads hfound).2 hetag
        rw [ha, if_pos rfl]
        by_cases hname : (changes i).ruleSet (clients (home i)) = name
        · subst hname
          simp [Stage.after, Keeper.rules_replace, hrules]
        · simp [Stage.after, Keeper.rules_replace_of_ne _ _ _ (Ne.symm hname), hname]
      · rw [ha]
        rfl
    · obtain ⟨rfl, ha⟩ := Keeper.meets_of_not_put hm hput
      rw [ha]
      rfl

theorem nodup_accepted (h : Run home Keeper.Serves (startOf home clients changes memory keeper) es st)
    (hone : OneAtATime home (startOf home clients changes memory keeper) es) : (accepted es).Nodup := by
  induction h with
  | start => exact List.nodup_nil
  | @step es st i e answer next s h hleft htells hm ih =>
    have hrun := h.step i answer hleft htells hm
    specialize ih hone.of_append
    rw [accepted_concat]
    split_ifs with ha
    · obtain ⟨request, hr, hmethod⟩ := Event.isPut_of_isAccepted ha
      obtain ⟨_, heq⟩ := Event.eq_send hr
      cases heq
      obtain ⟨-, hno, -⟩ := write_of_run hrun hone rfl hmethod
      refine List.nodup_append.2 ⟨ih, by simp, ?_⟩
      intro j hj k hk
      rw [List.mem_singleton] at hk
      subst hk
      rintro rfl
      obtain ⟨ev, hev, hacc⟩ := mem_accepted.1 hj
      exact hno ev hev (Event.isPut_of_isAccepted hacc)
    · rwa [List.append_nil]

/-- What a change says of itself fits the answer to its write. -/
theorem reports_of_run (h : Run home Keeper.Serves (startOf home clients changes memory keeper) es st)
    (hone : OneAtATime home (startOf home clients changes memory keeper) es) {i : ι} {ev : Event}
    (hev : ev ∈ own i es) (hput : ev.IsPut) : ∃ request answer, ev = ⟨.send request, answer⟩ ∧
      request.method = .put ∧ Client.Reports answer (st.left i).result? := by
  obtain ⟨request, hr, hm⟩ := hput
  obtain ⟨answer, rfl⟩ := Event.eq_send hr
  obtain ⟨before, after, hes⟩ := List.append_of_mem (mem_own.1 hev)
  exact ⟨request, answer, rfl, hm, (write_of_run h hone hes hm).2.2⟩

/-- At each moment of any run in which every client does one change at a time, the keeper holds what
the accepted changes make of the rules at the beginning, in the order of their writes. A change that
says it was made is accepted exactly once; one that says it changed nothing, or that met a conflict,
is not. -/
theorem accepted_changes_serialize
    (h : Run home Keeper.Serves (startOf home clients changes memory keeper) es st)
    (hone : OneAtATime home (startOf home clients changes memory keeper) es) :
    (∀ name, st.peer.rules name =
      ((accepted es).filter fun i => (changes i).ruleSet (clients (home i)) = name).foldl
        (fun rules i => ((changes i).change.edit rules).2) (keeper.rules name)) ∧
    (accepted es).Nodup ∧
    (∀ i, st.left i = .done (.ok true) → (accepted es).count i = 1) ∧
    (∀ i, st.left i = .done (.ok false) → i ∉ accepted es) ∧
    ∀ i e, st.left i = .done (.error (.error (.api e))) → e.isConflict = true → i ∉ accepted es := by
  have hnodup := nodup_accepted h hone
  refine ⟨rules_of_run h hone, hnodup, ?_, ?_, ?_⟩
  · intro i hdone
    have hdoes := h.call_does i
    rw [hdone, TargetChange.call, Change.call_eq] at hdoes
    obtain ⟨ev, hev, hput⟩ := Client.put_of_editRules_true hdoes
    obtain ⟨request, answer, rfl, hm, hreports⟩ := reports_of_run h hone hev hput
    obtain ⟨reply, rfl, hsuccess⟩ := hreports.success (by rw [hdone]; rfl)
    -- Its write was answered with success, so it met no conflict.
    refine List.count_eq_one_of_mem hnodup (mem_accepted.2 ⟨_, hev, ?_⟩)
    rw [Event.isAccepted_send hm]
    intro _ heq hconflict
    cases heq
    rw [hconflict] at hsuccess
    cases hsuccess
  · intro i hdone hmem
    obtain ⟨ev, hev, ha⟩ := mem_accepted.1 hmem
    obtain ⟨request, answer, rfl, -, hreports⟩ :=
      reports_of_run h hone hev (Event.isPut_of_isAccepted ha)
    exact hreports.not_unchanged (by rw [hdone]; rfl)
  · intro i e hdone hconflict hmem
    obtain ⟨ev, hev, ha⟩ := mem_accepted.1 hmem
    obtain ⟨request, answer, rfl, hm, hreports⟩ :=
      reports_of_run h hone hev (Event.isPut_of_isAccepted ha)
    obtain ⟨reply, rfl, hstatus⟩ := hreports.failure e (by rw [hdone]; rfl)
    refine (Event.isAccepted_send hm).1 ha reply rfl ?_
    rw [hstatus]
    exact of_decide_eq_true hconflict

end Clients

/-! ## A conflict -/

/-- What the loser of a conflict is told. -/
def refusal : Http.Reply := ⟨.conflict, [], some []⟩

/-- Two clients read the same version; the first writes, and the second is refused. -/
def conflict : List (Bool × Event) :=
  (raceRead none).map (Prod.mk false) ++
  ((raceRead none).map (Prod.mk true) ++
  ((raceWrite (some "1") [⟨["users/alice"], "reader"⟩] "2").map (Prod.mk false) ++
  [⟨.readEtag raceName, some "1"⟩,
    ⟨.send (Client.writeRequest Client.plainUrl none raceName "1" [⟨["users/bob"], "reader"⟩]),
      some refusal⟩, ⟨.now, ⟨0⟩⟩].map (Prod.mk true)))

def bothChange (second : Bool) : TargetChange := ⟨.account, .account, granting second⟩

theorem granting_refused : ∃ e : ApiError, e.isConflict = true ∧
    ((granting true).call Client.plain .account .account).Does
      (raceRead none ++ [⟨.readEtag raceName, some "1"⟩,
        ⟨.send (Client.writeRequest Client.plainUrl none raceName "1" [⟨["users/bob"], "reader"⟩]),
          some refusal⟩, ⟨.now, ⟨0⟩⟩]) (some (.error (.error (.api e)))) := by
  have hd : Transport.decode (Json.nullable? Client.readRuleSet) ⟨0⟩ refusal =
      .error (.error (.api (Transport.readError .conflict [] ⟨.unknown, none, none, none⟩))) := rfl
  refine ⟨_, decide_eq_true (Transport.status_of_decode hd).symm, ?_⟩
  obtain ⟨_, hx⟩ := read_one none
  have hrules : (granting true).edit [] = (true, [⟨["users/bob"], "reader"⟩]) := by decide +kernel
  have hy := Client.plain_reaches.putRules_fails .account ((granting true).edit []).2 (some "1") hd
  have hedit := Client.editRules_does hx (by rw [hrules]) hy
  rw [hrules] at hedit
  rw [Change.call_eq]
  exact hedit

theorem conflict_served : Served Keeper.Serves Keeper.empty conflict
    (Keeper.empty.replace raceName [⟨["users/alice"], "reader"⟩] "2") := by
  have hne : raceName ≠ "" := AccessTarget.ruleSetName_ne_empty .account Client.plain.accountId
  refine (Keeper.served_read false (Client.plain_reaches.reads hne _) content_one _ _).append ?_
  refine (Keeper.served_read true (Client.plain_reaches.reads hne _) content_one _ _).append ?_
  have hfirst : Served Keeper.Serves Keeper.empty
      ((raceWrite (some "1") [⟨["users/alice"], "reader"⟩] "2").map (Prod.mk false))
      (Keeper.empty.replace raceName [⟨["users/alice"], "reader"⟩] "2") :=
    Keeper.served_write false (Client.plain_reaches.writes hne _ _) (by decide) (by decide) (by decide) _ _
  refine hfirst.append (.cons rfl (.cons (.refuse (Client.plain_reaches.writes hne _ _) ?_ rfl)
    (.cons rfl (.nil _))))
  rw [Keeper.etag_replace]
  decide

theorem own_conflict_false :
    own false conflict = raceRead none ++ raceWrite (some "1") [⟨["users/alice"], "reader"⟩] "2" := by
  rw [conflict, own_append, own_append, own_append, own_map_self, own_map_of_ne (by decide),
    own_map_self, own_map_of_ne (by decide), List.nil_append, List.append_nil]

theorem own_conflict_true : own true conflict = raceRead none ++ [⟨.readEtag raceName, some "1"⟩,
    ⟨.send (Client.writeRequest Client.plainUrl none raceName "1" [⟨["users/bob"], "reader"⟩]),
      some refusal⟩, ⟨.now, ⟨0⟩⟩] := by
  rw [conflict, own_append, own_append, own_append, own_map_of_ne (by decide), own_map_self,
    own_map_of_ne (by decide), own_map_self, List.nil_append, List.nil_append]

theorem conflict_follows (k : Bool) : ∃ m, Memory.fresh.Follows (ofClient id k conflict) m := by
  have hread : Memory.fresh.Follows (raceRead none)
      { Memory.fresh with etags := Memory.fresh.etags.put raceName "1" } :=
    Client.follows_exchangeEvents rfl _ _ _ _
  have htold : some "1" = (Memory.fresh.etags.put raceName "1").get? raceName := by decide +kernel
  show ∃ m, Memory.fresh.Follows (own k conflict) m
  cases k with
  | false =>
    rw [own_conflict_false]
    exact ⟨_, Memory.follows_append.2 ⟨_, hread,
      Client.follows_exchangeEvents htold _ _ _ _⟩⟩
  | true =>
    rw [own_conflict_true]
    exact ⟨_, Memory.follows_append.2 ⟨_, hread,
      .cons htold (.cons trivial (.cons trivial (.nil _)))⟩⟩

theorem conflict_run : ∃ st e,
    Run id Keeper.Serves (startOf id (fun _ => Client.plain) bothChange (fun _ => .fresh) Keeper.empty)
      conflict st ∧
    st.left false = .done (.ok true) ∧ st.left true = .done (.error (.error (.api e))) ∧
    e.isConflict = true := by
  obtain ⟨e, he, hrefused⟩ := granting_refused
  choose memory hmemory using conflict_follows
  refine ⟨⟨fun second => if second then .done (.error (.error (.api e))) else .done (.ok true), memory, _⟩,
    e, run_of ?_ hmemory conflict_served, rfl, rfl, he⟩
  intro second
  cases second with
  | false =>
    rw [own_conflict_false]
    exact Call.does_some.1 (granting_does false (by decide +kernel) (by decide) (by decide +kernel))
  | true =>
    rw [own_conflict_true]
    exact Call.does_some.1 hrefused

theorem accepted_changes_serialize_in_conflict : ∃ st e,
    Run id Keeper.Serves (startOf id (fun _ => Client.plain) bothChange (fun _ => .fresh) Keeper.empty)
      conflict st ∧
    OneAtATime id (startOf id (fun _ => Client.plain) bothChange (fun _ => .fresh) Keeper.empty)
      conflict ∧
    st.left false = .done (.ok true) ∧ (accepted conflict).count false = 1 ∧
    st.left true = .done (.error (.error (.api e))) ∧ e.isConflict = true ∧ true ∉ accepted conflict := by
  obtain ⟨st, e, hrun, hfirst, hsecond, he⟩ := conflict_run
  have hone : OneAtATime id (startOf id (fun _ => Client.plain) bothChange (fun _ => .fresh)
      Keeper.empty) conflict := .of_injective Function.injective_id
  obtain ⟨-, -, hok, -, hconflict⟩ := accepted_changes_serialize hrun hone
  exact ⟨st, e, hrun, hone, hfirst, hok false hfirst, hsecond, he, hconflict true e hsecond he⟩

end AccessSync
