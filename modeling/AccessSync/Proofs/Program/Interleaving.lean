import AccessSync.Proofs.Program.Trace
import Mathlib.Data.List.Induction
import Mathlib.Logic.Function.Basic
/-!
# Interleaved programs

Any number of programs run at once. Each belongs to a client, and programs of one client share what
it remembers; all of them talk to one peer. A run takes one effect of one program after the other, in
any order, and keeps a record of who did what. Main statements: what a run has done of one program is
something that the program does (`Run.does`), and what it has done with one client's memory follows
that memory (`Run.follows`). `run_of` is the converse, by which a run can be given as a record.
-/

namespace AccessSync.Pool

/-- Which answers a peer may give to a request, and what becomes of it. -/
abbrev PeerRule (σ : Type) := Http.Request → Option Http.Reply → σ → σ → Prop

/-- What becomes of the peer at an event; it takes notice of requests only. -/
def Meets {σ : Type} (rule : PeerRule σ) : Event → σ → σ → Prop
  | ⟨.send request, answer⟩, s, s' => rule request answer s s'
  | _, s, s' => s' = s

/-- What is left to do of each program, what each client remembers, and the peer. -/
structure Stage (ι κ σ α : Type) where
  left : ι → Program α
  memory : κ → Memory
  peer : σ

variable {ι κ σ α : Type}

/-- Calls before their first step. -/
def Stage.ofCalls {β : Type} (calls : ι → Call β) (memory : κ → Memory) (s : σ) :
    Stage ι κ σ (Except Halt β) :=
  ⟨fun i => (calls i).run, memory, s⟩

/-- The events of one program. -/
def own [DecidableEq ι] (i : ι) (es : List (ι × Event)) : List Event :=
  es.filterMap fun x => if x.1 = i then some x.2 else none

/-- The events of all programs of one client. -/
def ofClient [DecidableEq κ] (home : ι → κ) (k : κ) (es : List (ι × Event)) : List Event :=
  es.filterMap fun x => if home x.1 = k then some x.2 else none

/-- The stage after one more event of a program. -/
def Stage.after [DecidableEq ι] [DecidableEq κ] (home : ι → κ) (st : Stage ι κ σ α) (i : ι)
    (ev : Event) (next : Program α) (s : σ) : Stage ι κ σ α :=
  ⟨Function.update st.left i next,
    Function.update st.memory (home i) ((st.memory (home i)).after ev), s⟩

section After
variable [DecidableEq ι] [DecidableEq κ] (home : ι → κ) (st : Stage ι κ σ α) {i j : ι} (ev : Event)
  (next : Program α) (s : σ)

theorem Stage.left_after : (st.after home i ev next s).left i = next := Function.update_self ..

theorem Stage.left_after_of_ne (h : j ≠ i) : (st.after home i ev next s).left j = st.left j :=
  Function.update_of_ne h ..

theorem Stage.memory_after :
    (st.after home i ev next s).memory (home i) = (st.memory (home i)).after ev :=
  Function.update_self ..

theorem Stage.memory_after_of_ne {k : κ} (h : k ≠ home i) :
    (st.after home i ev next s).memory k = st.memory k :=
  Function.update_of_ne h ..

end After

/-- The programs can have done these events in this order, and then are at that stage. -/
inductive Run [DecidableEq ι] [DecidableEq κ] (home : ι → κ) (rule : PeerRule σ)
    (begin : Stage ι κ σ α) : List (ι × Event) → Stage ι κ σ α → Prop
  | start : Run home rule begin [] begin
  | step {es : List (ι × Event)} {st : Stage ι κ σ α} (i : ι) {e : Effect} (answer : e.Answer)
      {next : e.Answer → Program α} {s : σ} : Run home rule begin es st →
      st.left i = .perform e next → (st.memory (home i)).Tells ⟨e, answer⟩ →
      Meets rule ⟨e, answer⟩ st.peer s →
      Run home rule begin (es ++ [(i, ⟨e, answer⟩)]) (st.after home i ⟨e, answer⟩ (next answer) s)

/-! ## Parts of a record -/

section Own
variable [DecidableEq ι]

theorem own_append (i : ι) (es fs : List (ι × Event)) : own i (es ++ fs) = own i es ++ own i fs :=
  List.filterMap_append

theorem own_cons_self (i : ι) (ev : Event) (es : List (ι × Event)) :
    own i ((i, ev) :: es) = ev :: own i es := by
  simp [own]

theorem own_cons_of_ne {i j : ι} (h : j ≠ i) (ev : Event) (es : List (ι × Event)) :
    own i ((j, ev) :: es) = own i es := by
  simp [own, h]

theorem own_concat_self (i : ι) (ev : Event) (es : List (ι × Event)) :
    own i (es ++ [(i, ev)]) = own i es ++ [ev] := by
  rw [own_append, own_cons_self]
  rfl

theorem own_concat_of_ne {i j : ι} (h : j ≠ i) (ev : Event) (es : List (ι × Event)) :
    own i (es ++ [(j, ev)]) = own i es := by
  rw [own_append, own_cons_of_ne h]
  exact List.append_nil _

theorem mem_own {i : ι} {ev : Event} {es : List (ι × Event)} : ev ∈ own i es ↔ (i, ev) ∈ es := by
  simp [own, List.mem_filterMap]

/-- The events of one program are among all. -/
theorem own_subset {i : ι} {es : List (ι × Event)} : own i es ⊆ es.map Prod.snd :=
  fun ev hev => List.mem_map.2 ⟨(i, ev), mem_own.1 hev, rfl⟩

theorem own_map_self (i : ι) (es : List Event) : own i (es.map (Prod.mk i)) = es := by
  induction es with
  | nil => rfl
  | cons ev es ih => rw [List.map_cons, own_cons_self, ih]

theorem own_map_of_ne {i j : ι} (h : j ≠ i) (es : List Event) : own i (es.map (Prod.mk j)) = [] := by
  induction es with
  | nil => rfl
  | cons ev es ih => rw [List.map_cons, own_cons_of_ne h, ih]

/-- An event of a program stands somewhere in the record. -/
theorem eq_of_own_eq {i : ι} {es : List (ι × Event)} {xs ys : List Event} {ev : Event}
    (h : own i es = xs ++ ev :: ys) :
    ∃ first second, es = first ++ (i, ev) :: second ∧ own i first = xs ∧ own i second = ys := by
  induction es generalizing xs with
  | nil => simp [own] at h
  | cons x es ih =>
    obtain ⟨j, ev'⟩ := x
    by_cases hj : j = i
    · subst hj
      rw [own_cons_self] at h
      cases xs with
      | nil =>
        cases h
        exact ⟨[], es, rfl, rfl, rfl⟩
      | cons x xs =>
        rw [List.cons_append, List.cons.injEq] at h
        obtain ⟨rfl, h⟩ := h
        obtain ⟨first, second, rfl, hfirst, hsecond⟩ := ih h
        exact ⟨(j, ev') :: first, second, rfl, by rw [own_cons_self, hfirst], hsecond⟩
    · rw [own_cons_of_ne hj] at h
      obtain ⟨first, second, rfl, hfirst, hsecond⟩ := ih h
      exact ⟨(j, ev') :: first, second, rfl, by rw [own_cons_of_ne hj, hfirst], hsecond⟩

end Own

section OfClient
variable [DecidableEq κ]

theorem mem_ofClient {home : ι → κ} {k : κ} {ev : Event} {es : List (ι × Event)} :
    ev ∈ ofClient home k es ↔ ∃ i, home i = k ∧ (i, ev) ∈ es := by
  simp only [ofClient, List.mem_filterMap, Option.ite_none_right_eq_some, Option.some.injEq,
    Prod.exists]
  constructor
  · rintro ⟨i, ev, h, hk, rfl⟩
    exact ⟨i, hk, h⟩
  · rintro ⟨i, hk, h⟩
    exact ⟨i, ev, h, hk, rfl⟩

theorem ofClient_append (home : ι → κ) (k : κ) (es fs : List (ι × Event)) :
    ofClient home k (es ++ fs) = ofClient home k es ++ ofClient home k fs :=
  List.filterMap_append

theorem ofClient_cons_self (home : ι → κ) (i : ι) (ev : Event) (es : List (ι × Event)) :
    ofClient home (home i) ((i, ev) :: es) = ev :: ofClient home (home i) es := by
  simp [ofClient]

theorem ofClient_cons_of_ne {home : ι → κ} {i : ι} {k : κ} (h : home i ≠ k) (ev : Event)
    (es : List (ι × Event)) : ofClient home k ((i, ev) :: es) = ofClient home k es := by
  simp [ofClient, h]

theorem ofClient_concat_self (home : ι → κ) (i : ι) (ev : Event) (es : List (ι × Event)) :
    ofClient home (home i) (es ++ [(i, ev)]) = ofClient home (home i) es ++ [ev] := by
  rw [ofClient_append, ofClient_cons_self]
  rfl

theorem ofClient_concat_of_ne {home : ι → κ} {i : ι} {k : κ} (h : home i ≠ k) (ev : Event)
    (es : List (ι × Event)) : ofClient home k (es ++ [(i, ev)]) = ofClient home k es := by
  rw [ofClient_append, ofClient_cons_of_ne h]
  exact List.append_nil _

theorem ofClient_map {home : ι → κ} {i : ι} {k : κ} (h : home i = k) (es : List Event) :
    ofClient home k (es.map (Prod.mk i)) = es := by
  subst h
  induction es with
  | nil => rfl
  | cons ev es ih => rw [List.map_cons, ofClient_cons_self, ih]

end OfClient

/-! ## Runs -/

/-- The peer meets the requests of a record in its order. -/
inductive Served (rule : PeerRule σ) : σ → List (ι × Event) → σ → Prop
  | nil (s : σ) : Served rule s [] s
  | cons {s s' s'' : σ} {i : ι} {ev : Event} {es : List (ι × Event)} :
      Meets rule ev s s' → Served rule s' es s'' → Served rule s ((i, ev) :: es) s''

theorem Served.append {rule : PeerRule σ} {s s' s'' : σ} {es fs : List (ι × Event)}
    (h : Served rule s es s') (h' : Served rule s' fs s'') : Served rule s (es ++ fs) s'' := by
  induction h with
  | nil => exact h'
  | cons hm _ ih => exact .cons hm (ih h')

theorem served_concat {rule : PeerRule σ} {es : List (ι × Event)} {s s' : σ} {x : ι × Event}
    (h : Served rule s (es ++ [x]) s') : ∃ t, Served rule s es t ∧ Meets rule x.2 t s' := by
  induction es generalizing s with
  | nil =>
    cases h with
    | cons hm hn =>
      cases hn
      exact ⟨s, .nil s, hm⟩
  | cons y es ih =>
    cases h with
    | cons hm hs =>
      obtain ⟨t, ht, hx⟩ := ih hs
      exact ⟨t, .cons hm ht, hx⟩

section Run
variable [DecidableEq ι] [DecidableEq κ] {home : ι → κ} {rule : PeerRule σ} {begin st : Stage ι κ σ α}
  {es : List (ι × Event)}

/-- What a run has done of a program is something that the program does. -/
theorem Run.does (h : Run home rule begin es st) (i : ι) :
    Program.Does (begin.left i) (own i es) (st.left i) := by
  induction h with
  | start => exact .rest _
  | step j answer _ hleft _ _ ih =>
    by_cases hj : j = i
    · subst hj
      rw [own_concat_self, Stage.left_after]
      rw [hleft] at ih
      exact Program.does_concat.2 ⟨_, ih, rfl⟩
    -- A step of another program leaves this one where it is.
    · rw [own_concat_of_ne hj, Stage.left_after_of_ne _ _ _ _ _ (Ne.symm hj)]
      exact ih

/-- What a run has done of a call is something that the call does. -/
theorem Run.call_does {β : Type} {calls : ι → Call β} {memory : κ → Memory} {s : σ}
    {st : Stage ι κ σ (Except Halt β)} (h : Run home rule (.ofCalls calls memory s) es st) (i : ι) :
    (calls i).Does (own i es) (st.left i).result? :=
  ⟨st.left i, h.does i, rfl⟩

/-- What a run has done with the memory of a client follows it. -/
theorem Run.follows (h : Run home rule begin es st) (k : κ) :
    (begin.memory k).Follows (ofClient home k es) (st.memory k) := by
  induction h with
  | start => exact .nil _
  | step j answer _ _ htells _ ih =>
    by_cases hj : home j = k
    · subst hj
      rw [ofClient_concat_self, Stage.memory_after]
      exact Memory.follows_concat.2 ⟨_, ih, htells, rfl⟩
    · rw [ofClient_concat_of_ne hj, Stage.memory_after_of_ne _ _ _ _ _ (Ne.symm hj)]
      exact ih

/-- The beginning of a run is a run. -/
theorem Run.of_append {fs : List (ι × Event)} (h : Run home rule begin (es ++ fs) st) :
    ∃ st', Run home rule begin es st' := by
  induction fs using List.reverseRecOn generalizing st with
  | nil => exact ⟨st, by rwa [List.append_nil] at h⟩
  | append_singleton fs x ih =>
    rw [← List.append_assoc] at h
    generalize hgs : es ++ fs ++ [x] = gs at h
    cases h with
    | start => simp at hgs
    | step i answer h _ _ _ =>
      obtain ⟨hgs, -⟩ := List.append_inj' hgs rfl
      exact ih (hgs ▸ h)

/-- A record that every program, every memory and the peer agree to is that of a run. -/
theorem run_of {left : ι → Program α} {memory : κ → Memory} {s : σ}
    (hd : ∀ i, Program.Does (begin.left i) (own i es) (left i))
    (hm : ∀ k, (begin.memory k).Follows (ofClient home k es) (memory k))
    (hs : Served rule begin.peer es s) : Run home rule begin es ⟨left, memory, s⟩ := by
  induction es using List.reverseRecOn generalizing left memory s with
  | nil =>
    obtain rfl : left = begin.left := funext fun i => Program.does_nil.1 (hd i)
    obtain rfl : memory = begin.memory := funext fun k => Memory.follows_nil.1 (hm k)
    cases hs
    exact .start
  | append_singleton es x ih =>
    obtain ⟨i, e, answer⟩ := x
    obtain ⟨t, hs, hmeets⟩ := served_concat hs
    -- What the program and the memory were before the last event.
    have hi := hd i
    rw [own_concat_self] at hi
    obtain ⟨next, hq, hnext⟩ := Program.does_concat.1 hi
    have hhome := hm (home i)
    rw [ofClient_concat_self] at hhome
    obtain ⟨m, hfollows, htells, hafter⟩ := Memory.follows_concat.1 hhome
    have hbefore : Run home rule begin es
        ⟨Function.update left i (.perform e next), Function.update memory (home i) m, t⟩ := by
      apply ih
      · intro j
        by_cases hj : j = i
        · subst hj
          rwa [Function.update_self]
        · rw [Function.update_of_ne hj, ← own_concat_of_ne (Ne.symm hj)]
          exact hd j
      · intro k
        by_cases hk : k = home i
        · subst hk
          rwa [Function.update_self]
        · rw [Function.update_of_ne hk, ← ofClient_concat_of_ne (Ne.symm hk)]
          exact hm k
      · exact hs
    have hmemory : Function.update memory (home i) m (home i) = m := Function.update_self ..
    have hstep := hbefore.step i answer (Function.update_self i _ left)
      (show (Function.update memory (home i) m (home i)).Tells _ by rwa [hmemory]) hmeets
    have hstage : Stage.after home
        ⟨Function.update left i (.perform e next), Function.update memory (home i) m, t⟩ i
        ⟨e, answer⟩ (next answer) s = ⟨left, memory, s⟩ := by
      simp only [Stage.after, Function.update_idem, Function.update_self]
      rw [← hnext, ← hafter, Function.update_eq_self, Function.update_eq_self]
    rw [← hstage]
    exact hstep

/-! ## One program at a time -/

/-- No program takes a step while another one of its client is under way. -/
def OneAtATime (home : ι → κ) (begin : Stage ι κ σ α) (es : List (ι × Event)) : Prop :=
  ∀ before i ev after, es = before ++ (i, ev) :: after → ∀ j, j ≠ i → home j = home i →
    own j before = [] ∨ ∃ a, Program.Does (begin.left j) (own j before) (.done a)

omit [DecidableEq κ] in
theorem OneAtATime.of_append {fs : List (ι × Event)} (h : OneAtATime home begin (es ++ fs)) :
    OneAtATime home begin es := by
  intro before i ev after hes j hj hhome
  refine h before i ev (after ++ fs) ?_ j hj hhome
  rw [hes]
  simp

omit [DecidableEq κ] in
theorem OneAtATime.of_injective (h : Function.Injective home) : OneAtATime home begin es := by
  intro before i ev after hes j hne hhome
  exact absurd (h hhome) hne

/-- Nothing else happens on the client between two events of a program that follow each other. -/
theorem OneAtATime.ofClient_between (h : OneAtATime home begin es) (hr : Run home rule begin es st)
    {i : ι} {first second third : List (ι × Event)} {ev ev' : Event}
    (hes : es = first ++ (i, ev) :: second ++ (i, ev') :: third) (hsecond : own i second = []) :
    ofClient home (home i) second = [] := by
  rw [List.eq_nil_iff_forall_not_mem]
  intro other hother
  obtain ⟨j, hj, hmem⟩ := mem_ofClient.1 hother
  have hne : i ≠ j := by
    rintro rfl
    have := mem_own.2 hmem
    rw [hsecond] at this
    cases this
  obtain ⟨s₁, s₂, rfl⟩ := List.append_of_mem hmem
  subst hes
  rcases h (first ++ (i, ev) :: s₁) j other (s₂ ++ (i, ev') :: third) (by simp) i hne hj.symm with
    hnil | ⟨a, hdone⟩
  · rw [own_append, own_cons_self] at hnil
    simp at hnil
  · -- The program cannot have ended, as it has another event.
    have hdoes := hr.does i
    rw [show first ++ (i, ev) :: (s₁ ++ (j, other) :: s₂) ++ (i, ev') :: third =
        first ++ (i, ev) :: s₁ ++ ((j, other) :: s₂ ++ (i, ev') :: third) by simp, own_append] at hdoes
    obtain ⟨q, hq, hrest⟩ := Program.does_append.1 hdoes
    rw [Program.does_unique hq hdone, own_append, own_cons_self] at hrest
    simpa using (Program.does_done.1 hrest).1

end Run

/-! ## One program alone -/

/-- A peer that answers as the world does. -/
def ruleOf (w : World σ) : PeerRule σ := fun request answer s s' => w.answer request s = (answer, s')

theorem served_events (w : World σ) (p : Program α) (st : Memory × σ) :
    Served (ruleOf w) st.2 ((w.events p st).map (Prod.mk ())) (w.run p st).2.2 := by
  induction p generalizing st with
  | done a => exact .nil _
  | perform e next ih =>
    refine .cons ?_ (ih _ _)
    cases e <;> rfl

/-- What a world makes of a call is a run that has no other part. -/
theorem run_events (w : World σ) (call : Call α) (m : Memory) (s : σ) :
    ∃ st, Run (fun _ : Unit => ()) (ruleOf w) (.ofCalls (fun _ => call) (fun _ => m) s)
      ((w.events call.run (m, s)).map (Prod.mk ())) st := by
  have hdoes : ∀ i : Unit, Program.Does call.run (own i ((w.events call.run (m, s)).map (Prod.mk ())))
      (.done (w.run call.run (m, s)).1) := by
    intro i
    rw [own_map_self]
    exact w.does_events call.run (m, s)
  have hfollows : ∀ k : Unit, m.Follows
      (ofClient (fun _ : Unit => ()) k ((w.events call.run (m, s)).map (Prod.mk ()))) (w.run call.run (m, s)).2.1 := by
    intro k
    rw [ofClient_map rfl]
    exact w.follows_events call.run (m, s)
  exact ⟨_, run_of hdoes hfollows (served_events w call.run (m, s))⟩

end AccessSync.Pool
