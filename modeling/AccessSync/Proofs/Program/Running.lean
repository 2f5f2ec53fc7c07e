import AccessSync.Proofs.Program.Trace
/-!
# Calls that end

`World.Ends w c st r st'`: carried out in the world from `st`, the call ends with that result and
leaves `st'` behind. The lemmas `ends_*` take a call apart at its first part. A call all of whose
events are of one sort keeps what events of that sort keep (`Ends.keeps`). A call for each item of a
list ends if each of them does (`ends_mapM`); if some fail, and all of them with the same error, it
fails with that (`fails_mapM`).
-/

namespace AccessSync

/-! ## Programs are a lawful monad -/

namespace Program

variable {α β γ : Type}

theorem bind_done (p : Program α) : p.bind .done = p := by
  induction p with
  | done a => rfl
  | perform e next ih =>
    rw [bind]
    congr 1
    funext answer
    exact ih answer

theorem bind_assoc (p : Program α) (f : α → Program β) (g : β → Program γ) :
    (p.bind f).bind g = p.bind fun a => (f a).bind g := by
  induction p with
  | done a => rfl
  | perform e next ih =>
    simp only [bind]
    congr 1
    funext answer
    exact ih answer

instance : LawfulMonad Program :=
  LawfulMonad.mk' Program (fun p => bind_done p) (fun _ _ => rfl) bind_assoc

end Program

namespace World

variable {α β σ : Type} {w : World σ} {st st' st₁ : Memory × σ}

theorem run_bind (w : World σ) (p : Program α) (f : α → Program β) (st : Memory × σ) :
    w.run (p.bind f) st = w.run (f (w.run p st).1) (w.run p st).2 := by
  induction p generalizing st with
  | done a => rfl
  | perform e next ih => exact ih _ _

/-- Carried out in the world, the call ends with that result and leaves that behind. -/
def Ends (w : World σ) (c : Call α) (st : Memory × σ) (r : Except Halt α) (st' : Memory × σ) : Prop :=
  w.run c.run st = (r, st')

/-- A call that ends did so by what it can do, as the client's memory allows. -/
theorem Ends.does {c : Call α} {r : Except Halt α} (h : w.Ends c st r st') :
    ∃ es, c.Does es (some r) ∧ st.1.Follows es st'.1 := by
  obtain ⟨es, hdoes, hfollows⟩ := w.run_does c st.1 st.2
  rw [show w.run c.run (st.1, st.2) = (r, st') from h] at hdoes hfollows
  exact ⟨es, hdoes, hfollows⟩

/-! ## Taking calls apart -/

theorem ends_pure {a : α} {r : Except Halt α} :
    w.Ends (pure a) st r st' ↔ r = .ok a ∧ st' = st := by
  unfold Ends
  rw [show w.run (pure a : Call α).run st = (.ok a, st) from rfl, Prod.mk.injEq, eq_comm, @eq_comm _ st]

theorem ends_fail {e : Error} {r : Except Halt α} :
    w.Ends (Call.fail e) st r st' ↔ r = .error (.error e) ∧ st' = st := by
  unfold Ends
  rw [show w.run (Call.fail e : Call α).run st = (.error (.error e), st) from rfl, Prod.mk.injEq,
    eq_comm, @eq_comm _ st]

/-- A run whose value has that feature ends in such a value. -/
theorem ends_of_feature {c : Call α} {feature : α → β} {b : β}
    (h : (w.run c.run st).1.toOption.map feature = some b) :
    ∃ a, w.Ends c st (.ok a) (w.run c.run st).2 ∧ feature a = b := by
  obtain ⟨a, hvalue, hfeature⟩ := Option.map_eq_some_iff.1 h
  cases hr : (w.run c.run st).1 with
  | error halt =>
    rw [hr] at hvalue
    cases hvalue
  | ok a' =>
    rw [hr] at hvalue
    cases hvalue
    exact ⟨a, Prod.ext hr rfl, hfeature⟩

/-- The second part goes on where the first has ended. -/
theorem Ends.bind_iff {c : Call α} {a : α} (h : w.Ends c st (.ok a) st₁) {f : α → Call β}
    {r : Except Halt β} : w.Ends (c >>= f) st r st' ↔ w.Ends (f a) st₁ r st' := by
  have hrun : w.run (c >>= f).run st = w.run (f a).run st₁ := by
    refine (run_bind w c.run _ st).trans ?_
    rw [h]
    rfl
  unfold Ends
  rw [hrun]

theorem Ends.bind_error {c : Call α} {e : Halt} (h : w.Ends c st (.error e) st') {f : α → Call β} :
    w.Ends (c >>= f) st (.error e) st' := by
  refine (run_bind w c.run _ st).trans ?_
  rw [h]
  rfl

/-- A call that has a value went through both its parts. -/
theorem ends_bind_ok {c : Call α} {f : α → Call β} {b : β} :
    w.Ends (c >>= f) st (.ok b) st' ↔ ∃ a st₁, w.Ends c st (.ok a) st₁ ∧ w.Ends (f a) st₁ (.ok b) st' := by
  constructor
  · intro h
    generalize hc : w.run c.run st = ended
    obtain ⟨e | a, st₁⟩ := ended
    · have herror : w.Ends (c >>= f) st (.error e) st₁ := Ends.bind_error hc
      cases h.symm.trans herror
    · exact ⟨a, st₁, hc, (Ends.bind_iff hc).1 h⟩
  · rintro ⟨a, st₁, hc, hf⟩
    exact (Ends.bind_iff hc).2 hf

theorem ends_perform_bind {e : Effect} {f : e.Answer → Call β} {r : Except Halt β} :
    w.Ends (Call.perform e >>= f) st r st' ↔ w.Ends (f (w.act e st).1) (w.act e st).2 r st' := by
  have hperform : w.Ends (Call.perform e) st (.ok (w.act e st).1) (w.act e st).2 := rfl
  exact hperform.bind_iff

theorem ends_ofExcept_ok {ε : Type} {error : ε → Error} {x : Except ε α} {a : α} :
    w.Ends (Call.ofExcept error x) st (.ok a) st' ↔ x = .ok a ∧ st' = st := by
  cases x with
  | ok b =>
    refine ends_pure.trans ?_
    simp only [Except.ok.injEq, eq_comm]
  | error fault =>
    refine ends_fail.trans ?_
    simp

/-- A value that may be a fault is looked at without an effect. -/
theorem ends_ofExcept_bind_ok {ε : Type} {error : ε → Error} {x : Except ε α} {f : α → Call β} {b : β} :
    w.Ends (Call.ofExcept error x >>= f) st (.ok b) st' ↔ ∃ a, x = .ok a ∧ w.Ends (f a) st (.ok b) st' := by
  rw [ends_bind_ok]
  constructor
  · rintro ⟨a, st₁, hx, hf⟩
    obtain ⟨hvalue, rfl⟩ := ends_ofExcept_ok.1 hx
    exact ⟨a, hvalue, hf⟩
  · rintro ⟨a, hx, hf⟩
    exact ⟨a, st, ends_ofExcept_ok.2 ⟨hx, rfl⟩, hf⟩

/-! ## What is kept -/

/-- What events of one sort keep is kept by a call that has no others. -/
theorem Ends.keeps {P : Event → Prop} {R : Memory × σ → Memory × σ → Prop} (hrefl : ∀ st, R st st)
    (htrans : ∀ {st st₁ st'}, R st st₁ → R st₁ st' → R st st')
    (hact : ∀ e st, P ⟨e, (w.act e st).1⟩ → R st (w.act e st).2) {c : Call α} (hc : c.Always P)
    {r : Except Halt α} (h : w.Ends c st r st') : R st st' := by
  suffices hprogram : ∀ (p : Program (Except Halt α)) st,
      (∀ es q, Program.Does p es q → ∀ ev ∈ es, P ev) → R st (w.run p st).2 by
    have := hprogram c.run st fun es q hq => hc es _ ⟨q, hq, rfl⟩
    rwa [h] at this
  intro p
  -- One effect after the other; its event comes first, those of the rest follow.
  induction p with
  | done a => exact fun st _ => hrefl st
  | perform e next ih =>
    intro st hp
    have hhead : P ⟨e, (w.act e st).1⟩ := by
      refine hp [⟨e, (w.act e st).1⟩] (next (w.act e st).1) (.act (.rest _)) _ ?_
      simp
    refine htrans (hact e st hhead) (ih _ _ ?_)
    intro es q hq ev hev
    exact hp _ q (.act hq) ev (List.mem_cons_of_mem _ hev)

/-! ## A call for each item -/

section Items
variable {f : α → Call β} {I : Memory × σ → Prop} {xs : List α}

/-- If the call for each item ends, whatever came before, then each has its value in the end. -/
theorem ends_mapM {P : α → β → Prop}
    (h : ∀ x ∈ xs, ∀ st, I st → ∃ b st', w.Ends (f x) st (.ok b) st' ∧ P x b ∧ I st') (hst : I st) :
    ∃ bs st', w.Ends (xs.mapM f) st (.ok bs) st' ∧ (∀ x ∈ xs, ∃ b ∈ bs, P x b) ∧ I st' := by
  induction xs generalizing st with
  | nil => exact ⟨[], st, ends_pure.2 ⟨rfl, rfl⟩, by simp, hst⟩
  | cons x xs ih =>
    obtain ⟨b, st₁, hx, hP, hst₁⟩ := h x (by simp) st hst
    obtain ⟨bs, st₂, hxs, hPs, hst₂⟩ := ih (fun y hy => h y (List.mem_cons_of_mem x hy)) hst₁
    refine ⟨b :: bs, st₂, ?_, ?_, hst₂⟩
    · rw [List.mapM_cons, hx.bind_iff, hxs.bind_iff]
      exact ends_pure.2 ⟨rfl, rfl⟩
    · intro y hy
      rcases List.mem_cons.1 hy with rfl | hy
      · exact ⟨b, by simp, hP⟩
      · obtain ⟨b', hb', hP'⟩ := hPs y hy
        exact ⟨b', List.mem_cons_of_mem b hb', hP'⟩

/-- If the call for an item can only fail with one error, and that for some item does, then so does
the whole. -/
theorem fails_mapM {e : Halt}
    (h : ∀ x ∈ xs, ∀ st, I st →
      (∃ b st', w.Ends (f x) st (.ok b) st' ∧ I st') ∨ ∃ st', w.Ends (f x) st (.error e) st')
    (hbad : ∃ x ∈ xs, ∀ st, I st → ∃ st', w.Ends (f x) st (.error e) st') (hst : I st) :
    ∃ st', w.Ends (xs.mapM f) st (.error e) st' := by
  induction xs generalizing st with
  | nil => simp at hbad
  | cons x xs ih =>
    rw [List.mapM_cons]
    rcases h x (by simp) st hst with ⟨b, st₁, hx, hst₁⟩ | ⟨st₁, hx⟩
    · obtain ⟨y, hy, hfails⟩ := hbad
      have hbad' : ∃ y ∈ xs, ∀ st, I st → ∃ st', w.Ends (f y) st (.error e) st' := by
        rcases List.mem_cons.1 hy with rfl | hy
        · obtain ⟨st₂, hy⟩ := hfails st hst
          cases hx.symm.trans hy
        · exact ⟨y, hy, hfails⟩
      obtain ⟨st₂, hxs⟩ := ih (fun y hy => h y (List.mem_cons_of_mem x hy)) hbad' hst₁
      exact ⟨st₂, hx.bind_iff.2 hxs.bind_error⟩
    · exact ⟨st₁, hx.bind_error⟩

end Items

/-- Calls for one item after the other, each of which leaves what `next` says. -/
theorem ends_forM {f : α → Call Unit} {next : Memory × σ → α → Memory × σ}
    (h : ∀ x st, w.Ends (f x) st (.ok ()) (next st x)) (xs : List α) (st : Memory × σ) :
    w.Ends (xs.forM f) st (.ok ()) (xs.foldl next st) := by
  induction xs generalizing st with
  | nil => exact ends_pure.2 ⟨rfl, rfl⟩
  | cons x xs ih => exact (h x st).bind_iff.2 (ih _)

/-- Calls that only have values, which they have alike at any time, make up the list of these. -/
theorem ends_mapM_const {f : α → Call β} {g : α → β} (h : ∀ x, w.Ends (f x) st (.ok (g x)) st)
    (xs : List α) : w.Ends (xs.mapM f) st (.ok (xs.map g)) st := by
  induction xs with
  | nil => exact ends_pure.2 ⟨rfl, rfl⟩
  | cons x xs ih =>
    rw [List.mapM_cons, (h x).bind_iff, ih.bind_iff]
    exact ends_pure.2 ⟨rfl, rfl⟩

end World

end AccessSync
