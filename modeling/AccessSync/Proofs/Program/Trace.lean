import AccessSync.Program
import Mathlib.Data.List.Basic
/-!
# What a call does

An event is one effect with its answer. `Call.Does c es r` says that the call can do the events `es`
from its beginning, whatever is answered to each; `r` is its result, or nothing if it is still under
way. The lemmas `does_*` say for each way of building a call what it does, so a call is taken apart
by rewriting with them.

Answers from outside may be anything. Those of the client's own memory follow from what was written
before (`Memory.Follows`), which for the versions of rule sets is `Memory.Follows.etags`.
`World.run_does`: what a world makes of a call is one of the things the call does, namely what it does by
the `World.events` of that run.
-/

namespace AccessSync

/-- One effect and what it answered. -/
structure Event where
  effect : Effect
  answer : effect.Answer

namespace Event

/-- The request that was sent, if one was. -/
def request? : Event → Option Http.Request
  | ⟨.send request, _⟩ => some request
  | _ => none

/-- The version of that rule set which was recorded, if one was. -/
def recorded? (ruleSet : String) : Event → Option String
  | ⟨.writeEtag name etag, _⟩ => if name = ruleSet then some etag else none
  | _ => none

/-- A version of a rule set was looked up or recorded. -/
def isEtag : Event → Bool
  | ⟨.readEtag _, _⟩ | ⟨.writeEtag _ _, _⟩ => true
  | _ => false

theorem recorded?_eq_none {ev : Event} (h : ev.isEtag = false) (ruleSet : String) :
    ev.recorded? ruleSet = none := by
  obtain ⟨e, answer⟩ := ev
  cases e <;> first | rfl | simp [isEtag] at h

theorem eq_send {ev : Event} {request : Http.Request} (h : ev.request? = some request) :
    ∃ answer, ev = ⟨.send request, answer⟩ := by
  obtain ⟨e, answer⟩ := ev
  cases e with
  | send =>
    cases h
    exact ⟨answer, rfl⟩
  | _ => cases h

theorem send_of_mem {es : List Event} {request : Http.Request} (h : request ∈ es.filterMap (·.request?)) :
    ∃ answer, (⟨.send request, answer⟩ : Event) ∈ es := by
  obtain ⟨ev, hev, hsent⟩ := List.mem_filterMap.1 h
  obtain ⟨answer, rfl⟩ := eq_send hsent
  exact ⟨answer, hev⟩

/-- An event of two parts stands in the first or in the second. -/
theorem append_eq_append_cons {xs ys before after : List Event} {z : Event}
    (h : xs ++ ys = before ++ z :: after) :
    (∃ mid, xs = before ++ z :: mid) ∨ ∃ mid, before = xs ++ mid ∧ ys = mid ++ z :: after := by
  rcases List.append_eq_append_iff.1 h with ⟨ds, rfl, hd⟩ | ⟨ds, rfl, hd⟩
  · exact .inr ⟨ds, rfl, hd⟩
  · cases ds with
    | nil => exact .inr ⟨[], by simp, by simpa using hd.symm⟩
    | cons d ds =>
      cases hd
      exact .inl ⟨ds, rfl⟩

/-- Where an event stands is known if no other of its sort stands before or behind it. -/
theorem located {P : Event → Prop} {xs ys before after : List Event} {y z : Event}
    (h : xs ++ y :: ys = before ++ z :: after) (hx : ∀ ev ∈ xs, ¬P ev) (hy : ∀ ev ∈ ys, ¬P ev)
    (hz : P z) : xs = before ∧ y = z ∧ ys = after := by
  rcases append_eq_append_cons h with ⟨mid, rfl⟩ | ⟨mid, rfl, hmid⟩
  · exact absurd hz (hx z (by simp))
  · cases mid with
    | nil =>
      cases hmid
      exact ⟨by simp, rfl, rfl⟩
    | cons d mid =>
      cases hmid
      exact absurd hz (hy z (by simp))

end Event

namespace Program

variable {α β : Type}

/-- The program can do these events and is then at `q`. -/
inductive Does : Program α → List Event → Program α → Prop
  | rest (p : Program α) : Does p [] p
  | act {e : Effect} {next : e.Answer → Program α} {answer : e.Answer} {es : List Event}
      {q : Program α} : Does (next answer) es q → Does (.perform e next) (⟨e, answer⟩ :: es) q

/-- The value of a program that has ended. -/
def result? : Program α → Option α
  | .done a => some a
  | .perform _ _ => none

theorem result?_eq_some {p : Program α} {a : α} : p.result? = some a ↔ p = .done a := by
  cases p <;> simp [result?]

theorem does_nil {p q : Program α} : Does p [] q ↔ q = p := by
  constructor
  · intro h
    cases h
    rfl
  · rintro rfl
    exact .rest _

theorem does_done {a : α} {es : List Event} {q : Program α} :
    Does (.done a) es q ↔ es = [] ∧ q = .done a := by
  constructor
  · intro h
    cases h
    exact ⟨rfl, rfl⟩
  · rintro ⟨rfl, rfl⟩
    exact .rest _

theorem does_perform {e : Effect} {next : e.Answer → Program α} {es : List Event} {q : Program α} :
    Does (.perform e next) es q ↔
      (es = [] ∧ q = .perform e next) ∨
      ∃ answer fs, es = ⟨e, answer⟩ :: fs ∧ Does (next answer) fs q := by
  constructor
  · intro h
    cases h with
    | rest => exact .inl ⟨rfl, rfl⟩
    | act h => exact .inr ⟨_, _, rfl, h⟩
  · rintro (⟨rfl, rfl⟩ | ⟨answer, fs, rfl, h⟩)
    · exact .rest _
    · exact .act h

theorem does_append {p r : Program α} {es fs : List Event} :
    Does p (es ++ fs) r ↔ ∃ q, Does p es q ∧ Does q fs r := by
  induction es generalizing p with
  | nil => simp only [List.nil_append, does_nil, exists_eq_left]
  | cons ev es ih =>
    constructor
    · intro h
      cases h with
      | act h =>
        obtain ⟨q, hq, hr⟩ := ih.1 h
        exact ⟨q, .act hq, hr⟩
    · rintro ⟨q, hq, hr⟩
      cases hq with
      | act hq => exact .act (ih.2 ⟨q, hq, hr⟩)

theorem does_concat {p q : Program α} {es : List Event} {e : Effect} {answer : e.Answer} :
    Does p (es ++ [⟨e, answer⟩]) q ↔
      ∃ next : e.Answer → Program α, Does p es (.perform e next) ∧ q = next answer := by
  rw [does_append]
  constructor
  · rintro ⟨_, hp, hlast⟩
    cases hlast with
    | act h => exact ⟨_, hp, does_nil.1 h⟩
  · rintro ⟨next, hp, rfl⟩
    exact ⟨_, hp, .act (.rest _)⟩

/-- What was done and answered decides where a program is. -/
theorem does_unique {p q q' : Program α} {es : List Event} (h : Does p es q) (h' : Does p es q') :
    q = q' := by
  induction h with
  | rest => exact (does_nil.1 h').symm
  | act _ ih =>
    cases h' with
    | act h' => exact ih h'

/-- A program goes through the events of its first part and, once that has ended, of its second. -/
theorem does_bind {p : Program α} {f : α → Program β} {es : List Event} {r : Program β} :
    Does (p.bind f) es r ↔
      (∃ q, Does p es q ∧ q.result? = none ∧ r = q.bind f) ∨
      ∃ a xs ys, es = xs ++ ys ∧ Does p xs (.done a) ∧ Does (f a) ys r := by
  induction p generalizing es with
  | done a =>
    constructor
    · exact fun h => .inr ⟨a, [], es, rfl, .rest _, h⟩
    · rintro (⟨q, hq, hn, -⟩ | ⟨b, xs, ys, rfl, hx, hy⟩)
      · rw [(does_done.1 hq).2] at hn
        cases hn
      · obtain ⟨rfl, hb⟩ := does_done.1 hx
        cases hb
        exact hy
  | perform e next ih =>
    constructor
    -- Either nothing has been done yet, or the first answer decides which program goes on.
    · intro h
      rcases does_perform.1 h with ⟨rfl, rfl⟩ | ⟨answer, fs, rfl, hn⟩
      · exact .inl ⟨_, .rest _, rfl, rfl⟩
      · rcases (ih answer).1 hn with ⟨q, hq, hn, hr⟩ | ⟨a, xs, ys, rfl, hx, hy⟩
        · exact .inl ⟨q, .act hq, hn, hr⟩
        · exact .inr ⟨a, ⟨e, answer⟩ :: xs, ys, rfl, .act hx, hy⟩
    · rintro (⟨q, hq, hn, rfl⟩ | ⟨a, xs, ys, rfl, hx, hy⟩)
      · rcases does_perform.1 hq with ⟨rfl, rfl⟩ | ⟨answer, fs, rfl, h⟩
        · exact .rest _
        · exact .act ((ih answer).2 (.inl ⟨q, h, hn, rfl⟩))
      · cases hx with
        | act hx => exact .act ((ih _).2 (.inr ⟨a, _, ys, rfl, hx, hy⟩))

end Program

/-! ## Calls -/

namespace Call

variable {α β : Type}

/-- The call can do these events, and `r` is its result if it has ended then. -/
def Does (c : Call α) (es : List Event) (r : Option (Except Halt α)) : Prop :=
  ∃ q, Program.Does c.run es q ∧ q.result? = r

theorem does_some {c : Call α} {es : List Event} {result : Except Halt α} :
    Does c es (some result) ↔ Program.Does c.run es (.done result) := by
  constructor
  · rintro ⟨q, hq, hr⟩
    rwa [Program.result?_eq_some.1 hr] at hq
  · exact fun h => ⟨_, h, rfl⟩

theorem does_pure {a : α} {es : List Event} {r : Option (Except Halt α)} :
    Does (pure a) es r ↔ es = [] ∧ r = some (.ok a) := by
  constructor
  · rintro ⟨q, hq, rfl⟩
    obtain ⟨rfl, rfl⟩ := Program.does_done.1 hq
    exact ⟨rfl, rfl⟩
  · rintro ⟨rfl, rfl⟩
    exact ⟨_, .rest _, rfl⟩

theorem does_throw {h : Halt} {es : List Event} {r : Option (Except Halt α)} :
    Does (throw h) es r ↔ es = [] ∧ r = some (.error h) := by
  constructor
  · rintro ⟨q, hq, rfl⟩
    obtain ⟨rfl, rfl⟩ := Program.does_done.1 hq
    exact ⟨rfl, rfl⟩
  · rintro ⟨rfl, rfl⟩
    exact ⟨_, .rest _, rfl⟩

theorem does_fail {e : Error} {es : List Event} {r : Option (Except Halt α)} :
    Does (fail e) es r ↔ es = [] ∧ r = some (.error (.error e)) := does_throw

theorem does_perform {e : Effect} {es : List Event} {r : Option (Except Halt e.Answer)} :
    Does (perform e) es r ↔
      (es = [] ∧ r = none) ∨ ∃ answer, es = [⟨e, answer⟩] ∧ r = some (.ok answer) := by
  constructor
  · rintro ⟨q, hq, rfl⟩
    rcases Program.does_perform.1 hq with ⟨rfl, rfl⟩ | ⟨answer, fs, rfl, h⟩
    · exact .inl ⟨rfl, rfl⟩
    · obtain ⟨rfl, rfl⟩ := Program.does_done.1 h
      exact .inr ⟨answer, rfl, rfl⟩
  · rintro (⟨rfl, rfl⟩ | ⟨answer, rfl, rfl⟩)
    · exact ⟨_, .rest _, rfl⟩
    · exact ⟨_, .act (.rest _), rfl⟩

/-- The first part is under way, or has failed and with it the whole, or has ended and the second
part follows. -/
theorem does_bind {c : Call α} {f : α → Call β} {es : List Event} {r : Option (Except Halt β)} :
    Does (c >>= f) es r ↔
      (Does c es none ∧ r = none) ∨
      (∃ h, Does c es (some (.error h)) ∧ r = some (.error h)) ∨
      ∃ a xs ys, es = xs ++ ys ∧ Does c xs (some (.ok a)) ∧ Does (f a) ys r := by
  constructor
  · rintro ⟨q, hq, rfl⟩
    rcases Program.does_bind.1 hq with ⟨p, hp, hn, rfl⟩ | ⟨a, xs, ys, rfl, hx, hy⟩
    · refine .inl ⟨⟨p, hp, hn⟩, ?_⟩
      cases p with
      | done a => cases hn
      | perform e next => rfl
    · cases a with
      | error h =>
        obtain ⟨rfl, rfl⟩ := Program.does_done.1 hy
        exact .inr (.inl ⟨h, ⟨_, by rwa [List.append_nil], rfl⟩, rfl⟩)
      | ok a => exact .inr (.inr ⟨a, xs, ys, rfl, ⟨_, hx, rfl⟩, ⟨q, hy, rfl⟩⟩)
  · rintro (⟨⟨p, hp, hn⟩, rfl⟩ | ⟨h, ⟨p, hp, he⟩, rfl⟩ |
      ⟨a, xs, ys, rfl, ⟨p, hp, ha⟩, ⟨q, hq, rfl⟩⟩)
    · refine ⟨_, Program.does_bind.2 (.inl ⟨p, hp, hn, rfl⟩), ?_⟩
      cases p with
      | done a => cases hn
      | perform e next => rfl
    · rw [Program.result?_eq_some] at he
      subst he
      exact ⟨_, Program.does_bind.2 (.inr ⟨_, es, [], by simp, hp, .rest _⟩), rfl⟩
    · rw [Program.result?_eq_some] at ha
      subst ha
      exact ⟨q, Program.does_bind.2 (.inr ⟨_, xs, ys, rfl, hp, hq⟩), rfl⟩

/-- A call whose value is only made into another does what it does without that. -/
theorem does_bind_pure {c : Call α} {g : α → β} {es : List Event} {r : Option (Except Halt β)} :
    Does (c >>= fun a => pure (g a)) es r ↔ ∃ r', Does c es r' ∧ r = r'.map (·.map g) := by
  constructor
  · intro h
    rcases does_bind.1 h with ⟨hc, rfl⟩ | ⟨e, hc, rfl⟩ | ⟨a, xs, ys, rfl, hc, hy⟩
    · exact ⟨none, hc, rfl⟩
    · exact ⟨_, hc, rfl⟩
    · obtain ⟨rfl, rfl⟩ := does_pure.1 hy
      exact ⟨_, by rwa [List.append_nil], rfl⟩
  · rintro ⟨r', hc, rfl⟩
    rcases r' with _ | e | a
    · exact does_bind.2 (.inl ⟨hc, rfl⟩)
    · exact does_bind.2 (.inr (.inl ⟨e, hc, rfl⟩))
    · exact does_bind.2 (.inr (.inr ⟨a, es, [], by simp, hc, does_pure.2 ⟨rfl, rfl⟩⟩))

theorem does_perform_bind {e : Effect} {f : e.Answer → Call β} {es : List Event}
    {r : Option (Except Halt β)} : Does (perform e >>= f) es r ↔
      (es = [] ∧ r = none) ∨ ∃ answer ys, es = ⟨e, answer⟩ :: ys ∧ Does (f answer) ys r := by
  constructor
  · rintro ⟨q, hq, rfl⟩
    rcases Program.does_perform.1 hq with ⟨rfl, rfl⟩ | ⟨answer, ys, rfl, hy⟩
    · exact .inl ⟨rfl, rfl⟩
    · exact .inr ⟨answer, ys, rfl, q, hy, rfl⟩
  · rintro (⟨rfl, rfl⟩ | ⟨answer, ys, rfl, q, hq, rfl⟩)
    · exact ⟨_, .rest _, rfl⟩
    · exact ⟨q, .act hq, rfl⟩

/-- Looking at a value that may be a fault takes no event. -/
theorem does_ofExcept_bind {ε : Type} {error : ε → Error} {x : Except ε α} {f : α → Call β}
    {es : List Event} {r : Option (Except Halt β)} : Does (ofExcept error x >>= f) es r ↔
      (∃ fault, x = .error fault ∧ es = [] ∧ r = some (.error (.error (error fault)))) ∨
      ∃ a, x = .ok a ∧ Does (f a) es r := by
  cases x with
  | ok a =>
    constructor
    · intro h
      exact .inr ⟨a, rfl, h⟩
    · rintro (⟨_, hfault, -⟩ | ⟨_, hok, h⟩)
      · cases hfault
      · cases hok
        exact h
  | error fault =>
    constructor
    · intro h
      exact .inl ⟨fault, rfl, does_fail.1 h⟩
    · rintro (⟨_, hfault, h⟩ | ⟨_, hok, -⟩)
      · cases hfault
        exact does_fail.2 h
      · cases hok

/-- How a call ends whose error is its value. -/
def attempted : Except Halt α → Except Halt (Except Error α)
  | .ok a => .ok (.ok a)
  | .error (.error e) => .ok (.error e)
  | .error .beyondCalendar => .error .beyondCalendar

theorem run_attempt (c : Call α) : (attempt c).run = c.run.bind fun result => .done (attempted result) := by
  change c.run.bind _ = _
  congr 1
  funext result
  cases result with
  | ok a => rfl
  | error h => cases h <;> rfl

theorem does_attempt {c : Call α} {es : List Event} {r : Option (Except Halt (Except Error α))} :
    Does (attempt c) es r ↔ ∃ r', Does c es r' ∧ r = r'.map attempted := by
  unfold Does
  rw [run_attempt]
  constructor
  · rintro ⟨q, hq, rfl⟩
    rcases Program.does_bind.1 hq with ⟨p, hp, hn, rfl⟩ | ⟨result, xs, ys, rfl, hx, hy⟩
    · refine ⟨none, ⟨p, hp, hn⟩, ?_⟩
      cases p with
      | done a => cases hn
      | perform e next => rfl
    · obtain ⟨rfl, rfl⟩ := Program.does_done.1 hy
      exact ⟨some result, ⟨_, by rwa [List.append_nil], rfl⟩, rfl⟩
  · rintro ⟨r', ⟨p, hp, rfl⟩, rfl⟩
    cases p with
    | done result =>
      exact ⟨.done (attempted result), Program.does_bind.2 (.inr ⟨result, es, [], by simp, hp, .rest _⟩), rfl⟩
    | perform e next => exact ⟨_, Program.does_bind.2 (.inl ⟨_, hp, rfl, rfl⟩), rfl⟩

/-- Every event of the call is of that sort, whatever is answered. -/
def Always (c : Call α) (P : Event → Prop) : Prop := ∀ es r, Does c es r → ∀ ev ∈ es, P ev

section Always
variable {P Q : Event → Prop}

theorem Always.imp {c : Call α} (h : Always c P) (himp : ∀ ev, P ev → Q ev) : Always c Q :=
  fun es r hd ev hev => himp ev (h es r hd ev hev)

theorem always_pure {a : α} : Always (pure a) P := by
  intro es r h ev hev
  rw [(does_pure.1 h).1] at hev
  cases hev

theorem always_throw {h : Halt} : Always (throw h : Call α) P := by
  intro es r hd ev hev
  rw [(does_throw.1 hd).1] at hev
  cases hev

theorem always_fail {e : Error} : Always (fail e : Call α) P := always_throw

theorem always_perform {e : Effect} (h : ∀ answer, P ⟨e, answer⟩) : Always (perform e) P := by
  intro es r hd ev hev
  rcases does_perform.1 hd with ⟨rfl, -⟩ | ⟨answer, rfl, -⟩
  · cases hev
  · rw [List.mem_singleton] at hev
    subst hev
    exact h answer

theorem always_bind {c : Call α} {f : α → Call β} (hc : Always c P) (hf : ∀ a, Always (f a) P) :
    Always (c >>= f) P := by
  intro es r hd ev hev
  rcases does_bind.1 hd with ⟨h, -⟩ | ⟨_, h, -⟩ | ⟨a, xs, ys, rfl, hx, hy⟩
  · exact hc _ _ h ev hev
  · exact hc _ _ h ev hev
  · rcases List.mem_append.1 hev with hev | hev
    · exact hc _ _ hx ev hev
    · exact hf a _ _ hy ev hev

theorem always_ofExcept {ε : Type} {error : ε → Error} {x : Except ε α} :
    Always (ofExcept error x) P := by
  cases x with
  | ok a => exact always_pure
  | error fault => exact always_fail

theorem always_forM {f : α → Call PUnit} {xs : List α} (h : ∀ a ∈ xs, Always (f a) P) :
    Always (xs.forM f) P := by
  induction xs with
  | nil => exact always_pure
  | cons a xs ih =>
    exact always_bind (h a (by simp)) fun _ => ih fun b hb => h b (List.mem_cons_of_mem a hb)

theorem always_attempt {c : Call α} (h : Always c P) : Always (attempt c) P := by
  intro es r hd
  obtain ⟨r', hr', -⟩ := does_attempt.1 hd
  exact h es r' hr'

end Always

end Call

/-! ## The client's memory -/

namespace Memory

/-- If the memory was asked, it answered what it holds. -/
def Tells (m : Memory) : Event → Prop
  | ⟨.readToken, answer⟩ => answer = m.token
  | ⟨.readEtag ruleSet, answer⟩ => answer = m.etags.get? ruleSet
  | ⟨.readAvailability, answer⟩ => answer = m.availability
  | ⟨.readGroup id, answer⟩ => answer = m.groups.get? id
  | _ => True

/-- The memory after an event. -/
def after (m : Memory) : Event → Memory
  | ⟨.writeToken token, _⟩ => { m with token }
  | ⟨.writeEtag ruleSet etag, _⟩ => { m with etags := m.etags.put ruleSet etag }
  | ⟨.writeAvailability availability, _⟩ => { m with availability }
  | ⟨.writeGroup id group, _⟩ => { m with groups := m.groups.put id group }
  | ⟨.clearGroups, _⟩ => { m with groups := .empty }
  | _ => m

/-- The memory answers all events by what it holds at the time, and `m'` is what it becomes. -/
inductive Follows : Memory → List Event → Memory → Prop
  | nil (m : Memory) : Follows m [] m
  | cons {m m' : Memory} {ev : Event} {es : List Event} :
      m.Tells ev → Follows (m.after ev) es m' → Follows m (ev :: es) m'

theorem follows_nil {m m' : Memory} : Follows m [] m' ↔ m' = m := by
  constructor
  · intro h
    cases h
    rfl
  · rintro rfl
    exact .nil _

theorem follows_cons {m m' : Memory} {ev : Event} {es : List Event} :
    Follows m (ev :: es) m' ↔ m.Tells ev ∧ Follows (m.after ev) es m' := by
  constructor
  · intro h
    cases h with
    | cons htells hrest => exact ⟨htells, hrest⟩
  · rintro ⟨htells, hrest⟩
    exact .cons htells hrest

theorem follows_append {m m' : Memory} {es fs : List Event} :
    Follows m (es ++ fs) m' ↔ ∃ k, Follows m es k ∧ Follows k fs m' := by
  induction es generalizing m with
  | nil => simp only [List.nil_append, follows_nil, exists_eq_left]
  | cons ev es ih =>
    simp only [List.cons_append, follows_cons, ih]
    constructor
    · rintro ⟨ht, k, hk, hr⟩
      exact ⟨k, ⟨ht, hk⟩, hr⟩
    · rintro ⟨k, ⟨ht, hk⟩, hr⟩
      exact ⟨ht, k, hk, hr⟩

theorem follows_concat {m m' : Memory} {es : List Event} {ev : Event} :
    Follows m (es ++ [ev]) m' ↔ ∃ k, Follows m es k ∧ k.Tells ev ∧ m' = k.after ev := by
  simp only [follows_append, follows_cons, follows_nil]

/-- An event changes the version of a rule set only by recording one. -/
theorem etags_after (m : Memory) (ev : Event) (ruleSet : String) :
    (m.after ev).etags.get? ruleSet = (ev.recorded? ruleSet).or (m.etags.get? ruleSet) := by
  obtain ⟨e, answer⟩ := ev
  cases e with
  | writeEtag name etag =>
    simp only [after, Event.recorded?, Store.get?_put]
    by_cases h : ruleSet = name
    · simp [h]
    · simp [h, Ne.symm h]
  | _ => rfl

/-- The version of a rule set that was recorded last, if one was. -/
def lastRecorded (ruleSet : String) (es : List Event) : Option String :=
  (es.filterMap (·.recorded? ruleSet)).getLast?

theorem lastRecorded_append (ruleSet : String) (es fs : List Event) :
    lastRecorded ruleSet (es ++ fs) = (lastRecorded ruleSet fs).or (lastRecorded ruleSet es) := by
  rw [lastRecorded, List.filterMap_append, List.getLast?_append]
  rfl

theorem mem_of_lastRecorded {ruleSet etag : String} {es : List Event}
    (h : lastRecorded ruleSet es = some etag) : ⟨.writeEtag ruleSet etag, ()⟩ ∈ es := by
  obtain ⟨⟨e, answer⟩, hev, hr⟩ := List.mem_filterMap.1 (List.mem_of_getLast? h)
  cases e with
  | writeEtag name other =>
    simp only [Event.recorded?] at hr
    split_ifs at hr with hname
    cases hname
    cases hr
    exact hev
  | _ => cases hr

/-- What is remembered of a rule set is the version recorded last. -/
theorem Follows.etags {m m' : Memory} {es : List Event} (h : m.Follows es m') (ruleSet : String) :
    m'.etags.get? ruleSet = (lastRecorded ruleSet es).or (m.etags.get? ruleSet) := by
  induction h with
  | nil m => rfl
  | @cons m m' ev es _ _ ih =>
    rw [ih, etags_after, ← List.singleton_append, lastRecorded_append, Option.or_assoc]
    congr 2
    simp only [lastRecorded, List.filterMap_cons, List.filterMap_nil]
    cases ev.recorded? ruleSet <;> rfl

end Memory

/-! ## Runs in a world -/

namespace World

variable {α σ : Type}

theorem act_tells (w : World σ) (e : Effect) (m : Memory) (s : σ) :
    m.Tells ⟨e, (w.act e (m, s)).1⟩ ∧ (w.act e (m, s)).2.1 = m.after ⟨e, (w.act e (m, s)).1⟩ := by
  cases e <;> exact ⟨by simp only [Memory.Tells, act], rfl⟩

/-- The events of a program that the world carries out. -/
def events (w : World σ) : Program α → Memory × σ → List Event
  | .done _, _ => []
  | .perform e next, st => ⟨e, (w.act e st).1⟩ :: w.events (next (w.act e st).1) (w.act e st).2

theorem does_events (w : World σ) (p : Program α) (st : Memory × σ) :
    Program.Does p (w.events p st) (.done (w.run p st).1) := by
  induction p generalizing st with
  | done a => exact .rest _
  | perform e next ih => exact .act (ih _ _)

theorem follows_events (w : World σ) (p : Program α) (st : Memory × σ) :
    st.1.Follows (w.events p st) (w.run p st).2.1 := by
  induction p generalizing st with
  | done a => exact .nil _
  | perform e next ih =>
    obtain ⟨htells, hafter⟩ := act_tells w e st.1 st.2
    refine .cons htells ?_
    rw [← hafter]
    exact ih _ _

/-- Each answer among these events is the world's, as things are at the time. -/
theorem answer_of_mem_events {w : World σ} {p : Program α} {st : Memory × σ} {e : Effect} {answer : e.Answer}
    (h : ⟨e, answer⟩ ∈ w.events p st) : ∃ st₁, answer = (w.act e st₁).1 := by
  induction p generalizing st with
  | done a => cases h
  | perform e' next ih =>
    rcases List.mem_cons.1 h with heq | h
    · cases heq
      exact ⟨st, rfl⟩
    · exact ih _ h

/-- What a world makes of a call is what the call does with these answers. -/
theorem call_does_events (w : World σ) (c : Call α) (st : Memory × σ) :
    c.Does (w.events c.run st) (some (w.run c.run st).1) := ⟨_, w.does_events c.run st, rfl⟩

/-- A world answers a call to its end, as the client's memory allows. -/
theorem run_does (w : World σ) (c : Call α) (m : Memory) (s : σ) :
    ∃ es, c.Does es (some (w.run c.run (m, s)).1) ∧ m.Follows es (w.run c.run (m, s)).2.1 :=
  ⟨_, w.call_does_events c (m, s), w.follows_events c.run (m, s)⟩

end World

end AccessSync
