import AccessSync.Proofs.Rule.Meaning
import Mathlib.Order.BooleanAlgebra.Set
/-!
# Editing rules is editing a set

A `RoleEdit` adds a principal to the role of a slug or removes it. On a list in good order it is
insertion or deletion of one pair, its answer says whether the set has changed, and the list stays in
good order (`refines_of_wellFormed`). `edits_refine_set`: so it goes on through every sequence of
edits.
-/

namespace AccessSync

/-- A change of who has the role of a slug. -/
inductive RoleEdit where
  | add (slug : String) (p : PrincipalName)
  | remove (slug : String) (p : PrincipalName)
  deriving DecidableEq

namespace RoleEdit

open Rule

def slug : RoleEdit → String
  | add slug _ | remove slug _ => slug

def principal : RoleEdit → PrincipalName
  | add _ p | remove _ p => p

/-- The pair that the edit is about. -/
def pair (e : RoleEdit) : List Char × PrincipalName := (RoleMatch.bare e.slug.toList, e.principal)

/-- What the edit makes of a list of rules, and whether it says that this is anything new. -/
def edit : RoleEdit → List Rule → Bool × List Rule
  | add slug p => Rule.grant (.exact slug) slug p
  | remove slug p => Rule.revoke (.exact slug) p

/-- What the edit makes of a set of pairs. -/
def onSet : RoleEdit → Set (List Char × PrincipalName) → Set (List Char × PrincipalName)
  | e@(add _ _), s => insert e.pair s
  | e@(remove _ _), s => s \ {e.pair}

/-- The rules after a sequence of edits. -/
def run (edits : List RoleEdit) (rules : List Rule) : List Rule :=
  edits.foldl (fun rules e => (e.edit rules).2) rules

/-- On these rules the edit is what it is on their meaning. -/
structure Refines (e : RoleEdit) (rules : List Rule) : Prop where
  wellFormed : WellFormed (e.edit rules).2
  meaning : meaning (e.edit rules).2 = e.onSet (meaning rules)
  changed : (e.edit rules).1 = true ↔ Rule.meaning (e.edit rules).2 ≠ Rule.meaning rules
  unchanged : (e.edit rules).1 = false → (e.edit rules).2 = rules
  /-- Removing what was just added brings back the list as it was. -/
  undone : ∀ slug p, e = add slug p → (e.edit rules).1 = true →
    (remove slug p).edit (e.edit rules).2 = (true, rules)

variable {slug : String} {p : PrincipalName} {rules before after : List Rule} {r : Rule}

/-! ## Any list -/

/-- The answer of an edit says whether the meaning changes. -/
theorem fst_edit_iff (e : RoleEdit) (rules : List Rule) :
    (e.edit rules).1 = true ↔ e.onSet (meaning rules) ≠ meaning rules := by
  cases e with
  | add slug p =>
    have hgrant : ((add slug p).edit rules).1 = true ↔ (add slug p).pair ∉ meaning rules := by
      rw [edit, grant_fst_eq_true_iff]
      exact notMem_meaning_iff_grants.symm
    rw [hgrant, onSet, ne_eq, Set.insert_eq_self]
  | remove slug p =>
    have hrevoke : ((remove slug p).edit rules).1 = true ↔ (remove slug p).pair ∈ meaning rules := by
      rw [← not_iff_not, Bool.not_eq_true, edit, revoke_fst_eq_false_iff]
      exact notMem_meaning_iff_grants.symm
    rw [hrevoke, onSet, ne_eq, sdiff_eq_left, Set.disjoint_singleton_right, not_not]

theorem edit_of_fst_eq_false {e : RoleEdit} (h : (e.edit rules).1 = false) :
    (e.edit rules).2 = rules := by
  cases e with
  | add slug p =>
    rw [edit, grant_of_fst_eq_false h]
  | remove slug p =>
    rw [edit, revoke_of_none (revoke_fst_eq_false_iff.1 h)]

/-! ## A list in good order -/

/-- What an edit does that changes anything: the rule of the role is made, gets an entry or loses
one. -/
inductive Works : RoleEdit → List Rule → List Rule → Prop
  | made {slug : String} {p : PrincipalName} {rules : List Rule} :
      (∀ r ∈ rules, (RoleMatch.exact slug).accepts r.role = false) →
      Works (add slug p) rules (rules ++ [⟨[p.text], slug⟩])
  | added {slug : String} {p : PrincipalName} {before after : List Rule} {r : Rule} :
      r.bareRole = RoleMatch.bare slug.toList → (∀ s ∈ before, s.grants (.exact slug) p = false) →
      r.holds p = false → Works (add slug p) (before ++ r :: after) (before ++ r.add p :: after)
  | removed {slug : String} {p : PrincipalName} {before after : List Rule} {r : Rule} :
      r.bareRole = RoleMatch.bare slug.toList →
      (∀ s ∈ before ++ after, (RoleMatch.exact slug).accepts s.role = false) →
      Works (remove slug p) (before ++ r :: after) (before ++ r.without p ++ after)

theorem not_grants_of_not_accepts (h : ∀ s ∈ rules, (RoleMatch.exact slug).accepts s.role = false) :
    ∀ s ∈ rules, s.grants (.exact slug) p = false := by
  intro s hs
  rw [grants, h s hs, Bool.false_and]

theorem works_of_fst {e : RoleEdit} (hw : WellFormed rules) (h : (e.edit rules).1 = true) :
    Works e rules (e.edit rules).2 := by
  cases e with
  | add slug p =>
    have hnone := grant_fst_eq_true_iff.1 h
    rcases hw.at_most_one slug with hunmatched | ⟨before, r, after, rfl, hrole, hbefore, hafter⟩
    · rw [edit, grant_of_unmatched hunmatched]
      exact .made hunmatched
    · have hacc := accepts_exact_eq_true_iff.2 hrole
      have hnot : r.holds p = false := grants_eq_false_iff.1 (hnone r (by simp)) hacc
      rw [edit, grant_of_matched hnone (by simp) hacc, List.map_append, List.map_cons,
        map_addTo_of_not hbefore, map_addTo_of_not hafter, addTo_of_accepts hacc]
      exact .added hrole (not_grants_of_not_accepts hbefore) hnot
  | remove slug p =>
    have hsome : ¬∀ r ∈ rules, r.grants (.exact slug) p = false := by
      rw [← revoke_fst_eq_false_iff]
      intro hfalse
      rw [edit, hfalse] at h
      cases h
    rcases hw.at_most_one slug with hunmatched | ⟨before, r, after, rfl, hrole, hbefore, hafter⟩
    · exact absurd (not_grants_of_not_accepts hunmatched) hsome
    · -- Some rule grants it, and only that of the role can.
      have hothers : ∀ s ∈ before ++ after, (RoleMatch.exact slug).accepts s.role = false := by
        intro s hs
        rcases List.mem_append.1 hs with hs | hs
        · exact hbefore s hs
        · exact hafter s hs
      have hr : r.grants (.exact slug) p = true := by
        by_contra hr
        apply hsome
        intro s hs
        rcases List.mem_append.1 hs with hs | hs
        · exact not_grants_of_not_accepts hbefore s hs
        rcases List.mem_cons.1 hs with rfl | hs
        · exact Bool.eq_false_iff.2 hr
        · exact not_grants_of_not_accepts hafter s hs
      rw [edit, revoke_eq (not_grants_of_not_accepts hbefore) hr]
      exact .removed hrole hothers

namespace Works

variable {e : RoleEdit} {now : List Rule}

theorem wellFormed (h : Works e rules now) (hw : WellFormed rules) (hp : e.principal.Readable) :
    WellFormed now := by
  cases h with
  | @made slug p _ hunmatched =>
    refine hw.append ?_ (by simp) (List.pairwise_singleton _ _)
    intro hmem
    obtain ⟨r, hr, hrole⟩ := List.mem_map.1 hmem
    have hacc := accepts_exact_eq_true_iff.2 hrole
    rw [hunmatched r hr] at hacc
    cases hacc
  | @added slug p _ _ r _ _ hnot =>
    exact hw.replace rfl (by simp [Rule.add]) (distinct_add (hw.distinct r (by simp)) hp hnot)
  | removed => exact hw.without

theorem meaning (h : Works e rules now) (hp : e.principal.Readable) :
    Rule.meaning now = e.onSet (Rule.meaning rules) := by
  have hsplit : ∀ (before after : List Rule) (r : Rule), Rule.meaning (before ++ r :: after) =
      Rule.meaning [r] ∪ Rule.meaning (before ++ after) := by
    intro before after r
    rw [← List.singleton_append, meaning_append, meaning_append, meaning_append,
      Set.union_left_comm]
  cases h with
  | @made slug p _ hunmatched =>
    replace hp : p.Readable := hp
    rw [meaning_append, meaning_single hp, Set.union_singleton]
    rfl
  | @added slug p before after r hrole _ hnot =>
    replace hp : p.Readable := hp
    rw [hsplit, hsplit before after r, meaning_add hp, hrole, Set.insert_union]
    rfl
  | @removed slug p before after r hrole hothers =>
    have hfresh : (RoleMatch.bare slug.toList, p) ∉ Rule.meaning (before ++ after) :=
      notMem_meaning_of_not_accepts hothers
    rw [hsplit, meaning_append, meaning_append, meaning_without, hrole, Set.union_right_comm,
      ← meaning_append, Set.union_comm, onSet, Set.union_sdiff_distrib]
    congr 1
    rw [eq_comm, sdiff_eq_left, Set.disjoint_singleton_right]
    exact hfresh

/-- Removing takes away what adding has made, and no more. -/
theorem undone (h : Works (add slug p) rules now) (hw : WellFormed rules) (hp : p.Readable) :
    (remove slug p).edit now = (true, rules) := by
  cases h with
  | made hunmatched =>
    have hheld : (⟨[p.text], slug⟩ : Rule).grants (.exact slug) p = true := by
      rw [grants, RoleMatch.accepts_exact_self, holds_single, names_text_iff.2 hp]
      rfl
    have hempty : (⟨[p.text], slug⟩ : Rule).without p = [] := by
      rw [without, if_pos]
      simp [drop, names_text_iff.2 hp]
    rw [edit, revoke_eq (not_grants_of_not_accepts hunmatched) hheld, hempty, List.append_nil,
      List.append_nil]
  | @added _ _ before after r hrole hbefore hnot =>
    have hheld : (r.add p).grants (.exact slug) p = true := by
      rw [grants_exact_iff, holds_add_readable hp]
      exact ⟨hrole, .inr rfl⟩
    have hback : (r.add p).without p = [r] := by
      rw [without, drop_add hp hnot, if_neg (hw.occupied r (by simp))]
    rw [edit, revoke_eq hbefore hheld, hback, List.append_assoc, List.singleton_append]

end Works

/-- On a list in good order every edit of a name that can be read is one of the set of pairs. -/
theorem refines_of_wellFormed {e : RoleEdit} (hw : WellFormed rules) (hp : e.principal.Readable) :
    e.Refines rules := by
  cases h : (e.edit rules).1 with
  | false =>
    have hsame := edit_of_fst_eq_false h
    have hset : e.onSet (meaning rules) = meaning rules := by
      by_contra hne
      rw [(fst_edit_iff e rules).2 hne] at h
      cases h
    refine ⟨?_, ?_, ?_, ?_, ?_⟩
    · rw [hsame]
      exact hw
    · rw [hsame, hset]
    · rw [hsame, h]
      simp
    · intro _
      exact hsame
    · intro slug p _ htrue
      rw [h] at htrue
      cases htrue
  | true =>
    have hworks := works_of_fst hw h
    have hmeaning := hworks.meaning hp
    refine ⟨hworks.wellFormed hw hp, hmeaning, ?_, ?_, ?_⟩
    · rw [hmeaning]
      exact fst_edit_iff e rules
    · intro hfalse
      rw [h] at hfalse
      cases hfalse
    · rintro slug p rfl -
      exact hworks.undone hw hp

/-! ## Sequences -/

/-- A list in good order stays so, and its meaning goes through the same edits as a set. -/
theorem run_wellFormed {edits : List RoleEdit} (hw : WellFormed rules)
    (hp : ∀ e ∈ edits, e.principal.Readable) :
    WellFormed (run edits rules) ∧
      meaning (run edits rules) = edits.foldl (fun s e => e.onSet s) (meaning rules) := by
  induction edits generalizing rules with
  | nil => exact ⟨hw, rfl⟩
  | cons e edits ih =>
    have hstep := refines_of_wellFormed hw (hp e (by simp))
    obtain ⟨hrest, hmeaning⟩ := ih hstep.wellFormed fun x hx => hp x (by simp [hx])
    refine ⟨hrest, ?_⟩
    rw [List.foldl_cons, ← hstep.meaning]
    exact hmeaning

/-- Whatever sequence of edits a list in good order goes through, it is in good order all the time
and every edit is insertion or deletion of its pair: it says whether the set has changed, leaves the
list alone if not, and what was added is taken away again without a trace. -/
theorem edits_refine_set (hw : WellFormed rules) {edits : List RoleEdit}
    (hp : ∀ e ∈ edits, e.principal.Readable) :
    WellFormed (run edits rules) ∧
    meaning (run edits rules) = edits.foldl (fun s e => e.onSet s) (meaning rules) ∧
    ∀ before e after, edits = before ++ e :: after →
      WellFormed (run before rules) ∧ e.Refines (run before rules) ∧
      run (before ++ [e]) rules = (e.edit (run before rules)).2 := by
  obtain ⟨hrun, hmeaning⟩ := run_wellFormed hw hp
  refine ⟨hrun, hmeaning, ?_⟩
  rintro before e after rfl
  have hfirst : ∀ x ∈ before, x.principal.Readable := fun x hx => hp x (by simp [hx])
  obtain ⟨hbefore, -⟩ := run_wellFormed hw hfirst
  refine ⟨hbefore, refines_of_wellFormed hbefore (hp e (by simp)), ?_⟩
  rw [run, List.foldl_append]
  rfl

/-- Rules with two spellings of a kind, an entry that cannot be read, and a role in its short
spelling. -/
def mixed : List Rule :=
  [⟨["Users/alice", "somebody"], "roles/group.manager"⟩, ⟨["users/bob"], "group.user"⟩]

theorem mixed_wellFormed : WellFormed mixed := by
  have hnames : ∀ p, names p "somebody" = false := by
    intro p
    rw [Bool.eq_false_iff]
    intro h
    have hparse : (PrincipalName.parse "somebody").toOption = none := by decide +kernel
    rw [names_iff.1 h] at hparse
    cases hparse
  refine ⟨by decide +kernel, by decide, ?_⟩
  intro r hr
  simp only [mixed, List.mem_cons, List.not_mem_nil, or_false] at hr
  rcases hr with rfl | rfl
  · simp [Distinct, hnames]
  · exact List.pairwise_singleton _ _

theorem edits_refine_set_on_mixed :
    WellFormed mixed ∧
    WellFormed (run [add "group.manager" ⟨.user, "bob"⟩, remove "roles/group.user" ⟨.user, "bob"⟩] mixed) := by
  refine ⟨mixed_wellFormed, (edits_refine_set mixed_wellFormed ?_).1⟩
  decide

end RoleEdit

end AccessSync
