import AccessSync.Rule.Edit
import Mathlib.Data.List.Basic
/-!
# What a revocation leaves

A role that is asked for may be that of several rules, and a principal may be held by any number of
them. A revocation works on the first that matches and holds the principal (`revoke_eq`), so there is
one less of them afterwards (`countP_revoke`).
-/

namespace AccessSync.Rule

variable {m : RoleMatch} {p : PrincipalName} {rules : List Rule}

/-- The rule is one of those asked for and holds the principal. -/
def grants (m : RoleMatch) (p : PrincipalName) (r : Rule) : Bool := m.accepts r.role && r.holds p

theorem grants_eq_false_iff {r : Rule} :
    r.grants m p = false ↔ (m.accepts r.role = true → r.holds p = false) := by
  cases h : m.accepts r.role <;> simp [grants, h]

theorem holds_drop (p : PrincipalName) (r : Rule) : (r.drop p).holds p = false := by
  rw [holds, List.any_eq_false]
  intro entry h
  have := (List.mem_filter.1 h).2
  simpa using this

theorem grants_drop (m : RoleMatch) (p : PrincipalName) (r : Rule) :
    (r.drop p).grants m p = false := by
  rw [grants, holds_drop, Bool.and_false]

/-- What a rule is without the principal: nothing, if nobody else was in it. -/
def without (p : PrincipalName) (r : Rule) : List Rule :=
  if (r.drop p).principals = [] then [] else [r.drop p]

theorem countP_without (m : RoleMatch) (p : PrincipalName) (r : Rule) :
    (r.without p).countP (grants m p) = 0 := by
  rw [without]
  split_ifs
  · rfl
  · rw [List.countP_singleton, grants_drop]
    rfl

theorem revoke_of_none (h : ∀ r ∈ rules, r.grants m p = false) : revoke m p rules = (false, rules) := by
  induction rules with
  | nil => rfl
  | cons r rules ih =>
    have hr := h r (by simp)
    rw [grants] at hr
    rw [revoke, hr, ih fun r hr => h r (by simp [hr])]
    rfl

/-- The first rule that is asked for and holds the principal loses it; all others stay as they are. -/
theorem revoke_eq {before after : List Rule} {r : Rule} (h : ∀ r ∈ before, r.grants m p = false)
    (hr : r.grants m p = true) :
    revoke m p (before ++ r :: after) = (true, before ++ r.without p ++ after) := by
  induction before with
  | nil =>
    rw [grants] at hr
    rw [List.nil_append, revoke, hr, if_pos rfl, without]
    split_ifs <;> rfl
  | cons x before ih =>
    have hx := h x (by simp)
    rw [grants] at hx
    rw [List.cons_append, revoke, hx, ih fun r hr => h r (by simp [hr])]
    rfl

/-- Either no rule holds the principal, or there is a first one that does. -/
theorem none_or_first (m : RoleMatch) (p : PrincipalName) (rules : List Rule) :
    (∀ r ∈ rules, r.grants m p = false) ∨ ∃ before r after, rules = before ++ r :: after ∧
      (∀ r ∈ before, r.grants m p = false) ∧ r.grants m p = true := by
  induction rules with
  | nil => exact .inl (by simp)
  | cons x rules ih =>
    cases hx : x.grants m p with
    | true => exact .inr ⟨[], x, rules, rfl, by simp, hx⟩
    | false =>
      rcases ih with h | ⟨before, r, after, rfl, hb, hr⟩
      · exact .inl (by simpa [hx] using h)
      · exact .inr ⟨x :: before, r, after, rfl, by simpa [hx] using hb, hr⟩

theorem revoke_fst_eq_false_iff :
    (revoke m p rules).1 = false ↔ ∀ r ∈ rules, r.grants m p = false := by
  rcases none_or_first m p rules with h | ⟨before, r, after, rfl, hb, hr⟩
  · rw [revoke_of_none h]
    exact ⟨fun _ => h, fun _ => rfl⟩
  · rw [revoke_eq hb hr]
    constructor
    · intro hf
      cases hf
    · intro hn
      rw [hn r (by simp)] at hr
      cases hr

/-- A revocation that changes anything leaves one rule less that holds the principal. -/
theorem countP_revoke (h : (revoke m p rules).1 = true) :
    (revoke m p rules).2.countP (grants m p) + 1 = rules.countP (grants m p) := by
  rcases none_or_first m p rules with hn | ⟨before, r, after, rfl, hb, hr⟩
  · rw [revoke_of_none hn] at h
    cases h
  · rw [revoke_eq hb hr]
    simp only [List.countP_append, countP_without, List.countP_cons, hr, if_true]
    omega

end AccessSync.Rule
