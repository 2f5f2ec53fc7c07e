import AccessSync.Proofs.Principal.Name
import AccessSync.Proofs.Rule.Edit
/-!
# What a grant leaves

A grant finds a matching rule that holds the principal and changes nothing, or it writes the
principal into every matching rule, or it makes a rule of its own (`grant_cases`). Written there, the
principal is held if its name can be read again (`exists_grants_grant`) and is not if it cannot
(`grants_of_not_readable`).
-/

namespace AccessSync.Rule

variable {m : RoleMatch} {newRole : String} {p q : PrincipalName} {r : Rule} {rules : List Rule}

/-- What a grant makes of one rule. -/
def addTo (m : RoleMatch) (p : PrincipalName) (r : Rule) : Rule :=
  if m.accepts r.role then r.add p else r

theorem role_addTo (m : RoleMatch) (p : PrincipalName) (r : Rule) : (r.addTo m p).role = r.role := by
  unfold addTo
  split <;> rfl

theorem addTo_of_accepts (h : m.accepts r.role = true) : r.addTo m p = r.add p := if_pos h

theorem addTo_of_not (h : m.accepts r.role = false) : r.addTo m p = r := by
  rw [addTo, h]
  rfl

theorem map_addTo_of_not (h : ∀ r ∈ rules, m.accepts r.role = false) :
    rules.map (addTo m p) = rules := by
  rw [List.map_congr_left fun r hr => addTo_of_not (h r hr), List.map_id']

/-- A grant finds the principal, or writes it into the matching rules, or makes a rule for it. -/
theorem grant_cases (m : RoleMatch) (newRole : String) (p : PrincipalName) (rules : List Rule) :
    ((∃ r ∈ rules, r.grants m p = true) ∧ grant m newRole p rules = (false, rules)) ∨
    ((∀ r ∈ rules, r.grants m p = false) ∧ (∃ r ∈ rules, m.accepts r.role = true) ∧
      grant m newRole p rules = (true, rules.map (addTo m p))) ∨
    ((∀ r ∈ rules, m.accepts r.role = false) ∧
      grant m newRole p rules = (true, rules ++ [⟨[p.text], newRole⟩])) := by
  unfold grant
  by_cases hheld : (rules.any fun r => m.accepts r.role && r.holds p) = true
  · rw [if_pos hheld]
    exact .inl ⟨List.any_eq_true.1 hheld, rfl⟩
  · rw [if_neg hheld]
    have hnone : ∀ r ∈ rules, r.grants m p = false := by
      simpa [grants] using hheld
    by_cases hmatch : (rules.any fun r => m.accepts r.role) = true
    · rw [if_pos hmatch]
      exact .inr (.inl ⟨hnone, List.any_eq_true.1 hmatch, rfl⟩)
    · rw [if_neg hmatch]
      refine .inr (.inr ⟨?_, rfl⟩)
      simpa using hmatch

theorem grant_of_held (hr : r ∈ rules) (h : r.grants m p = true) :
    grant m newRole p rules = (false, rules) := by
  rcases grant_cases m newRole p rules with ⟨-, hg⟩ | ⟨hnone, -⟩ | ⟨hnone, -⟩
  · exact hg
  · rw [hnone r hr] at h
    cases h
  · rw [grants, hnone r hr] at h
    cases h

theorem grant_of_unmatched (h : ∀ r ∈ rules, m.accepts r.role = false) :
    grant m newRole p rules = (true, rules ++ [⟨[p.text], newRole⟩]) := by
  rcases grant_cases m newRole p rules with ⟨⟨r, hr, hheld⟩, -⟩ | ⟨-, ⟨r, hr, hacc⟩, -⟩ | ⟨-, hg⟩
  · rw [grants, h r hr] at hheld
    cases hheld
  · rw [h r hr] at hacc
    cases hacc
  · exact hg

theorem grant_of_matched (hnone : ∀ r ∈ rules, r.grants m p = false) (hr : r ∈ rules)
    (h : m.accepts r.role = true) : grant m newRole p rules = (true, rules.map (addTo m p)) := by
  rcases grant_cases m newRole p rules with ⟨⟨s, hs, hheld⟩, -⟩ | ⟨-, -, hg⟩ | ⟨hunmatched, -⟩
  · rw [hnone s hs] at hheld
    cases hheld
  · exact hg
  · rw [hunmatched r hr] at h
    cases h

theorem grant_fst_eq_true_iff :
    (grant m newRole p rules).1 = true ↔ ∀ r ∈ rules, r.grants m p = false := by
  rcases grant_cases m newRole p rules with ⟨⟨r, hr, hheld⟩, hg⟩ | ⟨hnone, -, hg⟩ | ⟨hnone, hg⟩
  · rw [hg]
    constructor
    · intro h
      cases h
    · intro h
      rw [h r hr] at hheld
      cases hheld
  · rw [hg]
    exact ⟨fun _ => hnone, fun _ => rfl⟩
  · rw [hg]
    refine ⟨fun _ r hr => ?_, fun _ => rfl⟩
    rw [grants, hnone r hr, Bool.false_and]

/-- A grant that finds the principal leaves the list alone. -/
theorem grant_of_fst_eq_false (h : (grant m newRole p rules).1 = false) :
    grant m newRole p rules = (false, rules) := by
  rcases grant_cases m newRole p rules with ⟨-, hg⟩ | ⟨-, -, hg⟩ | ⟨-, hg⟩
  · exact hg
  · rw [hg] at h
    cases h
  · rw [hg] at h
    cases h

/-! ## What stands in the new list -/

theorem role_of_mem_grant (h : r ∈ (grant m newRole p rules).2) :
    (∃ s ∈ rules, s.role = r.role) ∨ r.role = newRole := by
  rcases grant_cases m newRole p rules with ⟨-, hg⟩ | ⟨-, -, hg⟩ | ⟨-, hg⟩
  · rw [hg] at h
    exact .inl ⟨r, h, rfl⟩
  · rw [hg] at h
    obtain ⟨s, hs, rfl⟩ := List.mem_map.1 h
    exact .inl ⟨s, hs, (role_addTo m p s).symm⟩
  · rw [hg] at h
    rcases List.mem_append.1 h with h | h
    · exact .inl ⟨r, h, rfl⟩
    · rw [List.mem_singleton.1 h]
      exact .inr rfl

theorem entry_of_mem_grant {entry : String} (h : r ∈ (grant m newRole p rules).2)
    (hentry : entry ∈ r.principals) : (∃ s ∈ rules, entry ∈ s.principals) ∨ entry = p.text := by
  rcases grant_cases m newRole p rules with ⟨-, hg⟩ | ⟨-, -, hg⟩ | ⟨-, hg⟩
  · rw [hg] at h
    exact .inl ⟨r, h, hentry⟩
  · rw [hg] at h
    obtain ⟨s, hs, rfl⟩ := List.mem_map.1 h
    unfold addTo at hentry
    split at hentry
    · rcases List.mem_append.1 hentry with hentry | hentry
      · exact .inl ⟨s, hs, hentry⟩
      · exact .inr (List.mem_singleton.1 hentry)
    · exact .inl ⟨s, hs, hentry⟩
  · rw [hg] at h
    rcases List.mem_append.1 h with h | h
    · exact .inl ⟨r, h, hentry⟩
    · rw [List.mem_singleton.1 h] at hentry
      exact .inr (List.mem_singleton.1 hentry)

/-! ## Whether the principal is held -/

theorem holds_add (p q : PrincipalName) (r : Rule) :
    (r.add p).holds q = (r.holds q || names q p.text) := by
  simp [holds, add]

theorem holds_single (p q : PrincipalName) (role : String) :
    (⟨[p.text], role⟩ : Rule).holds q = names q p.text := by
  simp [holds]

/-- A matching rule of the new list holds the principal, if its name can be read. -/
theorem exists_grants_grant (rules : List Rule) (hp : p.Readable) (hm : m.accepts newRole = true) :
    ∃ r ∈ (grant m newRole p rules).2, r.grants m p = true := by
  have hname : names p p.text = true := names_text_iff.2 hp
  rcases grant_cases m newRole p rules with ⟨hheld, hg⟩ | ⟨-, ⟨r, hr, hacc⟩, hg⟩ | ⟨-, hg⟩
  · rw [hg]
    exact hheld
  · rw [hg]
    refine ⟨r.addTo m p, List.mem_map_of_mem hr, ?_⟩
    rw [grants, role_addTo, hacc, addTo_of_accepts hacc, holds_add, hname]
    simp
  · rw [hg]
    refine ⟨⟨[p.text], newRole⟩, by simp, ?_⟩
    rw [grants, hm, holds_single, hname]
    rfl

/-- Nobody is found in the new list whose name cannot be read. -/
theorem grants_of_not_readable (hp : ¬p.Readable) (r : Rule) : r.grants m p = false := by
  have hnot : r.holds p = false := by
    rw [holds, List.any_eq_false]
    intro entry _ h
    exact hp (PrincipalName.readable_of_parse (names_iff.1 h))
  rw [grants, hnot, Bool.and_false]

end AccessSync.Rule
