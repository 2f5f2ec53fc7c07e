import AccessSync.Proofs.Rule.Grant
import AccessSync.Proofs.Rule.RoleMatch
import Mathlib.Data.List.Nodup
import Mathlib.Data.Set.Insert
/-!
# Rules as a set of pairs

A list of rules in good order says of each pair of a role and a principal whether the principal has
the role. Adding and removing by the exact name of a role are insertion and deletion of one pair:
`refines_of_wellFormed` says so for one edit and `edits_refine_set` for any sequence of them.

In a list in good order at most one rule has a role (`WellFormed.at_most_one`), so an edit works on
one rule and leaves those before and behind it.
-/

namespace AccessSync.Rule

variable {p q : PrincipalName} {r : Rule} {rules before after : List Rule} {slug newRole : String}

/-- The role of the rule without `roles/` in front. -/
def bareRole (r : Rule) : List Char := RoleMatch.bare r.role.toList

/-- No entry names a principal that another names. -/
def Distinct (entries : List String) : Prop :=
  entries.Pairwise fun a b => ∀ p, names p a = true → names p b = false

/-- The list has one rule for a role, none of them empty, and none holds a principal twice. -/
structure WellFormed (rules : List Rule) : Prop where
  roles : (rules.map bareRole).Nodup
  occupied : ∀ r ∈ rules, r.principals ≠ []
  distinct : ∀ r ∈ rules, Distinct r.principals

/-- The pairs of role and principal that the entries stand for. Entries that cannot be read stand
for nothing. -/
def meaning (rules : List Rule) : Set (List Char × PrincipalName) :=
  {x | ∃ r ∈ rules, r.bareRole = x.1 ∧ ∃ entry ∈ r.principals, PrincipalName.parse entry = .ok x.2}

theorem holds_iff : r.holds p = true ↔ ∃ entry ∈ r.principals, PrincipalName.parse entry = .ok p := by
  simp only [holds, List.any_eq_true, names_iff]

theorem mem_meaning {x : List Char × PrincipalName} :
    x ∈ meaning rules ↔ ∃ r ∈ rules, r.bareRole = x.1 ∧ r.holds x.2 = true := by
  simp only [meaning, Set.mem_ofPred_eq, holds_iff]

theorem accepts_exact_eq_true_iff :
    (RoleMatch.exact slug).accepts r.role = true ↔ r.bareRole = RoleMatch.bare slug.toList :=
  RoleMatch.accepts_exact_iff

theorem grants_exact_iff : r.grants (.exact slug) p = true ↔
    r.bareRole = RoleMatch.bare slug.toList ∧ r.holds p = true := by
  rw [grants, Bool.and_eq_true, accepts_exact_eq_true_iff]

/-- A pair is in the meaning exactly if a rule of that role holds the principal. -/
theorem mem_meaning_iff_grants :
    (RoleMatch.bare slug.toList, p) ∈ meaning rules ↔ ∃ r ∈ rules, r.grants (.exact slug) p = true := by
  simp only [mem_meaning, grants_exact_iff]

theorem notMem_meaning_iff_grants : (RoleMatch.bare slug.toList, p) ∉ meaning rules ↔
    ∀ r ∈ rules, r.grants (.exact slug) p = false := by
  rw [mem_meaning_iff_grants]
  push Not
  simp only [ne_eq, Bool.not_eq_true]

theorem meaning_append : meaning (before ++ after) = meaning before ∪ meaning after := by
  ext x
  simp only [mem_meaning, Set.mem_union, List.mem_append, or_and_right, exists_or]

theorem notMem_meaning_of_not_accepts
    (h : ∀ r ∈ rules, (RoleMatch.exact slug).accepts r.role = false) :
    (RoleMatch.bare slug.toList, p) ∉ meaning rules := by
  rw [notMem_meaning_iff_grants]
  intro r hr
  rw [grants, h r hr, Bool.false_and]

/-! ## One rule -/

theorem holds_add_readable (hp : p.Readable) :
    (r.add p).holds q = true ↔ r.holds q = true ∨ q = p := by
  rw [holds_add, Bool.or_eq_true]
  refine or_congr_right ?_
  constructor
  · intro h
    exact eq_of_names h (names_text_iff.2 hp)
  · rintro rfl
    exact names_text_iff.2 hp

theorem meaning_add (hp : p.Readable) : meaning [r.add p] = insert (r.bareRole, p) (meaning [r]) := by
  have hrole : (r.add p).bareRole = r.bareRole := rfl
  ext ⟨role, q⟩
  simp only [mem_meaning, List.mem_singleton, exists_eq_left, Set.mem_insert_iff, Prod.mk.injEq, hrole,
    holds_add_readable hp]
  constructor
  · rintro ⟨rfl, hq | rfl⟩
    · exact .inr ⟨rfl, hq⟩
    · exact .inl ⟨rfl, rfl⟩
  · rintro (⟨rfl, rfl⟩ | ⟨rfl, hq⟩)
    · exact ⟨rfl, .inr rfl⟩
    · exact ⟨rfl, .inl hq⟩

theorem meaning_single (hp : p.Readable) (role : String) :
    meaning [⟨[p.text], role⟩] = {(RoleMatch.bare role.toList, p)} := by
  have hempty : meaning [(⟨[], role⟩ : Rule)] = ∅ := by
    ext x
    simp [mem_meaning, holds]
  have hadd := meaning_add (r := ⟨[], role⟩) hp
  rw [hempty] at hadd
  rw [← insert_empty_eq]
  exact hadd

theorem holds_drop_iff : (r.drop p).holds q = true ↔ r.holds q = true ∧ q ≠ p := by
  simp only [holds, drop, List.any_eq_true, List.mem_filter]
  constructor
  · rintro ⟨entry, ⟨hentry, hnot⟩, hq⟩
    refine ⟨⟨entry, hentry, hq⟩, ?_⟩
    rintro rfl
    rw [hq] at hnot
    cases hnot
  · rintro ⟨⟨entry, hentry, hq⟩, hne⟩
    refine ⟨entry, ⟨hentry, ?_⟩, hq⟩
    rw [Bool.not_eq_true', Bool.eq_false_iff]
    intro hp
    exact hne (eq_of_names hq hp)

theorem meaning_without : meaning (r.without p) = meaning [r] \ {(r.bareRole, p)} := by
  have hdrop : meaning [r.drop p] = meaning [r] \ {(r.bareRole, p)} := by
    have hrole : (r.drop p).bareRole = r.bareRole := rfl
    ext ⟨role, q⟩
    simp only [mem_meaning, List.mem_singleton, exists_eq_left, Set.mem_sdiff, Set.mem_singleton_iff,
      Prod.mk.injEq, hrole, holds_drop_iff]
    constructor
    · rintro ⟨rfl, hq, hne⟩
      exact ⟨⟨rfl, hq⟩, fun h => hne h.2⟩
    · rintro ⟨⟨rfl, hq⟩, hne⟩
      exact ⟨rfl, hq, fun h => hne ⟨rfl, h⟩⟩
  rw [without]
  split
  · rename_i hnobody
    rw [← hdrop]
    ext x
    simp [mem_meaning, holds, hnobody]
  · exact hdrop

theorem distinct_add (hd : Distinct r.principals) (hp : p.Readable) (hnot : r.holds p = false) :
    Distinct (r.add p).principals := by
  rw [add, Distinct, List.pairwise_append]
  refine ⟨hd, List.pairwise_singleton _ _, ?_⟩
  intro a ha b hb q hqa
  rw [List.mem_singleton] at hb
  subst hb
  rw [Bool.eq_false_iff]
  intro hqp
  obtain rfl := eq_of_names hqp (names_text_iff.2 hp)
  rw [holds, List.any_eq_false] at hnot
  exact hnot a ha hqa

/-- Without the entry that was added last the rule is what it was. -/
theorem drop_add (hp : p.Readable) (hnot : r.holds p = false) : (r.add p).drop p = r := by
  rw [holds, List.any_eq_false] at hnot
  have hkept : (r.principals ++ [p.text]).filter (!names p ·) = r.principals := by
    rw [List.filter_append, List.filter_singleton, names_text_iff.2 hp]
    simpa using hnot
  unfold drop add
  rw [hkept]

/-! ## The one rule of a role -/

/-- In good order no two rules have a role that is asked for by its name. -/
theorem WellFormed.at_most_one (h : WellFormed rules) (slug : String) :
    (∀ r ∈ rules, (RoleMatch.exact slug).accepts r.role = false) ∨
    ∃ before r after, rules = before ++ r :: after ∧ r.bareRole = RoleMatch.bare slug.toList ∧
      (∀ s ∈ before, (RoleMatch.exact slug).accepts s.role = false) ∧
      ∀ s ∈ after, (RoleMatch.exact slug).accepts s.role = false := by
  by_cases hmatch : ∃ r ∈ rules, (RoleMatch.exact slug).accepts r.role = true
  · obtain ⟨r, hr, hacc⟩ := hmatch
    obtain ⟨before, after, rfl⟩ := List.append_of_mem hr
    have hrole := accepts_exact_eq_true_iff.1 hacc
    have hnodup := h.roles
    rw [List.map_append, List.map_cons, List.nodup_middle, List.nodup_cons, List.mem_append] at hnodup
    refine .inr ⟨before, r, after, rfl, hrole, ?_, ?_⟩
    · intro s hs
      rw [Bool.eq_false_iff]
      intro hacc'
      apply hnodup.1
      rw [hrole, ← accepts_exact_eq_true_iff.1 hacc']
      exact .inl (List.mem_map_of_mem hs)
    · intro s hs
      rw [Bool.eq_false_iff]
      intro hacc'
      apply hnodup.1
      rw [hrole, ← accepts_exact_eq_true_iff.1 hacc']
      exact .inr (List.mem_map_of_mem hs)
  · left
    intro r hr
    rw [Bool.eq_false_iff]
    intro hacc
    exact hmatch ⟨r, hr, hacc⟩

/-- A rule may be replaced by one of its role. -/
theorem WellFormed.replace {s : Rule} (h : WellFormed (before ++ r :: after))
    (hrole : s.bareRole = r.bareRole) (hne : s.principals ≠ []) (hd : Distinct s.principals) :
    WellFormed (before ++ s :: after) := by
  refine ⟨?_, ?_, ?_⟩
  · have := h.roles
    rw [List.map_append, List.map_cons] at this ⊢
    rw [hrole]
    exact this
  · intro x hx
    simp only [List.mem_append, List.mem_cons] at hx
    rcases hx with hx | rfl | hx
    · exact h.occupied x (by simp [hx])
    · exact hne
    · exact h.occupied x (by simp [hx])
  · intro x hx
    simp only [List.mem_append, List.mem_cons] at hx
    rcases hx with hx | rfl | hx
    · exact h.distinct x (by simp [hx])
    · exact hd
    · exact h.distinct x (by simp [hx])

theorem WellFormed.sublist {fewer : List Rule} (h : WellFormed rules) (hs : fewer.Sublist rules) :
    WellFormed fewer :=
  ⟨h.roles.sublist (hs.map bareRole), fun r hr => h.occupied r (hs.subset hr),
    fun r hr => h.distinct r (hs.subset hr)⟩

theorem WellFormed.without (h : WellFormed (before ++ r :: after)) :
    WellFormed (before ++ r.without p ++ after) := by
  rw [Rule.without]
  split
  · rw [List.append_nil]
    exact h.sublist ((List.Sublist.refl before).append (List.sublist_cons_self r after))
  · rename_i hsome
    rw [List.append_assoc, List.singleton_append]
    refine h.replace rfl hsome ?_
    exact (h.distinct r (by simp)).sublist List.filter_sublist

/-- A rule of a role that none has may be put behind the others. -/
theorem WellFormed.append {s : Rule} (h : WellFormed rules) (hrole : s.bareRole ∉ rules.map bareRole)
    (hne : s.principals ≠ []) (hd : Distinct s.principals) : WellFormed (rules ++ [s]) := by
  refine ⟨?_, ?_, ?_⟩
  · rw [List.map_append, List.map_singleton, List.nodup_append]
    refine ⟨h.roles, List.nodup_singleton _, ?_⟩
    rintro a ha b hb rfl
    rw [List.mem_singleton] at hb
    exact hrole (hb ▸ ha)
  · intro x hx
    rcases List.mem_append.1 hx with hx | hx
    · exact h.occupied x hx
    · rw [List.mem_singleton.1 hx]
      exact hne
  · intro x hx
    rcases List.mem_append.1 hx with hx | hx
    · exact h.distinct x hx
    · rw [List.mem_singleton.1 hx]
      exact hd

end AccessSync.Rule
