import AccessSync.Proofs.Text.Tables
import AccessSync.Text.Normal
/-!
# What composing makes and keeps

The normal form of a text is composed of the parts of its characters. Where two characters make up one,
the first is no bracket, and the second and what they make up are outside ASCII (`high_of_compose?`). So
composing makes characters outside ASCII only (`mem_normal`), and keeps every bracket
(`bracket_mem_normal`).
-/

namespace AccessSync.Text

/-- A bracket around an address. -/
def isBracket (c : Char) : Bool := c = '[' || c = ']'

theorem toNat_bracket {c : Char} (h : isBracket c = true) : c.toNat = 0x5B ∨ c.toNat = 0x5D := by
  simp only [isBracket, Bool.or_eq_true, decide_eq_true_eq] at h
  rcases h with rfl | rfl <;> decide

/-! ## Two characters -/

/-- Whole and second part are outside ASCII, and the first part is no bracket. -/
def Composite.IsHigh (c : Composite) : Prop :=
  0x80 ≤ c.whole ∧ 0x80 ≤ c.second ∧ c.first ≠ 0x5B ∧ c.first ≠ 0x5D

instance (c : Composite) : Decidable c.IsHigh := inferInstanceAs (Decidable (_ ∧ _))

theorem high_composites : ∀ c ∈ composites, c.IsHigh := by
  unfold composites
  apply Table.of_entries (p := fun rows => ∀ c ∈ Composite.ofRows rows, c.IsHigh)
  · dsimp only
    repeat apply Table.lines_cons
    exact Table.lines_nil
  · decide +kernel

theorem high_of_compose? {first second n : Nat} (h : compose? first second = some n) :
    (⟨n, first, second⟩ : Composite).IsHigh := by
  unfold compose? at h
  split at h
  · rename_i hn
    cases h
    have hcodes : Hangul.syllables = 0xAC00 ∧ Hangul.leads = 0x1100 ∧ Hangul.vowels = 0x1161 ∧
        Hangul.trails = 0x11A7 := ⟨rfl, rfl, rfl, rfl⟩
    unfold Hangul.compose? at hn
    unfold Composite.IsHigh
    dsimp only
    split_ifs at hn
    · have := Option.some.inj hn
      omega
    · have := Option.some.inj hn
      omega
  · obtain ⟨c, hc, rfl⟩ := Option.map_eq_some_iff.1 h
    have hparts := List.find?_some hc
    simp only [decide_eq_true_eq] at hparts
    obtain ⟨rfl, rfl⟩ := hparts
    exact high_composites c (List.mem_of_find?_eq_some hc)

theorem high_of_free {free : Bool} {first second n : Nat}
    (h : (if free = true then compose? first second else none) = some n) :
    (⟨n, first, second⟩ : Composite).IsHigh := by
  split_ifs at h
  exact high_of_compose? h

/-! ## Texts -/

variable {c : Char} {cs : List Char}

theorem mem_composeFrom {base : Char} {held : List Char} (h : c ∈ composeFrom base held cs) :
    c = base ∨ c ∈ held ∨ c ∈ cs ∨ ∃ n, 0x80 ≤ n ∧ c = Char.ofNat n := by
  fun_induction composeFrom base held cs with
  | case1 base held => exact (List.mem_cons.1 h).imp_right .inl
  | case2 base held d cs free n hn ih =>
    rcases ih h with rfl | h | h | h
    · exact .inr (.inr (.inr ⟨n, (high_of_free hn).1, rfl⟩))
    · exact .inr (.inl h)
    · exact .inr (.inr (.inl (List.mem_cons_of_mem d h)))
    · exact .inr (.inr (.inr h))
  | case3 base held d cs free hn hd ih =>
    rcases List.mem_cons.1 h with h | h
    · exact .inl h
    · rcases List.mem_append.1 h with h | h
      · exact .inr (.inl h)
      · rcases ih h with rfl | h | h | h
        · exact .inr (.inr (.inl List.mem_cons_self))
        · simp at h
        · exact .inr (.inr (.inl (List.mem_cons_of_mem d h)))
        · exact .inr (.inr (.inr h))
  | case4 base held d cs free hn hd ih =>
    rcases ih h with h | h | h | h
    · exact .inl h
    · rcases List.mem_append.1 h with h | h
      · exact .inr (.inl h)
      · rw [List.mem_singleton.1 h]
        exact .inr (.inr (.inl List.mem_cons_self))
    · exact .inr (.inr (.inl (List.mem_cons_of_mem d h)))
    · exact .inr (.inr (.inr h))

theorem bracket_mem_composeFrom {base : Char} {held : List Char} (hc : isBracket c = true)
    (h : c = base ∨ c ∈ held ∨ c ∈ cs) : c ∈ composeFrom base held cs := by
  fun_induction composeFrom base held cs with
  | case1 base held => simpa using h
  | case2 base held d cs free n hn ih =>
    -- Neither of the two that make up one is a bracket.
    obtain ⟨-, hsecond, hfirst⟩ := high_of_free hn
    have hcode := toNat_bracket hc
    refine ih ?_
    rcases h with rfl | h | h
    · dsimp only at hfirst
      omega
    · exact .inr (.inl h)
    · rcases List.mem_cons.1 h with rfl | h
      · dsimp only at hsecond
        omega
      · exact .inr (.inr h)
  | case3 base held d cs free hn hd ih =>
    rw [List.mem_cons, List.mem_append]
    rcases h with h | h | h
    · exact .inl h
    · exact .inr (.inl h)
    · exact .inr (.inr (ih ((List.mem_cons.1 h).imp_right .inr)))
  | case4 base held d cs free hn hd ih =>
    refine ih ?_
    rcases h with h | h | h
    · exact .inl h
    · exact .inr (.inl (List.mem_append_left _ h))
    · rcases List.mem_cons.1 h with rfl | h
      · exact .inr (.inl (List.mem_append_right _ List.mem_cons_self))
      · exact .inr (.inr h)

theorem mem_compose (h : c ∈ compose cs) : c ∈ cs ∨ ∃ n, 0x80 ≤ n ∧ c = Char.ofNat n := by
  induction cs with
  | nil => exact .inl h
  | cons d cs ih =>
    rw [compose] at h
    split_ifs at h
    · rcases mem_composeFrom h with rfl | h | h | h
      · exact .inl List.mem_cons_self
      · simp at h
      · exact .inl (List.mem_cons_of_mem d h)
      · exact .inr h
    · rcases List.mem_cons.1 h with rfl | h
      · exact .inl List.mem_cons_self
      · exact (ih h).imp_left (List.mem_cons_of_mem d)

theorem bracket_mem_compose (hc : isBracket c = true) (h : c ∈ cs) : c ∈ compose cs := by
  induction cs with
  | nil => exact h
  | cons d cs ih =>
    rw [compose]
    split_ifs
    · exact bracket_mem_composeFrom hc ((List.mem_cons.1 h).imp_right .inr)
    · exact List.mem_cons.2 ((List.mem_cons.1 h).imp_right ih)

/-- In the normal form of a text are parts of its characters, and others outside ASCII. -/
theorem mem_normal (h : c ∈ normal cs) : (∃ d ∈ cs, c ∈ partsOf d) ∨ ∃ n, 0x80 ≤ n ∧ c = Char.ofNat n := by
  refine (mem_compose h).imp_left fun h => ?_
  exact List.mem_flatMap.1 ((sortMarks_perm _).mem_iff.1 h)

theorem partsOf_ascii (h : c.toNat < 0x80) : partsOf c = [c] := if_pos h

/-- The normal form of a text has all its brackets. -/
theorem bracket_mem_normal (hc : isBracket c = true) (h : c ∈ cs) : c ∈ normal cs := by
  refine bracket_mem_compose hc ((sortMarks_perm _).mem_iff.2 (List.mem_flatMap.2 ⟨c, h, ?_⟩))
  have hascii : c.toNat < 0x80 := by
    have := toNat_bracket hc
    omega
  rw [partsOf_ascii hascii]
  exact List.mem_singleton_self c

end AccessSync.Text
