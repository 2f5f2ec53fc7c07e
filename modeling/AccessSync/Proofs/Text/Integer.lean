import AccessSync.Text.Integer
import Mathlib.Tactic.Common
import Mathlib.Tactic.IntervalCases
/-!
# Decimal text reads back

`digits` are the digits that `decimal` writes. Each is below ten, the first is no zero unless the number
is (`digits_cases`), and read in their order they make up the number, which is how a reader takes
them: `readNat_ofNat`.
-/

namespace AccessSync.Text

/-- The decimal digits of a number, those that count most first. -/
def digits (n : Nat) : List Nat := if n < 10 then [n] else digits (n / 10) ++ [n % 10]
termination_by n

theorem digits_of_lt {n : Nat} (h : n < 10) : digits n = [n] := by
  rw [digits, if_pos h]

theorem digits_of_le {n : Nat} (h : 10 ≤ n) : digits n = digits (n / 10) ++ [n % 10] := by
  rw [digits, if_neg (by omega)]

theorem digit_mod (n : Nat) : digit (n % 10) = digit n := by
  simp only [digit, Nat.mod_mod]

theorem decimal_eq (n : Nat) : decimal n = (digits n).map digit := by
  fun_induction decimal n with
  | case1 n h => rw [digits_of_lt h, List.map_singleton]
  | case2 n h ih => rw [digits_of_le (by omega), List.map_append, ih, List.map_singleton, digit_mod]

theorem lt_of_mem_digits {n d : Nat} (h : d ∈ digits n) : d < 10 := by
  fun_induction digits n with
  | case1 n hn =>
    rw [List.mem_singleton.1 h]
    exact hn
  | case2 n _ ih =>
    rcases List.mem_append.1 h with h | h
    · exact ih h
    · rw [List.mem_singleton.1 h]
      omega

/-- A number is zero or its first digit is not. -/
theorem digits_cases (n : Nat) : n = 0 ∧ digits n = [0] ∨ ∃ d ds, digits n = d :: ds ∧ d ≠ 0 := by
  fun_induction digits n with
  | case1 n _ =>
    by_cases hzero : n = 0
    · exact .inl ⟨hzero, by rw [hzero]⟩
    · exact .inr ⟨n, [], rfl, hzero⟩
  | case2 n _ ih =>
    rcases ih with ⟨hzero, -⟩ | ⟨d, ds, hds, hd⟩
    · omega
    · exact .inr ⟨d, ds ++ [n % 10], by rw [hds, List.cons_append], hd⟩

theorem digit?_digit {d : Nat} (h : d < 10) : digit? (digit d) = some d := by
  interval_cases d <;> decide

theorem digit_ne {d : Nat} (h : d < 10) {c : Char} (hc : digit? c = none) : digit d ≠ c := by
  rintro rfl
  rw [digit?_digit h] at hc
  cases hc

/-- Decimal text begins with a digit. -/
theorem decimal_cons (n : Nat) : ∃ d cs, d < 10 ∧ decimal n = digit d :: cs := by
  have hlt : ∀ d ∈ digits n, d < 10 := fun d hd => lt_of_mem_digits hd
  rw [decimal_eq]
  rcases digits_cases n with ⟨-, hzero⟩ | ⟨d, ds, hds, -⟩
  · exact ⟨0, [], by decide, by rw [hzero]; rfl⟩
  · exact ⟨d, ds.map digit, hlt d (by simp [hds]), by rw [hds, List.map_cons]⟩

/-! ## Reading them -/

section Reading
variable {bound acc : Nat} {beyond : IntegerFault}

theorem readDigits_append {cs : List Char} {n : Nat} (h : readDigits bound beyond acc cs = .ok n)
    (cs' : List Char) : readDigits bound beyond acc (cs ++ cs') = readDigits bound beyond n cs' := by
  fun_induction readDigits bound beyond acc cs with
  | case1 acc =>
    cases h
    rfl
  | case2 => cases h
  | case3 => cases h
  | case4 acc c cs d hd hbound ih =>
    rw [List.cons_append, readDigits, hd]
    dsimp only
    rw [if_neg hbound, ih h]

theorem readDigits_digit (beyond : IntegerFault) {d : Nat} (hd : d < 10) (h : acc * 10 + d ≤ bound) :
    readDigits bound beyond acc [digit d] = .ok (acc * 10 + d) := by
  rw [readDigits, digit?_digit hd]
  dsimp only
  rw [if_neg (by omega), readDigits]

theorem readDigits_digits (beyond : IntegerFault) {n : Nat} (h : n ≤ bound) :
    readDigits bound beyond 0 ((digits n).map digit) = .ok n := by
  fun_induction digits n with
  | case1 n hn =>
    have hread := readDigits_digit beyond hn (by omega : 0 * 10 + n ≤ bound)
    rwa [Nat.zero_mul, Nat.zero_add] at hread
  | case2 n _ ih =>
    have hlast : n / 10 * 10 + n % 10 = n := by omega
    rw [List.map_append, readDigits_append (ih (by omega)), List.map_singleton,
      readDigits_digit beyond (by omega) (by omega), hlast]

/-- A number that is not beyond the bound is read back. -/
theorem readNat_ofNat {n : Nat} (h : n ≤ bound) : readNat bound (ofNat n).toList = .ok n := by
  have hread := readDigits_digits .tooLarge h
  obtain ⟨d, cs, hd, hcons⟩ := decimal_cons n
  rw [← decimal_eq, hcons] at hread
  rw [ofNat, String.toList_ofList, hcons]
  unfold readNat
  split
  case h_1 hnil => cases hnil
  case h_2 hplus => exact absurd (List.cons.inj hplus).1 (digit_ne hd (by decide))
  case h_3 => exact hread

end Reading

theorem ofNat_ne_empty (n : Nat) : ofNat n ≠ "" := by
  intro h
  obtain ⟨d, cs, -, hcons⟩ := decimal_cons n
  have hnil := congrArg String.toList h
  rw [ofNat, String.toList_ofList, hcons] at hnil
  cases hnil

end AccessSync.Text
