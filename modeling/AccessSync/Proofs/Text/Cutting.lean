import AccessSync.Text.Split
import Mathlib.Tactic.Common
/-!
# Where texts are cut

A separator between two texts splits both of them by themselves, and a character that is not to be
dropped at the ends of a text keeps what stands before it.
-/

namespace AccessSync.Text

theorem strip?_eq_some_iff {front cs rest : List Char} :
    strip? front cs = some rest ↔ cs = front ++ rest := by
  induction front generalizing cs with
  | nil => simp [strip?, eq_comm]
  | cons f front ih =>
    cases cs with
    | nil => simp [strip?]
    | cons c cs =>
      rw [strip?]
      by_cases hc : f = c
      · subst hc
        rw [if_pos rfl, ih]
        simp
      · rw [if_neg hc]
        simp [Ne.symm hc]

/-- A separator splits whatever stands on its sides. -/
theorem splitOn_append_sep (sep : Char) (cs rest : List Char) :
    splitOn sep (cs ++ sep :: rest) = splitOn sep cs ++ splitOn sep rest := by
  induction cs with
  | nil => simp [splitOn]
  | cons c cs ih =>
    rw [List.cons_append, splitOn, splitOn, ih]
    by_cases hc : c = sep
    · rw [if_pos hc, if_pos hc, List.cons_append]
    · rw [if_neg hc, if_neg hc]
      cases hsplit : splitOn sep cs with
      | nil => exact absurd hsplit (splitOn_ne_nil sep cs)
      | cons piece pieces => rfl

/-- If a text is cut at two characters, the first is that of the part which does not hold the other one. -/
theorem front_of_append {c d : Char} {front back xs ys : List Char} (h : front ++ d :: back = xs ++ c :: ys)
    (hno : d ∉ xs) (hne : c ≠ d) : ∃ behind, front = xs ++ c :: behind ∧ ys = behind ++ d :: back := by
  rcases List.append_eq_append_iff.1 h with ⟨as, rfl, hback⟩ | ⟨as, rfl, hrest⟩
  · cases as with
    | nil => exact absurd (List.cons.inj hback).1.symm hne
    | cons a as =>
      obtain ⟨rfl, -⟩ := List.cons.inj hback
      simp at hno
  · cases as with
    | nil => exact absurd (List.cons.inj hrest).1 hne
    | cons a as =>
      obtain ⟨rfl, rfl⟩ := List.cons.inj hrest
      exact ⟨as, rfl, rfl⟩

/-- Texts that are alike are alike up to their first separator and behind it. -/
theorem eq_of_append_sep {sep : Char} {front front' back back' : List Char} (h : sep ∉ front) (h' : sep ∉ front')
    (heq : front ++ sep :: back = front' ++ sep :: back') : front = front' ∧ back = back' := by
  have hcut := cut?_eq_some_iff.2 ⟨heq, h'⟩
  rw [cut?_eq_some_iff.2 ⟨rfl, h⟩, Option.some.injEq, Prod.mk.injEq] at hcut
  exact hcut

/-- Texts that are alike are alike up to their last separator and behind it. -/
theorem eq_of_append_last_sep {sep : Char} {front front' back back' : List Char} (h : sep ∉ back)
    (h' : sep ∉ back') (heq : front ++ sep :: back = front' ++ sep :: back') : front = front' ∧ back = back' := by
  have hreverse := congrArg List.reverse heq
  simp only [List.reverse_append, List.reverse_cons, List.append_assoc, List.singleton_append] at hreverse
  obtain ⟨hback, hfront⟩ := eq_of_append_sep (by simpa using h) (by simpa using h') hreverse
  exact ⟨List.reverse_inj.1 hfront, List.reverse_inj.1 hback⟩

/-- The only piece of a text is the text itself. -/
theorem eq_of_splitOn_singleton {sep : Char} {cs piece : List Char} (h : splitOn sep cs = [piece]) :
    piece = cs := by
  have := join_splitOn sep cs
  rwa [h] at this

theorem notMem_of_mem_splitOn {sep : Char} {cs piece : List Char} (h : piece ∈ splitOn sep cs) : sep ∉ piece := by
  induction cs generalizing piece with
  | nil =>
    rw [splitOn, List.mem_singleton] at h
    simp [h]
  | cons c cs ih =>
    rw [splitOn] at h
    split_ifs at h with hc
    · rcases List.mem_cons.1 h with rfl | h
      · simp
      · exact ih h
    · cases hsplit : splitOn sep cs with
      | nil => exact absurd hsplit (splitOn_ne_nil sep cs)
      | cons first rest =>
        rw [hsplit] at h ih
        rcases List.mem_cons.1 h with rfl | h
        · simp [Ne.symm hc, ih List.mem_cons_self]
        · exact ih (List.mem_cons_of_mem first h)

theorem sublist_of_mem_splitOn {sep : Char} {cs piece : List Char} (h : piece ∈ splitOn sep cs) :
    piece.Sublist cs := by
  induction cs generalizing piece with
  | nil =>
    rw [splitOn, List.mem_singleton] at h
    subst h
    exact .slnil
  | cons c cs ih =>
    rw [splitOn] at h
    split_ifs at h with hc
    · rcases List.mem_cons.1 h with rfl | h
      · exact List.nil_sublist _
      · exact (ih h).cons c
    · cases hsplit : splitOn sep cs with
      | nil => exact absurd hsplit (splitOn_ne_nil sep cs)
      | cons first rest =>
        rw [hsplit] at h ih
        rcases List.mem_cons.1 h with rfl | h
        · exact (ih List.mem_cons_self).cons_cons c
        · exact (ih (List.mem_cons_of_mem first h)).cons c

/-! ## Pieces that are joined -/

section Join
variable {sep : List Char} {pieces more : List (List Char)}

theorem mem_join {c : Char} (h : c ∈ join sep pieces) : c ∈ sep ∨ ∃ piece ∈ pieces, c ∈ piece := by
  induction pieces with
  | nil => simp [join] at h
  | cons piece pieces ih =>
    cases pieces with
    | nil => exact .inr ⟨piece, List.mem_cons_self, h⟩
    | cons next pieces =>
      rw [join, List.mem_append, List.mem_append] at h
      rcases h with (h | h) | h
      · exact .inr ⟨piece, List.mem_cons_self, h⟩
      · exact .inl h
      · refine (ih h).imp_right fun hmore => ?_
        obtain ⟨p, hp, hc⟩ := hmore
        exact ⟨p, List.mem_cons_of_mem piece hp, hc⟩

theorem join_append (hpieces : pieces ≠ []) (hmore : more ≠ []) :
    join sep (pieces ++ more) = join sep pieces ++ sep ++ join sep more := by
  induction pieces with
  | nil => exact absurd rfl hpieces
  | cons piece pieces ih =>
    cases pieces with
    | nil =>
      obtain ⟨next, more, rfl⟩ := List.exists_cons_of_ne_nil hmore
      rfl
    | cons next pieces =>
      have hrest := ih (List.cons_ne_nil next pieces)
      rw [List.cons_append, List.cons_append, join, ← List.cons_append, hrest, join]
      simp

end Join

/-- Whatever separates nothing stands in one of the pieces. -/
theorem exists_mem_splitOn {c sep : Char} {cs : List Char} (hc : c ≠ sep) (h : c ∈ cs) :
    ∃ piece ∈ splitOn sep cs, c ∈ piece := by
  rw [← join_splitOn sep cs] at h
  exact (mem_join h).resolve_left (by simpa using hc)

variable {p : Char → Bool} {c : Char}

/-- A character that is not dropped keeps what stands before it. -/
theorem dropEndWhile_append (h : p c = false) (xs ys : List Char) :
    dropEndWhile p (xs ++ c :: ys) = xs ++ c :: dropEndWhile p ys := by
  have hstop : (c :: xs.reverse).dropWhile p = c :: xs.reverse := by simp [h]
  simp only [dropEndWhile, List.reverse_append, List.reverse_cons, List.append_assoc, List.singleton_append,
    List.dropWhile_append, hstop]
  split_ifs with hempty
  · rw [List.isEmpty_iff.1 hempty]
    simp
  · simp

theorem dropWhile_append_stop (h : p c = false) (xs ys : List Char) :
    (xs ++ c :: ys).dropWhile p = xs.dropWhile p ++ c :: ys := by
  rw [List.dropWhile_append]
  split_ifs with hempty
  · rw [List.isEmpty_iff.1 hempty]
    simp [h]
  · rfl

theorem trim_append (h : p c = false) (xs ys : List Char) :
    trim p (xs ++ c :: ys) = xs.dropWhile p ++ c :: dropEndWhile p ys := by
  rw [trim, dropWhile_append_stop h, dropEndWhile_append h]

theorem dropEndWhile_sublist (p : Char → Bool) (cs : List Char) : (dropEndWhile p cs).Sublist cs := by
  have h := (List.dropWhile_sublist (l := cs.reverse) p).reverse
  rwa [List.reverse_reverse] at h

theorem dropEndWhile_eq_self {cs : List Char} :
    dropEndWhile p cs = cs ↔ cs.getLast?.any p = false := by
  rw [dropEndWhile, ← List.head?_reverse]
  constructor
  · intro h
    have hdrop : cs.reverse.dropWhile p = cs.reverse := by rw [← List.reverse_inj, h, List.reverse_reverse]
    generalize cs.reverse = rs at hdrop
    cases rs with
    | nil => rfl
    | cons r rs =>
      by_contra hr
      have hr : p r = true := by simpa using hr
      rw [List.dropWhile_cons_of_pos hr] at hdrop
      have := congrArg List.length hdrop
      have hle := (List.dropWhile_sublist (l := rs) p).length_le
      simp only [List.length_cons] at this
      omega
  · intro h
    have hdrop : cs.reverse.dropWhile p = cs.reverse := by
      generalize cs.reverse = rs at h
      cases rs with
      | nil => rfl
      | cons r rs => exact List.dropWhile_cons_of_neg (by simpa using h)
    rw [hdrop, List.reverse_reverse]

end AccessSync.Text
