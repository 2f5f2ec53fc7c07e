import AccessSync.Text.Table
import Mathlib.Data.Nat.Bitwise
/-!
# What tables hold

The lines of a table are strings. To evaluate what it holds they are given by their characters first,
line by line (`Table.lines_cons`), and then read as these (`Table.rows_eq`). Many codes at once are kept as
the number that has a bit at each of them (`Table.collect`).
-/

namespace AccessSync.Text.Table

/-! ## Lines given by their characters -/

variable {lines : List String} {texts : List (List Char)}

/-- The numbers of a table whose lines are given by their characters, entry by entry. -/
def entries (texts : List (List Char)) : List (List Nat) :=
  texts.flatMap fun line => (splitOn ' ' line).map fun entry => (splitOn '-' entry).map number

theorem rows_eq (h : lines = texts.map String.ofList) : rows lines = entries texts := by
  rw [h, rows, List.flatMap_map]
  simp only [row, String.toList_ofList]
  rfl

/-- What holds of the numbers of a table, its lines given by their characters, holds of the table. -/
theorem of_entries {p : List (List Nat) → Prop} (hlines : lines = texts.map String.ofList) (h : p (entries texts)) :
    p (rows lines) := by
  rwa [rows_eq hlines]

theorem lines_nil : [] = ([] : List (List Char)).map String.ofList := rfl

theorem lines_cons {line : List Char} (h : lines = texts.map String.ofList) :
    String.ofList line :: lines = (line :: texts).map String.ofList := congrArg (_ :: ·) h

/-! ## Sets of codes -/

variable {rows : List (List Nat)} {n : Nat}

/-- The set with further codes. A set has a bit at each code that it holds. -/
def collect (codes : List Nat) (set : Nat) : Nat := codes.foldl (fun set n => set ||| 2 ^ n) set

theorem testBit_collect (codes : List Nat) (set n : Nat) :
    (collect codes set).testBit n = (set.testBit n || decide (n ∈ codes)) := by
  induction codes generalizing set with
  | nil => simp [collect]
  | cons m codes ih =>
    have hstep := ih (set ||| 2 ^ m)
    simp only [collect, List.foldl_cons] at hstep ⊢
    rw [hstep, Nat.testBit_or, Nat.testBit_two_pow, Bool.or_assoc]
    simp [eq_comm]

/-- A row that is found begins with the code and goes on with what is found. -/
theorem find?_eq_some {found : List Nat} (h : find? rows n = some found) : n :: found ∈ rows := by
  obtain ⟨row, hrow, rfl⟩ := Option.map_eq_some_iff.1 h
  have hhead := List.find?_some hrow
  obtain ⟨tail, rfl⟩ := List.head?_eq_some_iff.1 (of_decide_eq_true hhead)
  exact List.mem_of_find?_eq_some hrow

theorem find?_eq_none (h : find? rows n = none) : n ∉ rows.filterMap List.head? := by
  intro hmem
  obtain ⟨row, hrow, hhead⟩ := List.mem_filterMap.1 hmem
  have hno := List.find?_eq_none.1 (Option.map_eq_none_iff.1 h) row hrow
  exact hno (decide_eq_true hhead)

end AccessSync.Text.Table
