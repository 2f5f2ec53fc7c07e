import AccessSync.Text.Split
/-!
# Tables of characters

Properties of characters are given as lines of text, so that long tables stay readable. A line holds
entries with blanks between them, an entry holds numbers in hexadecimal with hyphens between them.
Two kinds of table are read: ranges (`378-379`, or `38b` for one code) and rows whose first number
is what the others belong to.
-/

namespace AccessSync.Text.Table

/-- The value of a hexadecimal digit in lower case. -/
def digitValue (c : Char) : Nat :=
  if c.toNat < 'a'.toNat then c.toNat - '0'.toNat else c.toNat - 'a'.toNat + 10

/-- The number that digits stand for. -/
def number (cs : List Char) : Nat := cs.foldl (fun acc c => acc * 16 + digitValue c) 0

/-- The numbers of one line, entry by entry. -/
def row (line : String) : List (List Nat) :=
  (splitOn ' ' line.toList).map fun entry => (splitOn '-' entry).map number

/-- The numbers of a table, entry by entry. -/
def rows (lines : List String) : List (List Nat) := lines.flatMap row

/-- The ranges of a table, both ends included. -/
def ranges (lines : List String) : List (Nat × Nat) :=
  (rows lines).filterMap fun
    | [first, last] => some (first, last)
    | [only] => some (only, only)
    | _ => none

/-- One of the ranges holds the character. -/
def holds (ranges : List (Nat × Nat)) (c : Char) : Bool :=
  ranges.any fun (first, last) => first ≤ c.toNat && c.toNat ≤ last

/-- What follows `n` in the row that it begins. -/
def find? (rows : List (List Nat)) (n : Nat) : Option (List Nat) :=
  (rows.find? fun r => r.head? = some n).map List.tail

end AccessSync.Text.Table
