import AccessSync.Text.Mark
import AccessSync.Text.Percent
/-!
# The direction of a domain

Where a domain holds a character that is written from right to left, or an Arabic number, every
label has to keep a form in which it can be told from its neighbours. `isOrdered` says so: a label runs in
the direction of its first letter, what the other direction demands does not occur in it, and the
last character that is no mark is a letter or a digit.

The tables are of characters that a spelled domain can hold; in their gaps are others too.
-/

namespace AccessSync.Domain

/-- What a character says about the direction of a text. -/
inductive Direction where
  /-- A letter that is written from left to right. -/
  | left
  /-- A letter that is written from right to left. -/
  | right
  /-- A digit of Europe, which runs from left to right in either text. -/
  | european
  /-- A digit of Arabia. -/
  | arabian
  /-- A sign that runs as its neighbours do. -/
  | neutral
  /-- A mark, which goes with the character before it. -/
  | mark
  deriving DecidableEq, Repr

def rightRanges : List (Nat × Nat) := Text.Table.ranges
  ["5be-5f4 608 60b 60d 61b-64a 66d-6d5 6e5-6e6 6ee-6ef 6fa-7f5 7fa-8c9 fbb2-fbc2 fe73",
   "10800-1091b 10920-10b35 10b40-10d23 10d4a-10d4f 10d6f-10d8f 10e80-10ec7 10f00-10ff6",
   "1e800-1ed3d"]

def arabianRanges : List (Nat × Nat) := Text.Table.ranges
  ["660-669 66b-66c 10d30-10d49 10e60-10e7e"]

def europeanRanges : List (Nat × Nat) := Text.Table.ranges
  ["6f0-6f9 102e1-102fb"]

def neutralRanges : List (Nat × Nat) := Text.Table.ranges
  ["a1-d7 f7 2b9-2ba 2c2-2cf 2d2-2ed 2ef-2ff 375 3f6 58a-58f 606-607 609-60a 60c 60e-60f 66a 6de",
   "6e9 7f6-7f9 9f2-9f3 9fb af1 bf3-bfa c78-c7e e3f f3a-f3d 1390-1399 1400 169b-169c 17db",
   "17f0-180a 1940-1945 19de-19ff 200c-214d 218a-2335 237b-2394 2396-26ab 26ad-27ff 2900-2bff",
   "2ce5-2cea 2cf9-2cff 2e00-3004 3008-3020 3030 3037 303d-303f 30a0 30fb 31c0-31e5 4dc0-4dff",
   "a490-a4c6 a60d-a60f a673-a67f a700-a721 a788 a828-a82b a838-a839 a874-a877 ab6a-ab6b",
   "fbc3-fe46 10101 10140-1018c 10190-101a0 1091f 10b39-10b3f 10d6e 10ed0-10ed8 11052-11065",
   "11660-1166c 11fd5-11ff1 16fe2 1cc00-1cef0 1d1e9-1d245 1d300-1d356 1e2ff 1eef0-1f12f",
   "1f16d-1f16f 1f1ad 1f260-1fbfa"]

/-- Marks without room of their own that have the direction of a letter. -/
def leftMarkRanges : List (Nat × Nat) := Text.Table.ranges
  ["cbf cc6 11a07-11a08 11c3f"]

namespace Direction

/-- The direction of a character in ASCII. -/
def ofAscii (c : Char) : Direction :=
  if ('a' ≤ c && c ≤ 'z') || ('A' ≤ c && c ≤ 'Z') then .left
  else if '0' ≤ c ∧ c ≤ '9' then .european
  else .neutral

/-- The direction of a character. -/
def ofChar (c : Char) : Direction :=
  if Percent.isAscii c then ofAscii c
  else if Text.Table.holds leftMarkRanges c then .left
  else if Text.isNonspacing c then .mark
  else if Text.Table.holds rightRanges c then .right
  else if Text.Table.holds arabianRanges c then .arabian
  else if Text.Table.holds europeanRanges c then .european
  else if Text.Table.holds neutralRanges c then .neutral
  else .left

/-- A label that begins with a letter from left to right may go on and end like this. -/
def isLeftward (last : Direction) (between : List Direction) : Bool :=
  (last = .left || last = .european) && between.all fun d => d ≠ .right && d ≠ .arabian

/-- A label that begins with a letter from right to left may go on and end like this. -/
def isRightward (last : Direction) (between : List Direction) : Bool :=
  (last = .right || last = .european || last = .arabian) && between.all (· ≠ .left) &&
    !((last :: between).any (· = .european) && (last :: between).any (· = .arabian))

/-- A label keeps its form, given by the directions of its characters. -/
def isKept : List Direction → Bool
  | [] => true
  | first :: rest =>
    (first = .left || first = .right) &&
      match rest.reverse.dropWhile (· = .mark) with
      | [] => true
      | last :: between =>
        if first = .left then isLeftward last between else isRightward last between

end Direction

/-- A character from right to left, or an Arabic number. -/
def turns (c : Char) : Bool := Direction.ofChar c = .right || Direction.ofChar c = .arabian

/-- The labels of a domain keep their form, if there is a character for which they have to. -/
def isOrdered (labels : List (List Char)) : Bool :=
  !labels.any (·.any turns) ||
    labels.all fun label => Direction.isKept (label.map Direction.ofChar)

end AccessSync.Domain
