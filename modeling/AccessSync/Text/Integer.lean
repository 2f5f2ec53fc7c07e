import AccessSync.Text.Split
/-!
# Whole numbers as decimal text

`decimal` writes a natural number without leading zeros. Reading is for a number of limited size:
a sign may lead, digits follow, and the reader stops at the first character that is no digit or
the first digit that takes the number out of its range, whichever comes first.
-/

namespace AccessSync.Text

/-- Why a text is no number of the range asked for. -/
inductive IntegerFault where
  | empty
  | invalidDigit
  | tooLarge
  | tooSmall
  deriving DecidableEq, Repr

def IntegerFault.message : IntegerFault → String
  | .empty => "cannot parse integer from empty string"
  | .invalidDigit => "invalid digit found in string"
  | .tooLarge => "number too large to fit in target type"
  | .tooSmall => "number too small to fit in target type"

/-- The value of a decimal digit. -/
def digit? (c : Char) : Option Nat :=
  if '0' ≤ c ∧ c ≤ '9' then some (c.toNat - '0'.toNat) else none

/-- The decimal digit of a number below ten. -/
def digit (n : Nat) : Char := Char.ofNat ('0'.toNat + n % 10)

/-- The decimal digits of `n`, without leading zeros. -/
def decimal (n : Nat) : List Char :=
  if n < 10 then [digit n] else decimal (n / 10) ++ [digit n]
termination_by n

/-- A natural number as text. -/
def ofNat (n : Nat) : String := String.ofList (decimal n)

/-- An integer as text, with a minus sign if it is negative. -/
def ofInt : Int → String
  | .ofNat n => ofNat n
  | .negSucc n => String.ofList ('-' :: decimal (n + 1))

/-- Reads on from `acc`, refusing to pass `bound`. -/
def readDigits (bound : Nat) (beyond : IntegerFault) (acc : Nat) :
    List Char → Except IntegerFault Nat
  | [] => .ok acc
  | c :: cs =>
    match digit? c with
    | none => .error .invalidDigit
    | some d =>
      if bound < acc * 10 + d then .error beyond
      else readDigits bound beyond (acc * 10 + d) cs

/-- A natural number of at most `bound`; a plus sign may lead. -/
def readNat (bound : Nat) : List Char → Except IntegerFault Nat
  | [] => .error .empty
  | '+' :: d :: cs => readDigits bound .tooLarge 0 (d :: cs)
  | cs => readDigits bound .tooLarge 0 cs

/-- A number from `-2^63` to `2^63 - 1`; a sign may lead. -/
def readInt64 : List Char → Except IntegerFault Int
  | [] => .error .empty
  | '-' :: d :: cs => (readDigits (Nat.pow 2 63) .tooSmall 0 (d :: cs)).map fun n => -(n : Int)
  | '+' :: d :: cs => (readDigits (Nat.pow 2 63 - 1) .tooLarge 0 (d :: cs)).map Int.ofNat
  | cs => (readDigits (Nat.pow 2 63 - 1) .tooLarge 0 cs).map Int.ofNat

end AccessSync.Text
