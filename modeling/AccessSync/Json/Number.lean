import AccessSync.Number.Shortest
/-!
# Numbers of JSON texts

A number is an integer if it is written without fraction and exponent, is not `-0` and fits into 64
bits, signed or unsigned; every other number is a floating-point one. A floating-point number is
built from the digits as far as they fit into 64 bits, so later digits only count as powers of
ten.
-/

namespace AccessSync.Json

/-- An integer of 64 bits or a floating-point number. -/
inductive Number where
  | integer (n : Int)
  | real (x : Binary64)
  deriving DecidableEq, Repr

/-- A number as it is written: sign, digits before and after the point, and power of ten. -/
structure Numeral where
  negative : Bool
  whole : List Nat
  /-- Digits after the point; none if there is no point. -/
  fraction : List Nat
  /-- Sign and digits of the exponent, if one is written. -/
  exponent : Option (Bool × List Nat)
  deriving DecidableEq, Repr

/-- The largest number of 64 bits. -/
def greatest64 : Nat := Nat.pow 2 64 - 1

/-- The digits taken in while the number fits into 64 bits, and those left over. -/
def takeDigits (acc : Nat) : List Nat → Nat × List Nat
  | [] => (acc, [])
  | d :: ds => if greatest64 < acc * 10 + d then (acc, d :: ds) else takeDigits (acc * 10 + d) ds

/-- The largest exponent that is computed with. -/
def greatestExponent : Nat := Nat.pow 2 31 - 1

/-- The exponent written, or nothing if its digits pass the largest one. -/
def readExponent (acc : Nat) : List Nat → Option Nat
  | [] => some acc
  | d :: ds => if greatestExponent < acc * 10 + d then none else readExponent (acc * 10 + d) ds

/-- A sum kept within 32 bits, as exponents are. -/
def saturate (e : Int) : Int := max (-(Nat.pow 2 31)) (min (Nat.pow 2 31 - 1) e)

namespace Numeral

/-- The digits that count and the power of ten they stand at, before the written exponent. A digit
before the point that no longer fits raises the power; one behind the point is dropped, and none
is taken in any more behind it. -/
def parts (n : Numeral) : Nat × Int :=
  let (whole, spare) := takeDigits 0 n.whole
  let (digits, rest) := takeDigits whole n.fraction
  (digits, (spare.length : Int) - ((n.fraction.length : Int) - rest.length))

/-- The floating-point number nearest by the reader's own arithmetic; nothing if out of range. -/
def real? (n : Numeral) : Option Binary64 :=
  let (digits, power) := n.parts
  match n.exponent with
  | none => (Binary64.ofNat? n.negative digits).bind (·.scale? power)
  | some (lowers, written) =>
    match readExponent 0 written with
    | none => if digits ≠ 0 ∧ !lowers then none else some (Binary64.zero n.negative)
    | some e =>
      (Binary64.ofNat? n.negative digits).bind
        (·.scale? (saturate (if lowers then power - e else power + e)))

/-- The integer, if the numeral is one. -/
def integer? (n : Numeral) : Option Int :=
  if n.fraction ≠ [] ∨ n.exponent.isSome then none
  else
    let (value, spare) := takeDigits 0 n.whole
    if spare ≠ [] then none
    else if !n.negative then some value
    else if value = 0 ∨ Nat.pow 2 63 < value then none
    else some (-(value : Int))

/-- The number that the numeral denotes; nothing if it is beyond all floating-point numbers. -/
def number? (n : Numeral) : Option Number :=
  match n.integer? with
  | some i => some (.integer i)
  | none => n.real?.map .real

end Numeral

/-- How a floating-point number is laid out: positional from `10^-5` up to `10^16`, with a point in
any case, and with an exponent elsewhere. -/
def layOut (x : Shortest.Decimal) : List Char :=
  let digits := Text.decimal x.digits
  let point : Int := digits.length + x.power
  if 0 ≤ x.power ∧ point ≤ 16 then
    digits ++ List.replicate x.power.toNat '0' ++ ['.', '0']
  else if 0 < point ∧ point ≤ 16 then
    digits.take point.toNat ++ '.' :: digits.drop point.toNat
  else if -5 < point ∧ point ≤ 0 then
    ['0', '.'] ++ List.replicate (-point).toNat '0' ++ digits
  else
    let exponent := (Text.ofInt (point - 1)).toList
    match digits with
    | [] => []
    | [d] => d :: 'e' :: exponent
    | d :: ds => d :: '.' :: ds ++ 'e' :: exponent

/-- A number as text. -/
def Number.text : Number → List Char
  | .integer n => (Text.ofInt n).toList
  | .real x =>
    (if x.negative then ['-'] else []) ++
      (if x.isZero then ['0', '.', '0'] else layOut (Shortest.shortest x.significand x.exponent))

end AccessSync.Json
