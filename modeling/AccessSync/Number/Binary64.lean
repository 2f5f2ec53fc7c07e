/-!
# Binary floating-point numbers of 64 bits

A finite number is a sign, a significand below `2^53` and a power of two. Every operation computes
the exact ratio of natural numbers and rounds it once, a tie to the even neighbour; there is no
result where the ratio is too large. Only the operations that reading a decimal text needs are
here. Powers are `Nat.pow` by name, here and elsewhere, so that they are the same power whatever
instances are in scope.
-/

namespace AccessSync

/-- The finite number `± significand · 2^exponent`. -/
structure Binary64 where
  negative : Bool
  significand : Nat
  exponent : Int
  deriving DecidableEq, Repr

namespace Binary64

/-- The exponent of the smallest numbers. -/
def leastExponent : Int := -1074

/-- The exponent of the largest numbers. -/
def greatestExponent : Int := 971

def zero (negative : Bool) : Binary64 := ⟨negative, 0, leastExponent⟩

def isZero (x : Binary64) : Bool := x.significand = 0

/-- `n / d` to the nearest natural number, a tie to the even one. -/
def nearest (n d : Nat) : Nat :=
  let q := n / d
  let r := n % d
  if 2 * r < d then q else if d < 2 * r then q + 1 else q + q % 2

/-- `2 ^ e` as a factor of the numerator, one if `e` is negative. -/
def up (e : Int) : Nat := Nat.pow 2 e.toNat

/-- `2 ^ -e` as a factor of the numerator, one if `e` is positive. -/
def down (e : Int) : Nat := Nat.pow 2 (-e).toNat

/-- The exponent at which `n / d` has a significand of 53 bits, but never below the least. -/
def exponentOf (n d : Nat) : Int :=
  let guess : Int := (n.log2 : Int) - d.log2 - 52
  let e := if n * down guess < Nat.pow 2 52 * (d * up guess) then guess - 1 else guess
  max e leastExponent

/-- `n / d` rounded, for a positive `d`; nothing if that is beyond the largest number. -/
def ofRatio? (negative : Bool) (n d : Nat) : Option Binary64 :=
  if n = 0 then some (zero negative)
  else
    let e := exponentOf n d
    let q := nearest (n * down e) (d * up e)
    let (q, e) := if q = Nat.pow 2 53 then (Nat.pow 2 52, e + 1) else (q, e)
    if greatestExponent < e then none else some ⟨negative, q, e⟩

/-- A natural number rounded. -/
def ofNat? (negative : Bool) (n : Nat) : Option Binary64 := ofRatio? negative n 1

/-- The product, rounded. -/
def mul? (x y : Binary64) : Option Binary64 :=
  let e := x.exponent + y.exponent
  ofRatio? (x.negative != y.negative) (x.significand * y.significand * up e) (down e)

/-- The quotient by a number that is not zero, rounded. -/
def div? (x y : Binary64) : Option Binary64 :=
  let e := x.exponent - y.exponent
  ofRatio? (x.negative != y.negative) (x.significand * up e) (y.significand * down e)

/-- The number nearest to a power of ten, for powers that have one. -/
def powTen? (k : Nat) : Option Binary64 := ofNat? false (Nat.pow 10 k)

/-- The largest power of ten that is in range. -/
def greatestPowTen : Nat := 308

/-- `x · 10^k` by one multiplication or division for powers in range, and by repeated divisions
for smaller ones. A nonzero number times a power beyond the range is too large. -/
def scale? (x : Binary64) (k : Int) : Option Binary64 :=
  if k.natAbs ≤ greatestPowTen then
    (powTen? k.natAbs).bind fun p => if 0 ≤ k then x.mul? p else x.div? p
  else if x.isZero then some x
  else if 0 ≤ k then none
  else ((powTen? greatestPowTen).bind x.div?).bind fun y => y.scale? (k + greatestPowTen)
termination_by (-k).toNat
decreasing_by
  have : 0 < greatestPowTen := by unfold greatestPowTen; decide
  generalize greatestPowTen = p at *
  omega

end Binary64

end AccessSync
