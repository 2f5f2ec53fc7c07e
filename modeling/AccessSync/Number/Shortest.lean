import AccessSync.Number.Binary64
import AccessSync.Text.Integer
/-!
# The shortest decimal that reads back

Of the decimals that round to a given floating-point number, `shortest` picks one with the fewest
digits, and of those the nearest. The decimals that round to `m · 2^e` lie between the midpoints
to its two neighbours, the midpoints included exactly if `m` is even.
-/

namespace AccessSync.Shortest

/-- The positive decimal `digits · 10^power`. -/
structure Decimal where
  digits : Nat
  power : Int
  deriving DecidableEq, Repr

/-- The interval of a positive number in quarters of its unit: lower midpoint, the number and
upper midpoint, each a numerator over `den`. -/
structure Interval where
  lower : Nat
  value : Nat
  upper : Nat
  den : Nat
  closed : Bool

/-- The interval of `m · 2^e`. Below a power of two the neighbour is half as far. -/
def interval (m : Nat) (e : Int) : Interval :=
  let below := if m = Nat.pow 2 52 ∧ Binary64.leastExponent < e then 1 else 2
  let scale := Binary64.up (e - 2)
  ⟨(4 * m - below) * scale, 4 * m * scale, (4 * m + 2) * scale, Binary64.down (e - 2), m % 2 = 0⟩

/-- The power of ten of the first digit of `n / d`. -/
def leadingPower (n d : Nat) : Int :=
  if d ≤ n then ((Text.decimal (n / d)).length : Int) - 1
  else -((Text.decimal ((d - 1) / n)).length : Int)

/-- `10 ^ k` as a factor of the numerator, one if `k` is negative. -/
def tens (k : Int) : Nat := Nat.pow 10 k.toNat

/-- The decimal lies in the interval. -/
def Interval.contains (i : Interval) (x : Decimal) : Bool :=
  let point := x.digits * tens x.power * i.den
  let lower := i.lower * tens (-x.power)
  let upper := i.upper * tens (-x.power)
  if i.closed then lower ≤ point && point ≤ upper else lower < point && point < upper

/-- The distance of a decimal from the number, comparable among decimals of one power. -/
def Interval.distance (i : Interval) (x : Decimal) : Nat :=
  let point := x.digits * tens x.power * i.den
  let value := i.value * tens (-x.power)
  (point - value) + (value - point)

/-- A decimal with multiples of `10^k` only that lies in the interval, the nearer of two. -/
def Interval.onGrid? (i : Interval) (k : Int) : Option Decimal :=
  let below : Decimal := ⟨i.value * tens (-k) / (i.den * tens k), k⟩
  let above : Decimal := ⟨below.digits + 1, k⟩
  match i.contains below, i.contains above with
  | true, true =>
    let low := i.distance below
    let high := i.distance above
    if low < high || (low = high && below.digits % 2 = 0) then some below else some above
  | true, false => some below
  | false, true => some above
  | false, false => none

/-- The first grid that has a decimal in the interval, from one digit on. -/
def Interval.search (i : Interval) (lead : Int) : Nat → Nat → Decimal
  | 0, count => ⟨i.value * tens (count - lead) / (i.den * tens (lead - count)), lead - count⟩
  | fuel + 1, count =>
    match i.onGrid? (lead - count) with
    | some x => x
    | none => i.search lead fuel (count + 1)

/-- A decimal without zeros at its end. -/
def Decimal.trimmed (x : Decimal) : Decimal :=
  if x.digits = 0 then x
  else if x.digits % 10 = 0 then Decimal.trimmed ⟨x.digits / 10, x.power + 1⟩
  else x
termination_by x.digits
decreasing_by omega

/-- The shortest decimal for `m · 2^e`, with `m` positive. Seventeen digits always suffice. -/
def shortest (m : Nat) (e : Int) : Decimal :=
  let i := interval m e
  (i.search (leadingPower i.value i.den) 17 0).trimmed

end AccessSync.Shortest
