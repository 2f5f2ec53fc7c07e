import AccessSync.Text.Normal.Composite
import AccessSync.Text.Normal.Order
import AccessSync.Text.Normal.Replaced
/-!
# The normal form of text

What looks the same can be written in more than one way: with a letter and its marks in one code or
in several, and with the marks in any order. `normal` chooses one of them. It takes every character
apart, sorts the marks, and then composes again what can be composed.
-/

namespace AccessSync.Text

/-- The characters that `c` is made of. -/
def partsOf (c : Char) : List Char :=
  if c.toNat < 0x80 then [c]
  else
    match usual? c.toNat with
    | some codes => codes.map Char.ofNat
    | none => (takeApart c.toNat).map Char.ofNat

/-- Composes `base` with what follows it. The marks that were not taken in are held back behind it;
one of them is in the way of a further mark of the same class, and any of them is in the way of a
character of class 0. -/
def composeFrom (base : Char) (held : List Char) : List Char → List Char
  | [] => base :: held
  | c :: cs =>
    let free := match held.getLast? with
      | none => true
      | some d => combiningClass d < combiningClass c
    match if free = true then compose? base.toNat c.toNat else none with
    | some n => composeFrom (Char.ofNat n) held cs
    | none =>
      if combiningClass c = 0 then base :: (held ++ composeFrom c [] cs)
      else composeFrom base (held ++ [c]) cs

/-- Composes from the first character that marks can belong to. -/
def compose : List Char → List Char
  | [] => []
  | c :: cs => if combiningClass c = 0 then composeFrom c [] cs else c :: compose cs

/-- The text with each character in as few codes as can be. -/
def normal (cs : List Char) : List Char := compose (sortMarks (cs.flatMap partsOf))

end AccessSync.Text
