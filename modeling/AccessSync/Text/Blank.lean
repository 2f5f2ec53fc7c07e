import AccessSync.Text.Split
/-!
# Blank characters

A character is blank if it has the Unicode property White_Space. Identifiers and hostnames that
hold nothing else count as missing.
-/

namespace AccessSync.Text

/-- The ranges of White_Space, both ends included. -/
def blankRanges : List (Nat × Nat) :=
  [(0x09, 0x0D), (0x20, 0x20), (0x85, 0x85), (0xA0, 0xA0), (0x1680, 0x1680), (0x2000, 0x200A),
   (0x2028, 0x2029), (0x202F, 0x202F), (0x205F, 0x205F), (0x3000, 0x3000)]

/-- White space of any script. -/
def isBlank (c : Char) : Bool :=
  blankRanges.any fun (first, last) => first ≤ c.toNat && c.toNat ≤ last

/-- The text holds blank characters only. -/
def allBlank (s : String) : Bool := s.toList.all isBlank

/-- The text without blank characters at its ends. -/
def trimBlank (s : String) : String := String.ofList (trim isBlank s.toList)

end AccessSync.Text
