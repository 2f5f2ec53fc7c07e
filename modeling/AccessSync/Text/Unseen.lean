import AccessSync.Text.Unassigned
/-!
# Characters that do not show

`isUnseen` holds of control and format characters, of fillers, of blanks other than the space and of
codes without a character.
-/

namespace AccessSync.Text

/-- Controls, formats, fillers, and blanks other than the space. -/
def unseenRanges : List (Nat × Nat) := Table.ranges
  ["0-1f 7f-a0 ad 600-605 61c 6dd 70f 890-891 8e2 115f-1160 1680 180e 2000-200f 2028-202f",
   "205f-2064 2066-206f 3000 3164 feff ffa0 fff9-fffb 110bd 110cd 13430-1343f 1bca0-1bca3",
   "1d173-1d17a e0001 e0020-e007f"]

/-- The character does not show. -/
def isUnseen (c : Char) : Bool := Table.holds unseenRanges c || isUnassigned c

end AccessSync.Text
