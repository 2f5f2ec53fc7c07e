import AccessSync.Text.Utf8
/-!
# Percent-escapes

A byte is escaped as `%` and two hexadecimal digits. Which characters are escaped depends on the
part of a URL they go into (`EscapeSet`); outside ASCII all are, by the bytes of their UTF-8 form.
Unescaping leaves a `%` that no two digits follow as it is.
-/

namespace AccessSync.Percent

/-- The hexadecimal digit of a number below sixteen, letters in upper case. -/
def hexDigit (n : Nat) : Char :=
  if n < 10 then Char.ofNat ('0'.toNat + n) else Char.ofNat ('A'.toNat + (n - 10))

/-- The value of a hexadecimal digit in either case, given by its code. -/
def hexValue? (n : Nat) : Option Nat :=
  if 0x30 ≤ n ∧ n ≤ 0x39 then some (n - 0x30)
  else if 0x41 ≤ n ∧ n ≤ 0x46 then some (n - 0x41 + 10)
  else if 0x61 ≤ n ∧ n ≤ 0x66 then some (n - 0x61 + 10)
  else none

/-- The escape of one byte. -/
def escapeByte (b : UInt8) : List Char :=
  ['%', hexDigit (b.toNat / 16), hexDigit (b.toNat % 16)]

/-- The characters of ASCII that are escaped in some part of a URL. -/
abbrev EscapeSet := Char → Bool

/-- A character with its code below U+0080. -/
def isAscii (c : Char) : Bool := c.toNat < 0x80

/-- One character, escaped if it is in the set or outside ASCII. -/
def escapeChar (set : EscapeSet) (c : Char) : List Char :=
  if set c || !isAscii c then (Utf8.encodeChar c).flatMap escapeByte else [c]

/-- The text with the characters of the set escaped. -/
def escape (set : EscapeSet) (cs : List Char) : List Char := cs.flatMap (escapeChar set)

/-- The bytes with every well-formed escape replaced by the byte it stands for. -/
def unescape : List UInt8 → List UInt8
  | [] => []
  | [b] => [b]
  | [b, c] => [b, c]
  | b :: c :: d :: rest =>
    if b = 0x25 then
      match hexValue? c.toNat, hexValue? d.toNat with
      | some high, some low => UInt8.ofNat (high * 16 + low) :: unescape rest
      | _, _ => b :: unescape (c :: d :: rest)
    else b :: unescape (c :: d :: rest)

/-- Control characters of ASCII. -/
def controls : EscapeSet := fun c => c.toNat < 0x20 || c.toNat = 0x7F

def fragmentSet : EscapeSet := fun c => controls c || c ∈ [' ', '"', '<', '>', '\u0060']

def pathSet : EscapeSet := fun c => fragmentSet c || c ∈ ['#', '?', '{', '}']

/-- For one segment of a path: the separators are escaped too, so the segment stays one. -/
def segmentSet : EscapeSet := fun c => pathSet c || c ∈ ['/', '%']

/-- For one segment where a backslash separates as well. -/
def specialSegmentSet : EscapeSet := fun c => segmentSet c || c = '\\'

def userinfoSet : EscapeSet :=
  fun c => pathSet c || c ∈ ['/', ':', ';', '=', '@', '[', '\\', ']', '^', '|']

def querySet : EscapeSet := fun c => controls c || c ∈ [' ', '"', '#', '<', '>']

/-- For the query of a URL whose scheme is special. -/
def specialQuerySet : EscapeSet := fun c => querySet c || c = '\''

end AccessSync.Percent
