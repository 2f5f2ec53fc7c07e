/-!
# UTF-8

`encode` writes characters as bytes. Reading takes one character at a time (`next`): the lead byte
fixes how many bytes follow and which second bytes are allowed, so overlong forms, surrogates and
numbers beyond U+10FFFF are malformed. A malformed stretch ends before the first byte that cannot
continue it. Three readings are built on `next`: `decode` refuses malformed bytes and tells where
they stand, `symbols` marks them, and `decodeLossy` puts U+FFFD in their place.
-/

namespace AccessSync.Utf8

/-- The bytes of one character. -/
def encodeChar (c : Char) : List UInt8 :=
  let n := c.toNat
  if n < 0x80 then [UInt8.ofNat n]
  else if n < 0x800 then [UInt8.ofNat (0xC0 + n / 0x40), UInt8.ofNat (0x80 + n % 0x40)]
  else if n < 0x10000 then
    [UInt8.ofNat (0xE0 + n / 0x1000), UInt8.ofNat (0x80 + n / 0x40 % 0x40),
      UInt8.ofNat (0x80 + n % 0x40)]
  else
    [UInt8.ofNat (0xF0 + n / 0x40000), UInt8.ofNat (0x80 + n / 0x1000 % 0x40),
      UInt8.ofNat (0x80 + n / 0x40 % 0x40), UInt8.ofNat (0x80 + n % 0x40)]

/-- The bytes of a text. -/
def encode (cs : List Char) : List UInt8 := cs.flatMap encodeChar

/-- What stands at the front of some bytes. -/
inductive Front where
  /-- A character. -/
  | char (c : Char)
  /-- So many bytes that begin no character. -/
  | malformed (count : Nat)
  /-- So many bytes, the last ones, that begin a character and do not end it. -/
  | incomplete (count : Nat)
  deriving DecidableEq, Repr

/-- A byte that continues a character. -/
def isTail (b : UInt8) : Bool := 0x80 ≤ b.toNat && b.toNat ≤ 0xBF

/-- The second bytes allowed after a lead byte of a three-byte character. -/
def second3 (lead : Nat) : Nat × Nat :=
  if lead = 0xE0 then (0xA0, 0xBF) else if lead = 0xED then (0x80, 0x9F) else (0x80, 0xBF)

/-- The second bytes allowed after a lead byte of a four-byte character. -/
def second4 (lead : Nat) : Nat × Nat :=
  if lead = 0xF0 then (0x90, 0xBF) else if lead = 0xF4 then (0x80, 0x8F) else (0x80, 0xBF)

/-- The six low bits that a continuing byte carries. -/
def low (b : UInt8) : Nat := b.toNat % 0x40

/-- What the bytes after a lead byte make of it, and what is left over. -/
def after (lead : UInt8) (rest : List UInt8) : Front × List UInt8 :=
  let l := lead.toNat
  if l < 0x80 then (.char (Char.ofNat l), rest)
  else if l < 0xC2 || 0xF4 < l then (.malformed 1, rest)
  else if l < 0xE0 then
    match rest with
    | [] => (.incomplete 1, [])
    | b :: rest =>
      if isTail b then (.char (Char.ofNat (l % 0x20 * 0x40 + low b)), rest)
      else (.malformed 1, b :: rest)
  else if l < 0xF0 then
    match rest with
    | [] => (.incomplete 1, [])
    | b :: rest =>
      if b.toNat < (second3 l).1 || (second3 l).2 < b.toNat then (.malformed 1, b :: rest)
      else match rest with
        | [] => (.incomplete 2, [])
        | c :: rest =>
          if isTail c then (.char (Char.ofNat (l % 0x10 * 0x1000 + low b * 0x40 + low c)), rest)
          else (.malformed 2, c :: rest)
  else
    match rest with
    | [] => (.incomplete 1, [])
    | b :: rest =>
      if b.toNat < (second4 l).1 || (second4 l).2 < b.toNat then (.malformed 1, b :: rest)
      else match rest with
        | [] => (.incomplete 2, [])
        | c :: rest =>
          if !isTail c then (.malformed 2, c :: rest)
          else match rest with
            | [] => (.incomplete 3, [])
            | d :: rest =>
              if isTail d then
                (.char (Char.ofNat (l % 0x08 * 0x40000 + low b * 0x1000 + low c * 0x40 + low d)),
                  rest)
              else (.malformed 3, d :: rest)

theorem after_length (lead : UInt8) (rest : List UInt8) :
    (after lead rest).2.length ≤ rest.length := by
  unfold after
  dsimp only
  repeat' split
  all_goals simp only [List.length_cons, List.length_nil]
  all_goals omega

/-- The stretches of some bytes, each a character or malformed. -/
def fronts : List UInt8 → List Front
  | [] => []
  | lead :: rest => (after lead rest).1 :: fronts (after lead rest).2
termination_by bytes => bytes.length
decreasing_by
  have := after_length lead rest
  simp only [List.length_cons]
  omega

/-- Where and how bytes fail to be a text. -/
inductive Fault where
  /-- So many bytes from this index on begin no character. -/
  | malformed (count index : Nat)
  /-- The bytes end within the character that starts at this index. -/
  | incomplete (index : Nat)
  deriving DecidableEq, Repr

def Fault.message : Fault → String
  | .malformed count index => s!"invalid utf-8 sequence of {count} bytes from index {index}"
  | .incomplete index => s!"incomplete utf-8 byte sequence from index {index}"

/-- The characters of stretches that begin at `index`, up to the first malformed one. -/
def charsOf (index : Nat) : List Front → Except Fault (List Char)
  | [] => .ok []
  | .char c :: fs => (charsOf (index + (encodeChar c).length) fs).map (c :: ·)
  | .malformed count :: _ => .error (.malformed count index)
  | .incomplete _ :: _ => .error (.incomplete index)

/-- The text that the bytes encode. -/
def decode (bytes : List UInt8) : Except Fault (List Char) := charsOf 0 (fronts bytes)

/-- A character, or nothing where a stretch is malformed. -/
def Front.symbol : Front → Option Char
  | .char c => some c
  | _ => none

/-- The text with its malformed stretches marked. -/
def symbols (bytes : List UInt8) : List (Option Char) := (fronts bytes).map Front.symbol

/-- The text with U+FFFD for each malformed stretch. -/
def decodeLossy (bytes : List UInt8) : List Char :=
  (symbols bytes).map fun s => s.getD '\uFFFD'

end AccessSync.Utf8
