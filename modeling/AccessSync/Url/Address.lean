import AccessSync.Url.Basic
/-!
# Numeric hosts

An IPv4 address is up to four numbers between dots, decimal, octal after `0` or hexadecimal after
`0x`; the last one fills the bytes that are left. An IPv6 address is eight groups of hexadecimal
digits between colons, where `::` stands for the groups that are missing and the last two may be
written as an IPv4 address.
-/

namespace AccessSync.Host

/-- The value of digits to a base; nothing if one is no digit of it. -/
def readBase (base : Nat) (acc : Nat) : List Char → Option Nat
  | [] => some acc
  | c :: cs =>
    match Percent.hexValue? c.toNat with
    | some d => if d < base then readBase base (acc * base + d) cs else none
    | none => none

/-- A number of an IPv4 address; a base mark without digits is zero. -/
def ipv4Number? : List Char → Option Nat
  | [] => none
  | ['0'] => some 0
  | '0' :: c :: cs => if c = 'x' ∨ c = 'X' then readBase 16 0 cs else readBase 8 0 (c :: cs)
  | cs => readBase 10 0 cs

/-- The pieces between dots, without an empty last one. -/
def dotted (cs : List Char) : List (List Char) :=
  let pieces := Text.splitOn '.' cs
  if pieces.getLast? = some [] then pieces.dropLast else pieces

/-- The domain ends in a number, so it can only be an IPv4 address. -/
def endsInNumber (cs : List Char) : Bool :=
  match (dotted cs).getLast? with
  | some piece =>
    (piece ≠ [] && piece.all fun c => (Text.digit? c).isSome) || (ipv4Number? piece).isSome
  | none => false

/-- The address of numbers whose last one fills the rest. -/
def ipv4Of? (numbers : List Nat) : Option Nat :=
  match numbers.getLast? with
  | none => none
  | some last =>
    let front := numbers.dropLast
    if 4 < numbers.length ∨ front.any (255 < ·) ∨ Nat.pow 256 (4 - front.length) ≤ last then none
    else some (front.foldl (fun acc n => acc * 256 + n) 0 * Nat.pow 256 (4 - front.length) + last)

def ipv4? (cs : List Char) : Option Nat := ((dotted cs).mapM ipv4Number?).bind ipv4Of?

/-- A byte in decimal without leading zeros. -/
def byte? (cs : List Char) : Option Nat :=
  match cs with
  | '0' :: _ :: _ => none
  | [] => none
  | cs => (readBase 10 0 cs).bind fun n => if n ≤ 255 then some n else none

/-- The two groups that an IPv4 address makes up at the end of an IPv6 one. -/
def mappedGroups? (cs : List Char) : Option (List Nat) :=
  match (Text.splitOn '.' cs).mapM byte? with
  | some [a, b, c, d] => some [a * 256 + b, c * 256 + d]
  | _ => none

/-- One group of up to four hexadecimal digits. -/
def group? (cs : List Char) : Option Nat :=
  if cs = [] ∨ 4 < cs.length then none else readBase 16 0 cs

/-- The groups between colons; the last piece may be an IPv4 address where that is allowed. -/
def groups? (mapped : Bool) : List (List Char) → Option (List Nat)
  | [] => some []
  | [last] =>
    if mapped ∧ '.' ∈ last then mappedGroups? last else (group? last).map ([·])
  | piece :: next :: pieces => do
    let g ← group? piece
    let gs ← groups? mapped (next :: pieces)
    return g :: gs

/-- The groups of a text that may be empty. -/
def someGroups? (mapped : Bool) (cs : List Char) : Option (List Nat) :=
  if cs = [] then some [] else groups? mapped (Text.splitOn ':' cs)

/-- The text before and after the first double colon. -/
def cutDouble? : List Char → Option (List Char × List Char)
  | [] => none
  | c :: cs =>
    match c, cs with
    | ':', ':' :: after => some ([], after)
    | _, _ => (cutDouble? cs).map fun (before, after) => (c :: before, after)

/-- An IPv6 address, without its brackets. -/
def ipv6? (cs : List Char) : Option (List Nat) :=
  match cutDouble? cs with
  | some (before, after) => do
    let front ← someGroups? false before
    let back ← someGroups? true after
    if 7 < front.length + back.length then none
    else some (front ++ List.replicate (8 - front.length - back.length) 0 ++ back)
  | none =>
    match someGroups? true cs with
    | some gs => if gs.length = 8 then some gs else none
    | none => none

end AccessSync.Host
