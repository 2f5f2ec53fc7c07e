import AccessSync.Text.Percent
import AccessSync.Text.Split
/-!
# Form-encoded pairs

The `application/x-www-form-urlencoded` text of a list of pairs: `name=value` joined by `&`, a
space written `+`, and everything but letters, digits and `*-._` escaped. `decode` reads such a
text back.
-/

namespace AccessSync.Form

/-- A character that stands for itself. -/
def isPlain (c : Char) : Bool :=
  ('0' ≤ c && c ≤ '9') || ('A' ≤ c && c ≤ 'Z') || ('a' ≤ c && c ≤ 'z') ||
    c ∈ ['*', '-', '.', '_']

def encodeChar (c : Char) : List Char :=
  if c = ' ' then ['+'] else Percent.escapeChar (fun c => !isPlain c) c

def encodeText (cs : List Char) : List Char := cs.flatMap encodeChar

/-- One pair as `name=value`. -/
def encodePair (pair : String × String) : List Char :=
  encodeText pair.1.toList ++ '=' :: encodeText pair.2.toList

/-- The pairs in order, joined by `&`. -/
def encode (pairs : List (String × String)) : List Char := Text.join ['&'] (pairs.map encodePair)

/-- The text that an encoded name or value stands for. -/
def decodeText (cs : List Char) : String :=
  let spaced := cs.map fun c => if c = '+' then ' ' else c
  String.ofList (Utf8.decodeLossy (Percent.unescape (Utf8.encode spaced)))

/-- One pair; a piece without `=` is a name with an empty value. -/
def decodePair (piece : List Char) : String × String :=
  match Text.cut? '=' piece with
  | some (name, value) => (decodeText name, decodeText value)
  | none => (decodeText piece, "")

/-- The pairs of a form-encoded text; empty pieces count for nothing. -/
def decode (cs : List Char) : List (String × String) :=
  ((Text.splitOn '&' cs).filter (· ≠ [])).map decodePair

end AccessSync.Form
