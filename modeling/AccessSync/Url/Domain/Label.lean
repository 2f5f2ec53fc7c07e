import AccessSync.Text.Normal
import AccessSync.Url.Domain.Joiner
import AccessSync.Url.Domain.Spelling
import AccessSync.Url.Punycode
/-!
# Labels

A domain is made of labels with full stops between them. A label is shown with all its characters
and written in ASCII: outside ASCII as its Punycode form behind `xn--`. `Label.ofText?` reads what
stands between two full stops of ASCII. That is more than one label if it holds a full stop of
another script.
-/

namespace AccessSync.Domain

/-- Characters that no domain holds. -/
def isForbidden (c : Char) : Bool :=
  Percent.controls c ||
    c ∈ [' ', '%', '#', '/', ':', '<', '>', '?', '@', '[', '\\', ']', '^', '|']

/-- The text in the spelling and the normal form of domains; letters in ASCII only become small. -/
def prepare? (cs : List Char) : Option (List Char) :=
  if cs.all Percent.isAscii then some (cs.map Text.lowerAscii)
  else (spell? cs).map Text.normal

/-- The beginning of a label that stands for one outside ASCII. -/
def encodedMark : List Char := ['x', 'n', '-', '-']

/-- A label with more characters is not encoded. -/
def longestShown : Nat := 1000

/-- An encoded label with more characters behind its mark is not decoded. -/
def longestEncoded : Nat := 2000

/-- The label can stand in a domain, shown with these characters. -/
def isSound (label : List Char) : Bool :=
  label.all Percent.isAscii ||
    (!(label.head?.any Text.isMark) && joinersFit label && label.length ≤ longestShown)

/-- What an encoded label shows. Nothing that could be written otherwise is encoded. -/
def decode? (encoded : List Char) : Option (List Char) :=
  if encoded = [] ∨ encoded.getLast? = some '-' ∨ longestEncoded < encoded.length then none
  else
    match Punycode.decode? encoded with
    | some label =>
      let same := prepare? label = some label
      if same ∧ !label.any isForbidden ∧ '.' ∉ label ∧ isSound label then some label else none
    | none => none

/-- One label of a domain. -/
structure Label where
  shown : List Char
  /-- The same in ASCII. -/
  written : List Char
  deriving DecidableEq, Repr

namespace Label

/-- One label, from text that is prepared. -/
def ofPrepared? (cs : List Char) : Option Label :=
  match Text.strip? encodedMark cs with
  | some encoded =>
    if encoded.all Percent.isAscii then (decode? encoded).map (⟨·, cs⟩) else none
  | none =>
    if !isSound cs then none
    else if cs.all Percent.isAscii then some ⟨cs, cs⟩
    else some ⟨cs, encodedMark ++ Punycode.encode cs⟩

/-- The labels that a text between two full stops of ASCII holds. -/
def ofText? (cs : List Char) : Option (List Label) :=
  match prepare? cs with
  | some text => if text.any isForbidden then none else (Text.splitOn '.' text).mapM ofPrepared?
  | none => none

end Label

end AccessSync.Domain
