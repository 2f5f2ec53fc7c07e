import AccessSync.Url.Domain.Direction
import AccessSync.Url.Domain.Label
/-!
# Domains

The host of a special URL is a domain: its bytes are read as UTF-8, and each of its labels is written
in ASCII. All labels together have to keep their directions apart.
-/

namespace AccessSync.Domain

/-- The labels of a domain; nothing if one of them is not allowed. -/
def labels? (cs : List Char) : Option (List Label) :=
  ((Text.splitOn '.' cs).mapM Label.ofText?).map List.flatten

/-- The domain in ASCII; nothing if a character or label is not allowed. -/
def toAscii? (bytes : List UInt8) : Option (List Char) :=
  match Utf8.decode bytes with
  | .error _ => none
  | .ok cs =>
    match labels? cs with
    | some labels =>
      if isOrdered (labels.map (·.shown)) then some (Text.join ['.'] (labels.map (·.written)))
      else none
    | none => none

end AccessSync.Domain
