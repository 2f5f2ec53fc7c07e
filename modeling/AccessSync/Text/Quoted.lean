import AccessSync.Text.Mark
import AccessSync.Text.Unseen
/-!
# Quoted text

A text between quotes, on one line, in which every character can be told from every other. Quotes
and backslashes are escaped, and so are characters that do not show and marks that merge with the
character before them, by a letter where there is one and by their code elsewhere.
-/

namespace AccessSync.Text

/-- A number in hexadecimal, letters in lower case. -/
def lowerHex (n : Nat) : List Char := Nat.toDigits 16 n

/-- A character as it is written between quotes. -/
def quoteChar (c : Char) : List Char :=
  if c = '\x00' then ['\\', '0']
  else if c = '\t' then ['\\', 't']
  else if c = '\r' then ['\\', 'r']
  else if c = '\n' then ['\\', 'n']
  else if c = '"' then ['\\', '"']
  else if c = '\\' then ['\\', '\\']
  else if isUnseen c || isExtender c then ['\\', 'u', '{'] ++ lowerHex c.toNat ++ ['}']
  else [c]

/-- A text between quotes. -/
def quote (cs : List Char) : List Char := '"' :: (cs.flatMap quoteChar ++ ['"'])

end AccessSync.Text
