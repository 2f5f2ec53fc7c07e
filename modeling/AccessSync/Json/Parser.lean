import AccessSync.Json.Token
/-!
# Reading JSON texts

The tokens of a text are read with a stack of the arrays and objects that are still open, so every
step takes a token away and nesting costs nothing. A text holds one value and blanks around it.
-/

namespace AccessSync.Json

/-- The name of a field, if it denotes a text. -/
abbrev Name := Option String

/-- An array or object that is still open, with what it holds so far, last first. -/
inductive Frame where
  | array (items : List Json)
  /-- An object whose field `name` is being read. -/
  | object (fields : List (Name × Json)) (name : Name)

/-- The object of these fields, unreadable if a name is. -/
def ofFields (fields : List (Name × Json)) : Json :=
  match fields.mapM fun (name, v) => name.map fun n => (n, v) with
  | some named => .object named
  | none => .unreadable

def ofNumber : Option Number → Json
  | some n => .number n
  | none => .unreadable

def ofName : Name → Json
  | some s => .string s
  | none => .unreadable

mutual
/-- Reads a value within the open frames, innermost first. -/
def readValue (frames : List Frame) : List Token → Option Json
  | .null :: ts => deliver .null frames ts
  | .bool b :: ts => deliver (.bool b) frames ts
  | .number n :: ts => deliver (ofNumber n) frames ts
  | .string s :: ts => deliver (ofName s) frames ts
  | .openArray :: .closeArray :: ts => deliver (.array []) frames ts
  | .openArray :: ts => readValue (.array [] :: frames) ts
  | .openObject :: .closeObject :: ts => deliver (.object []) frames ts
  | .openObject :: .string name :: .colon :: ts => readValue (.object [] name :: frames) ts
  | _ => none

/-- Puts a value that has been read into the innermost open frame and reads on. -/
def deliver (v : Json) : List Frame → List Token → Option Json
  | [], [] => some v
  | .array items :: frames, .comma :: ts => readValue (.array (v :: items) :: frames) ts
  | .array items :: frames, .closeArray :: ts => deliver (.array (v :: items).reverse) frames ts
  | .object fields name :: frames, .comma :: .string next :: .colon :: ts =>
    readValue (.object ((name, v) :: fields) next :: frames) ts
  | .object fields name :: frames, .closeObject :: ts =>
    deliver (ofFields ((name, v) :: fields).reverse) frames ts
  | _, _ => none
end

/-- The value that a text of symbols writes. -/
def parse (text : List Symbol) : Option Json := (lex text).bind (readValue [])

/-- The value that a string writes. -/
def ofText (text : String) : Option Json := parse (text.toList.map some)

/-- The value that bytes write. -/
def ofBytes (bytes : List UInt8) : Option Json := parse (Utf8.symbols bytes)

end AccessSync.Json
