import AccessSync.Json.Number
/-!
# JSON values

A value as it is read from a text. What is written correctly and denotes nothing (half of a
surrogate pair, bytes that are no UTF-8, a number beyond all floating-point ones, an object with
such a name) is `unreadable`: it may stand where nobody looks at it. `isWhole` says that a value
and all within it can be read and that it is not nested too deeply.
-/

namespace AccessSync

/-- A JSON value. An object keeps its fields in the order they are written, repeated ones too. -/
inductive Json where
  | null
  | bool (b : Bool)
  | number (n : Json.Number)
  | string (s : String)
  | array (items : List Json)
  | object (fields : List (String × Json))
  | unreadable

namespace Json

instance : Inhabited Json := ⟨null⟩

def ofInt (n : Int) : Json := .number (.integer n)

/-- The field of that name written last. -/
def lastField? (name : String) (fields : List (String × Json)) : Option Json :=
  (fields.reverse.find? (·.1 = name)).map (·.2)

mutual
/-- Every value within can be read. -/
def isReadable : Json → Bool
  | .array items => allReadable items
  | .object fields => fieldsReadable fields
  | .unreadable => false
  | _ => true

def allReadable : List Json → Bool
  | [] => true
  | v :: vs => isReadable v && allReadable vs

def fieldsReadable : List (String × Json) → Bool
  | [] => true
  | (_, v) :: fs => isReadable v && fieldsReadable fs
end

mutual
/-- How many arrays and objects are nested in one another. -/
def height : Json → Nat
  | .array items => itemsHeight items + 1
  | .object fields => fieldsHeight fields + 1
  | _ => 0

def itemsHeight : List Json → Nat
  | [] => 0
  | v :: vs => max (height v) (itemsHeight vs)

def fieldsHeight : List (String × Json) → Nat
  | [] => 0
  | (_, v) :: fs => max (height v) (fieldsHeight fs)
end

/-- How deeply a value may be nested that is read in full. -/
def greatestHeight : Nat := 127

/-- The value, which stands within so many arrays and objects, can be read in full. -/
def isWhole (enclosing : Nat) (v : Json) : Bool :=
  v.isReadable && enclosing + v.height ≤ greatestHeight

end Json

end AccessSync
