import AccessSync.Json.Basic
/-!
# Reading records

A record is written as an object or as an array. An object may hold further fields, which count
for nothing, but none of the record's own twice. An array holds the fields in their order and may
end early. A field that is missing takes its default, if it has one.
-/

namespace AccessSync

/-- The fields of a record that are present, each once. -/
structure Record where
  entries : List (String × Json)
  /-- The fields were given by name and not by their order. -/
  named : Bool

namespace Record

/-- The value of a field that is present. -/
def get? (r : Record) (name : String) : Option Json :=
  (r.entries.find? (·.1 = name)).map (·.2)

/-- A field that has to be present. -/
def required {α : Type} (r : Record) (name : String) (read : Json → Option α) : Option α :=
  (r.get? name).bind read

/-- A field that takes a default if it is missing. -/
def field {α : Type} (r : Record) (name : String) (default : α) (read : Json → Option α) :
    Option α :=
  match r.get? name with
  | some v => read v
  | none => some default

/-- A field that need not be given, unless by its order. -/
def optional {α : Type} (r : Record) (name : String) (read : Json → Option (Option α)) :
    Option (Option α) :=
  if r.named then r.field name none read else r.required name read

/-- The fields of these names, if none of them is repeated. -/
def select? (names : List String) (fields : List (String × Json)) : Option Record :=
  let known := fields.filter fun f => f.1 ∈ names
  if (known.map (·.1)).Nodup then some ⟨known, true⟩ else none

end Record

namespace Json

/-- The record with fields of these names. -/
def record? (names : List String) : Json → Option Record
  | .object fields => Record.select? names fields
  | .array items => if items.length ≤ names.length then some ⟨names.zip items, false⟩ else none
  | _ => none

/-- The record with its `own` fields and the `shared` ones in an object that stands within so many
arrays and objects. All fields but its own are read in full, whether they count or not. -/
def openRecord? (own shared : List String) (enclosing : Nat) : Json → Option Record
  | .object fields =>
    if fields.all fun f => f.1 ∈ own || f.2.isWhole (enclosing + 1) then
      Record.select? (own ++ shared) fields
    else none
  | _ => none

def string? : Json → Option String
  | .string s => some s
  | _ => none

def bool? : Json → Option Bool
  | .bool b => some b
  | _ => none

def integer? : Json → Option Int
  | .number (.integer n) => some n
  | _ => none

/-- A natural number of at most `bound`. -/
def nat? (bound : Nat) (v : Json) : Option Nat :=
  match v.integer? with
  | some (.ofNat n) => if n ≤ bound then some n else none
  | _ => none

/-- An unsigned integer of 32 bits. -/
def uint32? (v : Json) : Option UInt32 := (v.nat? (Nat.pow 2 32 - 1)).map UInt32.ofNat

/-- An unsigned integer of 64 bits. -/
def uint64? (v : Json) : Option UInt64 := (v.nat? (Nat.pow 2 64 - 1)).map UInt64.ofNat

/-- A signed integer of 64 bits. -/
def int64? (v : Json) : Option Int64 :=
  match v.integer? with
  | some n => if -(Nat.pow 2 63) ≤ n ∧ n < Nat.pow 2 63 then some (Int64.ofInt n) else none
  | none => none

/-- The word of a choice, which may also stand as the name of an empty field. -/
def word? : Json → Option String
  | .string s => some s
  | .object [(name, .null)] => some name
  | _ => none

/-- The items of an array, each read alike. -/
def list? {α : Type} (read : Json → Option α) : Json → Option (List α)
  | .array items => items.mapM read
  | _ => none

/-- A value or `null`. -/
def nullable? {α : Type} (read : Json → Option α) : Json → Option (Option α)
  | .null => some none
  | v => (read v).map some

/-! ## Writing records -/

def ofList {α : Type} (write : α → Json) (items : List α) : Json := .array (items.map write)

def ofOption {α : Type} (write : α → Json) : Option α → Json
  | some a => write a
  | none => .null

/-- The field of a list, left out if the list is empty. -/
def listField {α : Type} (name : String) (write : α → Json) (items : List α) :
    List (String × Json) :=
  if items.isEmpty then [] else [(name, ofList write items)]

/-- The field of a text, left out if the text is empty. -/
def textField (name value : String) : List (String × Json) :=
  if value = "" then [] else [(name, .string value)]

end Json

end AccessSync
