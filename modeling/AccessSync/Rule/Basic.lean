import AccessSync.Json.Record
/-!
# Rules

A rule grants one role to the principals that it lists. The rules on one target are a rule set, which
is read and written as a whole.
-/

namespace AccessSync

/-- A role that principals can be given. -/
structure Role where
  name : String
  deriving DecidableEq, Repr

namespace Role

def read (v : Json) : Option Role := do
  let r ← v.record? ["name"]
  return ⟨← r.required "name" Json.string?⟩

def toJson (r : Role) : Json := .object [("name", .string r.name)]

end Role

/-- A role and those who hold it. -/
structure Rule where
  /-- Names of principals as they were written; some may name none. -/
  principals : List String
  role : String
  deriving DecidableEq, Repr

namespace Rule

def read (v : Json) : Option Rule := do
  let r ← v.record? ["principals", "role"]
  let principals ← r.field "principals" [] (Json.list? Json.string?)
  let role ← r.required "role" Json.string?
  return ⟨principals, role⟩

def toJson (r : Rule) : Json :=
  .object [("principals", Json.ofList .string r.principals), ("role", .string r.role)]

end Rule

end AccessSync
