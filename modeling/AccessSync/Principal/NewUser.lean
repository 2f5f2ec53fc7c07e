import AccessSync.Json.Record
/-!
# New users

What the account is told to create a user.
-/

namespace AccessSync

structure PersonName where
  given : String
  family : String
  deriving DecidableEq, Repr

namespace PersonName

def read (v : Json) : Option PersonName := do
  let r ← v.record? ["givenName", "familyName"]
  return ⟨← r.field "givenName" "" Json.string?, ← r.field "familyName" "" Json.string?⟩

def toJson (n : PersonName) : Json :=
  .object (Json.textField "givenName" n.given ++ Json.textField "familyName" n.family)

end PersonName

structure NewUser where
  userName : String
  displayName : String
  name : PersonName
  active : Bool
  deriving DecidableEq, Repr

namespace NewUser

def read (v : Json) : Option NewUser := do
  let r ← v.record? ["userName", "displayName", "name", "active"]
  let userName ← r.required "userName" Json.string?
  let displayName ← r.required "displayName" Json.string?
  let name ← r.field "name" ⟨"", ""⟩ PersonName.read
  let active ← r.field "active" false Json.bool?
  return ⟨userName, displayName, name, active⟩

def toJson (u : NewUser) : Json :=
  .object [("userName", .string u.userName), ("displayName", .string u.displayName),
    ("name", u.name.toJson), ("active", .bool u.active)]

end NewUser

end AccessSync
