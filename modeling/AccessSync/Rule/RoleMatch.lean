import AccessSync.Text.Split
/-!
# Matching roles

A role is written with `roles/` in front or without. `exact` takes both spellings for one role,
`containing` looks for a part of the name.
-/

namespace AccessSync

/-- Which roles are meant. -/
inductive RoleMatch where
  /-- The role of that name, with `roles/` in front or without. -/
  | exact (name : String)
  /-- The roles with that part in their name. -/
  | containing (part : String)
  deriving DecidableEq, Repr

namespace RoleMatch

/-- What a full role name begins with. -/
def roleMark : List Char := ['r', 'o', 'l', 'e', 's', '/']

/-- The name without `roles/` in front. -/
def bare (name : List Char) : List Char := (Text.strip? roleMark name).getD name

/-- The name with `roles/` in front. -/
def qualify (name : String) : String :=
  match Text.strip? roleMark name.toList with
  | some _ => name
  | none => String.ofList (roleMark ++ name.toList)

def accepts (m : RoleMatch) (role : String) : Bool :=
  match m with
  | .exact name => bare role.toList = bare name.toList
  | .containing part => Text.occurs part.toList role.toList

end RoleMatch

end AccessSync
