import AccessSync.Json.Record
import AccessSync.Scope
/-!
# Permissions

A principal holds roles, which count for the account, and entitlements, which count for a
workspace. Each list is kept in order; adding a value that is there and removing one that is not
change nothing, and the result says whether anything changed.
-/

namespace AccessSync

/-- The list that a permission stands in. -/
inductive PermissionKind where
  | role
  | entitlement
  deriving DecidableEq, Repr

/-- The account knows roles, a workspace entitlements. -/
def PermissionKind.ofScope (s : Scope) : PermissionKind :=
  if s.isAccount then .role else .entitlement

/-- The permissions that a principal holds itself. -/
structure Permissions where
  roles : List String
  entitlements : List String
  deriving DecidableEq, Repr

namespace Permissions

def none : Permissions := ⟨[], []⟩

/-- The list of a kind. -/
def list (p : Permissions) : PermissionKind → List String
  | .role => p.roles
  | .entitlement => p.entitlements

/-- The permissions with another list of that kind. -/
def setList (p : Permissions) (kind : PermissionKind) (values : List String) : Permissions :=
  match kind with
  | .role => { p with roles := values }
  | .entitlement => { p with entitlements := values }

def contains (p : Permissions) (kind : PermissionKind) (value : String) : Bool :=
  value ∈ p.list kind

/-- The permissions with the value, and whether it was missing. -/
def add (p : Permissions) (kind : PermissionKind) (value : String) : Bool × Permissions :=
  if p.contains kind value then (false, p)
  else (true, p.setList kind (p.list kind ++ [value]))

/-- The permissions without the value's first occurrence, and whether it had one. -/
def remove (p : Permissions) (kind : PermissionKind) (value : String) : Bool × Permissions :=
  if p.contains kind value then (true, p.setList kind ((p.list kind).erase value))
  else (false, p)

/-! ## As JSON -/

/-- One permission, a record of its value. -/
def readValue (v : Json) : Option String := do
  let r ← v.record? ["value"]
  r.required "value" Json.string?

def writeValue (value : String) : Json := .object [("value", .string value)]

/-- The fields that permissions make up within another record. -/
def fieldNames : List String := ["roles", "entitlements"]

def ofRecord? (r : Record) : Option Permissions := do
  let roles ← r.field "roles" [] (Json.list? readValue)
  let entitlements ← r.field "entitlements" [] (Json.list? readValue)
  return ⟨roles, entitlements⟩

def read (v : Json) : Option Permissions := (v.record? fieldNames).bind ofRecord?

/-- The fields of both lists, as far as they hold anything. -/
def fields (p : Permissions) : List (String × Json) :=
  Json.listField "roles" writeValue p.roles ++ Json.listField "entitlements" writeValue p.entitlements

def toJson (p : Permissions) : Json := .object p.fields

end Permissions

end AccessSync
