import AccessSync.Resource.Id
import AccessSync.Store
/-!
# Resources

A resource with its name, parent and profile. The profile is where facts are kept that a later call
on the resource needs; the host stores it and hands it back.
-/

namespace AccessSync

/-- Named values. -/
abbrev Profile := Store Json

namespace Profile

/-- Reads a profile that stands within so many arrays and objects. -/
def read (enclosing : Nat) (v : Json) : Option Profile :=
  match v with
  | .object fields => if v.isWhole enclosing then some (Store.ofList fields) else none
  | _ => none

def toJson (p : Profile) : Json := .object p.entries

/-- A text of the profile. -/
def text? (p : Profile) (key : String) : Option String := (p.get? key).bind Json.string?

/-- A number of the profile. -/
def int64? (p : Profile) (key : String) : Option Int64 := (p.get? key).bind Json.int64?

/-- A truth value of the profile. -/
def bool? (p : Profile) (key : String) : Option Bool := (p.get? key).bind Json.bool?

end Profile

structure UserEmail where
  address : String
  primary : Bool
  deriving DecidableEq, Repr

/-- What the host is told about a user beyond the profile. -/
structure UserDetails where
  login : String
  enabled : Bool
  emails : List UserEmail
  deriving DecidableEq, Repr

namespace UserDetails

def statusName (enabled : Bool) : String := if enabled then "enabled" else "disabled"

def readStatus (v : Json) : Option Bool :=
  v.word?.bind fun s => [true, false].find? fun b => statusName b = s

def readEmail (v : Json) : Option UserEmail := do
  let r ← v.record? ["address", "primary"]
  return ⟨← r.required "address" Json.string?, ← r.required "primary" Json.bool?⟩

def emailToJson (e : UserEmail) : Json :=
  .object [("address", .string e.address), ("primary", .bool e.primary)]

def read (v : Json) : Option UserDetails := do
  let r ← v.record? ["login", "status", "emails"]
  let login ← r.required "login" Json.string?
  let enabled ← r.required "status" readStatus
  let emails ← r.required "emails" (Json.list? readEmail)
  return ⟨login, enabled, emails⟩

def toJson (d : UserDetails) : Json :=
  .object [("login", .string d.login), ("status", .string (statusName d.enabled)),
    ("emails", Json.ofList emailToJson d.emails)]

end UserDetails

structure Resource where
  id : ResourceId
  displayName : String
  parent : Option ResourceId
  profile : Profile
  /-- Types that the host should list under the resource. -/
  childTypes : List String
  user : Option UserDetails

namespace Resource

/-- A resource of which nothing else is known. -/
def ofType (t : ResourceType) (id displayName : String) : Resource :=
  ⟨.ofType t id, displayName, none, .empty, [], none⟩

def withParent (r : Resource) (parent : Option ResourceId) : Resource := { r with parent }

def withProfile (r : Resource) (key : String) (value : Json) : Resource :=
  { r with profile := r.profile.put key value }

def withText (r : Resource) (key value : String) : Resource := r.withProfile key (.string value)

def withChildType (r : Resource) (t : ResourceType) : Resource :=
  { r with childTypes := r.childTypes ++ [t.id] }

/-- A text of the profile that has to be there. -/
def requireText (r : Resource) (key : String) : Except ResourceFault String :=
  match r.profile.text? key with
  | some value => .ok value
  | none => .error (.noProfileEntry r.id.text key)

/-- Reads a resource that stands within so many arrays and objects. -/
def read (enclosing : Nat) (v : Json) : Option Resource := do
  let r ← v.record? ["id", "display_name", "parent", "profile", "child_types", "user"]
  let id ← r.required "id" ResourceId.read
  let displayName ← r.required "display_name" Json.string?
  let parent ← r.optional "parent" (Json.nullable? ResourceId.read)
  let profile ← r.required "profile" (Profile.read (enclosing + 1))
  let childTypes ← r.required "child_types" (Json.list? Json.string?)
  let user ← r.optional "user" (Json.nullable? UserDetails.read)
  return ⟨id, displayName, parent, profile, childTypes, user⟩

def toJson (r : Resource) : Json :=
  .object [("id", r.id.toJson), ("display_name", .string r.displayName),
    ("parent", Json.ofOption ResourceId.toJson r.parent), ("profile", r.profile.toJson),
    ("child_types", Json.ofList .string r.childTypes),
    ("user", Json.ofOption UserDetails.toJson r.user)]

end Resource

end AccessSync
