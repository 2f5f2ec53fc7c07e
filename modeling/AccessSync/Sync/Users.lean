import AccessSync.Client.Principals
import AccessSync.Sync.Listing
/-!
# Users

Users are listed, created and deleted; nothing can be granted on them. A user listed under a
workspace is the same as under the account.
-/

namespace AccessSync.Sync

/-- First and last name, parted at the first blank. -/
def splitName (name : String) : String × String :=
  let name := Text.trim Text.isBlank name.toList
  match Text.cut? ' ' name with
  | some (first, last) => (String.ofList first, String.ofList (Text.trim Text.isBlank last))
  | none => (String.ofList name, "")

def userDetails (u : User) : UserDetails :=
  ⟨u.userName, u.active, u.emails.map fun e => ⟨e.value, e.primary⟩⟩

def userResource (u : User) (parent : ResourceId) : Resource :=
  let (first, last) := splitName u.displayName
  let own := [("first_name", first), ("last_name", last), ("email", u.primaryEmail?.getD ""),
    ("user_id", u.id), ("login", u.userName)].foldl (fun r e => r.withText e.1 e.2)
    (Resource.ofType .user u.id u.displayName)
  { own.underAccount parent with user := some (userDetails u) }

def users (c : Client) : Adapter where
  resourceType := .user
  list parent token := under parent fun parent => do
    let place ← resume token .user
    listPage c .users Query.userAttributes userResource parent place fun _ _ => pure ()
  entitlements _ _ := pure .empty
  grants _ _ := pure .empty
  grant _ _ := Call.fail (.unsupported "users have no entitlements to grant")
  revoke _ := Call.fail (.unsupported "users have no entitlements to revoke")

/-! ## Users of the account -/

/-- The user that a profile describes. A username may be given as an address. -/
def newUser (p : Profile) : Except ConfigFault NewUser := do
  let userName := ((p.text? "userName").or (p.text? "email")).getD ""
  let displayName := (p.text? "displayName").getD ""
  if userName = "" then throw .noUsername
  if displayName = "" then throw .noDisplayName
  let name := ⟨(p.text? "givenName").getD "", (p.text? "familyName").getD ""⟩
  return ⟨userName, displayName, name, (p.bool? "active").getD true⟩

/-- Creates the user that a profile describes and fetches it. -/
def createUser (c : Client) (p : Profile) : Call Resource := do
  let u ← Call.ofExcept .config (newUser p)
  let (created, _) ← c.createUser .account u
  let (user, _) ← c.get .users .account created.id
  return userResource user (.ofType .account c.accountId)

/-- Deletes a user. -/
def deleteUser (c : Client) (r : ResourceId) : Call Unit :=
  if r.isA .user then do
    let _ ← c.deleteUser .account r.resource
  else Call.fail (.principal (.notDeletable r.text))

end AccessSync.Sync
