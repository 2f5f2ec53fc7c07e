import AccessSync.Sync.Groups
import AccessSync.Sync.Roles
import AccessSync.Sync.ServicePrincipals
import AccessSync.Sync.Users
import AccessSync.Sync.Workspaces
/-!
# The connector

The client of a valid configuration with one adapter for each type of resource. `probe` finds out
which APIs accept the credentials.
-/

namespace AccessSync

structure Connector where
  config : Config
  client : Client

/-- The adapters of a client, of which that of workspaces keeps to the ones that are allowed. -/
def Client.adapters (c : Client) (allowed : List String) : List Adapter :=
  [Sync.account c, Sync.groups c, Sync.servicePrincipals c, Sync.users c,
   Sync.workspaces c allowed, Sync.roles c]

namespace Connector

/-- The connector of a configuration that is valid. -/
def ofConfig (config : Config) : Except Error Connector := do
  match config.validate with
  | .error fault => throw (.config fault)
  | .ok () => return ⟨config, ← Client.ofConfig config⟩

def adapters (c : Connector) : List Adapter := c.client.adapters c.config.workspaces

/-! ## Probing the credentials -/

/-- The account's API accepts the credentials. Access tokens of workspaces are not tried there. -/
def probeAccount (c : Client) : Call Bool :=
  if c.isTokenOnly then pure false
  else do
    match ← Call.attempt (c.listRoles .account .account) with
    | .ok _ => return true
    | .error _ => return false

/-- The workspaces that are probed. -/
def targets (c : Connector) : Call (List String) := do
  if c.config.workspaces.isEmpty then
    let (workspaces, _) ← c.client.listWorkspaces
    return workspaces.map (·.deploymentName)
  else return c.config.workspaces

/-- Tries the credentials in one workspace. A refusal counts only if the account refused them
too. -/
def probeWorkspace (c : Client) (account : Bool) (name : String) : Call Unit := do
  match ← Call.attempt (c.listRoles (.workspace name) .account) with
  | .ok _ => return
  | .error e => if account then return else Call.fail (.workspaceProbe name e)

/-- Tries the credentials in the account and in every workspace and remembers which APIs accept
them. -/
def probe (c : Connector) : Call Availability := do
  let account ← probeAccount c.client
  let names ← c.targets
  names.forM (probeWorkspace c.client account)
  let availability : Availability := ⟨account, !names.isEmpty⟩
  if account || availability.workspace then
    Call.perform (.writeAvailability availability)
    return availability
  else Call.fail (.credential .refusedEverywhere)

/-! ## Describing the connector -/

/-- What a field of a form holds. -/
inductive FieldKind where
  | text
  | bool
  deriving DecidableEq, Repr

def FieldKind.name : FieldKind → String
  | .text => "string"
  | .bool => "bool"

/-- A field of the form that a new user is described by. -/
structure FormField where
  name : String
  displayName : String
  description : String
  required : Bool
  kind : FieldKind
  placeholder : String
  deriving DecidableEq, Repr

def displayName : String := "Databricks"

def description : String :=
  "Connector syncing Databricks workspaces, users, groups, service principals and roles"

/-- The form that a new user is described by. -/
def newUserForm : List FormField :=
  [⟨"email", "Email", "The email address of the user.", true, .text, "Email"⟩,
   ⟨"displayName", "Display Name", "User's display name", true, .text, "Display Name"⟩,
   ⟨"givenName", "Given Name", "User's given name", false, .text, "Given Name"⟩,
   ⟨"familyName", "Family Name", "User's family name", false, .text, "Family Name"⟩,
   ⟨"active", "Active", "If the user is active", false, .bool, "active"⟩]

/-- A field as JSON; fields are numbered from one. -/
def FormField.toJson (order : Nat) (f : FormField) : Json :=
  .object [("name", .string f.name), ("display_name", .string f.displayName),
    ("description", .string f.description), ("required", .bool f.required),
    ("kind", .string f.kind.name), ("placeholder", .string f.placeholder),
    ("order", .ofInt order)]

/-- What the host is told about the connector. -/
def metadata : Json :=
  .object [("display_name", .string displayName), ("description", .string description),
    ("account_creation_schema",
      .array (newUserForm.zipIdx.map fun (f, i) => f.toJson (i + 1)))]

end Connector

end AccessSync
