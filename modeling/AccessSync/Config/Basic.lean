import AccessSync.Text.Blank
import AccessSync.Text.Integer
import AccessSync.Url.Basic
/-!
# Configuration

Which account is synced, where its APIs are and what requests are signed with. There are three
families of credentials; `validate` demands exactly one of them, complete, and `family` says which
one is used.
-/

namespace AccessSync

/-- A text that is shown to nobody. -/
structure Secret where
  expose : String
  deriving DecidableEq

/-- What kind of credentials requests are signed with. -/
inductive CredentialFamily where
  /-- Username and password. -/
  | basic
  /-- Tokens that the account's issuer gives out for a client id and its secret. -/
  | oauth2
  /-- One access token for each workspace. -/
  | workspaceTokens
  | none
  deriving DecidableEq, Repr

namespace CredentialFamily

def name : CredentialFamily → String
  | .basic => "Basic"
  | .oauth2 => "OAuth2"
  | .workspaceTokens => "WorkspaceTokens"
  | .none => "None"

end CredentialFamily

structure Config where
  accountId : String
  /-- The hostname that the hosts of account and workspaces end with. -/
  hostname : String
  /-- The host of the account's API, if it is not the usual one. -/
  accountHostname : Option String
  clientId : Option String
  clientSecret : Option Secret
  username : Option String
  password : Option Secret
  /-- Workspaces that are synced; none means all of the account. -/
  workspaces : List String
  /-- Access tokens, one for each workspace in the same order. -/
  workspaceTokens : List Secret
  /-- Where the account's API is, if not at its host. -/
  accountBaseUrl : Option Url
  /-- Where the APIs of all workspaces are, if not at their hosts. -/
  workspaceBaseUrl : Option Url
  /-- How long a request may take. -/
  timeoutSecs : UInt64

/-- Why a configuration cannot be used, or what a request that depends on it lacks. -/
inductive ConfigFault where
  | noAccountId
  | noHostname
  | noCredentials
  | severalCredentials
  | halfClient
  | halfUser
  | tokenCount (workspaces tokens : Nat)
  | malformedEscape (url fault : String)
  | noSegments (url : String)
  | noUsername
  | noDisplayName
  deriving DecidableEq, Repr

def ConfigFault.message : ConfigFault → String
  | .noAccountId => "account_id is required"
  | .noHostname => "hostname cannot be empty"
  | .noCredentials => "one of client_id, username or workspace_tokens must be set"
  | .severalCredentials => "client_id, username and workspace_tokens are mutually exclusive"
  | .halfClient => "client_id and client_secret must be set together"
  | .halfUser => "username and password must be set together"
  | .tokenCount workspaces tokens =>
    s!"workspace_tokens requires one workspace per token ({workspaces} workspaces, {tokens} tokens)"
  | .malformedEscape url fault => "invalid URL encoding in " ++ url ++ ": " ++ fault
  | .noSegments url => "URL cannot be a base: " ++ url
  | .noUsername => "username is required to create a user"
  | .noDisplayName => "displayName is required to create a user"

namespace Config

def defaultHostname : String := "cloud.databricks.com"

def defaultTimeoutSecs : UInt64 := 30

/-- The value is given and not empty. -/
def isSet (value : Option String) : Bool := value.any (· ≠ "")

def isSecretSet (value : Option Secret) : Bool := value.any (·.expose ≠ "")

/-- The host of the account's API. -/
def accountHost (c : Config) : String :=
  match c.accountHostname with
  | some host => if host = "" then "accounts." ++ c.hostname else host
  | none => "accounts." ++ c.hostname

/-- How many families of credentials are begun. -/
def familyCount (c : Config) : Nat :=
  [isSet c.clientId, isSet c.username, !c.workspaceTokens.isEmpty].count true

/-- The first rule that the configuration breaks. -/
def fault? (c : Config) : Option ConfigFault :=
  if Text.allBlank c.accountId then some .noAccountId
  else if Text.allBlank c.hostname then some .noHostname
  else if c.familyCount = 0 then some .noCredentials
  else if 1 < c.familyCount then some .severalCredentials
  else if isSet c.clientId ≠ isSecretSet c.clientSecret then some .halfClient
  else if isSet c.username ≠ isSecretSet c.password then some .halfUser
  else if c.workspaceTokens ≠ [] ∧ c.workspaces.length ≠ c.workspaceTokens.length then
    some (.tokenCount c.workspaces.length c.workspaceTokens.length)
  else none

def validate (c : Config) : Except ConfigFault Unit :=
  match c.fault? with
  | some fault => .error fault
  | none => .ok ()

/-- The family that requests are signed with: the first one that is complete. -/
def family (c : Config) : CredentialFamily :=
  if isSet c.username && isSecretSet c.password then .basic
  else if isSet c.clientId && isSecretSet c.clientSecret then .oauth2
  else if !c.workspaceTokens.isEmpty && c.workspaces.length = c.workspaceTokens.length then
    .workspaceTokens
  else .none

end Config

end AccessSync
