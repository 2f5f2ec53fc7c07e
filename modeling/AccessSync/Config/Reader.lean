import AccessSync.Config.Basic
import AccessSync.Json.Record
import AccessSync.Url.Parser
/-!
# Reading configurations

A configuration as it is stored. An empty base URL counts as none.
-/

namespace AccessSync.Config

/-- The fields of a configuration in their order. -/
def fieldNames : List String :=
  ["account_id", "hostname", "account_hostname", "client_id", "client_secret", "username",
   "password", "workspaces", "workspace_tokens", "account_base_url", "workspace_base_url",
   "timeout_secs"]

def readText (r : Record) (name : String) : Option (Option String) :=
  r.field name none (Json.nullable? Json.string?)

/-- A base URL, absent or well-formed. -/
def readBase (r : Record) (name : String) : Option (Option Url) := do
  match ← readText r name with
  | none => return none
  | some text =>
    if text = "" then return none
    else (Url.parse text).toOption.map some

def read (v : Json) : Option Config := do
  let r ← v.record? fieldNames
  let accountId ← r.required "account_id" Json.string?
  let hostname ← r.field "hostname" defaultHostname Json.string?
  let accountHostname ← readText r "account_hostname"
  let clientId ← readText r "client_id"
  let clientSecret ← readText r "client_secret"
  let username ← readText r "username"
  let password ← readText r "password"
  let workspaces ← r.field "workspaces" [] (Json.list? Json.string?)
  let workspaceTokens ← r.field "workspace_tokens" [] (Json.list? Json.string?)
  let accountBaseUrl ← readBase r "account_base_url"
  let workspaceBaseUrl ← readBase r "workspace_base_url"
  let timeoutSecs ← r.field "timeout_secs" defaultTimeoutSecs Json.uint64?
  return ⟨accountId, hostname, accountHostname, clientId, clientSecret.map Secret.mk, username,
    password.map Secret.mk, workspaces, workspaceTokens.map Secret.mk, accountBaseUrl,
    workspaceBaseUrl, timeoutSecs⟩

end AccessSync.Config
