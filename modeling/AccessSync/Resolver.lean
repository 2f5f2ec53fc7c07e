import AccessSync.Config.Basic
import AccessSync.Endpoint
import AccessSync.Error
import AccessSync.Url.Parser
/-!
# Addresses

A resolver knows where the APIs are and turns an endpoint and a scope into a URL. An address is the
base URL of the scope, its path continued by that of the endpoint; `resolveWith` goes on with one
segment for each further text, whatever the text holds.
-/

namespace AccessSync

/-- Where the APIs of workspaces are. -/
inductive WorkspaceBase where
  /-- Each at a host of its own under this hostname. -/
  | subdomain (hostname : String)
  /-- All in one place. -/
  | fixed (url : Url)
  deriving DecidableEq, Repr

structure Resolver where
  accountId : String
  accountBase : Url
  workspaceBase : WorkspaceBase
  deriving DecidableEq, Repr

namespace Resolver

def readUrl (text : String) : Except Error Url :=
  match Url.parse text with
  | .ok url => .ok url
  | .error fault => .error (.url fault)

/-- The resolver of a configuration. -/
def ofConfig (c : Config) : Except Error Resolver := do
  let accountBase ← match c.accountBaseUrl with
    | some url => .ok url
    | none => readUrl ("https://" ++ c.accountHost)
  let workspaceBase := match c.workspaceBaseUrl with
    | some url => WorkspaceBase.fixed url
    | none => .subdomain c.hostname
  return ⟨c.accountId, accountBase, workspaceBase⟩

/-- Where the API of a scope is. -/
def baseUrl (r : Resolver) : Scope → Except Error Url
  | .account => .ok r.accountBase
  | .workspace name =>
    match r.workspaceBase with
    | .fixed url => .ok url
    | .subdomain hostname => readUrl ("https://" ++ name ++ "." ++ hostname)

/-- The path of an endpoint in a scope of that level. -/
def path (r : Resolver) (endpoint : Endpoint) (level : Scope.Level) : Except Error String :=
  match endpoint.path? level r.accountId with
  | some path => .ok path
  | none => .error (.unknownEndpoint endpoint.name level.name)

/-- The base with its path continued by `path` and without a query. -/
def join (base : Url) (path : String) : Url :=
  let start := Text.dropEndWhile (· = '/') base.path.text
  { base.setPath (start ++ path.toList) with query := none }

/-- The URL of an endpoint in a scope. -/
def resolve (r : Resolver) (endpoint : Endpoint) (scope : Scope) : Except Error Url := do
  let path ← r.path endpoint scope.level
  let base ← r.baseUrl scope
  return join base path

/-- The URL with one more segment for each text that is not empty. -/
def append (url : Url) (texts : List String) : Except Error Url :=
  match url.path with
  | .plain _ => .error (.config (.noSegments url.text))
  | .segments parts =>
    let file := url.scheme = Url.fileScheme
    let parts := (texts.filter (· ≠ "")).foldl
      (fun parts text => UrlPath.push url.isSpecial file parts text.toList)
      (UrlPath.dropEmptyEnd parts)
    .ok { url with path := .segments parts }

/-- The URL of something within an endpoint, named by further segments. -/
def resolveWith (r : Resolver) (endpoint : Endpoint) (scope : Scope) (texts : List String) :
    Except Error Url := do
  append (← r.resolve endpoint scope) texts

/-- Where the account gives out tokens. -/
def tokenUrl (r : Resolver) : Url :=
  join r.accountBase ("/oidc/accounts/" ++ r.accountId ++ "/v1/token")

end Resolver

end AccessSync
