import AccessSync.Config.Basic
import AccessSync.Error
import AccessSync.Url.Parser
/-!
# Drafting a configuration

A draft is filled in step by step, in any order; what is set last counts. `build` reads the base
URLs and validates the outcome.
-/

namespace AccessSync

/-- A configuration that is not complete yet. -/
structure ConfigDraft where
  accountId : Option String
  hostname : Option String
  accountHostname : Option String
  clientId : Option String
  clientSecret : Option Secret
  username : Option String
  password : Option Secret
  workspaces : List String
  workspaceTokens : List Secret
  accountBaseUrl : Option String
  workspaceBaseUrl : Option String
  timeoutSecs : Option UInt64

namespace ConfigDraft

def empty : ConfigDraft :=
  ⟨none, none, none, none, none, none, none, [], [], none, none, none⟩

def setClient (d : ConfigDraft) (id secret : String) : ConfigDraft :=
  { d with clientId := some id, clientSecret := some ⟨secret⟩ }

def setUser (d : ConfigDraft) (name password : String) : ConfigDraft :=
  { d with username := some name, password := some ⟨password⟩ }

def addWorkspace (d : ConfigDraft) (name : String) : ConfigDraft :=
  { d with workspaces := d.workspaces ++ [name] }

def addWorkspaceToken (d : ConfigDraft) (name token : String) : ConfigDraft :=
  { d.addWorkspace name with workspaceTokens := d.workspaceTokens ++ [⟨token⟩] }

/-- A URL that may be absent. -/
def readUrl : Option String → Except Error (Option Url)
  | none => .ok none
  | some text =>
    match Url.parse text with
    | .ok url => .ok (some url)
    | .error fault => .error (.url fault)

/-- The configuration, if it is valid. -/
def build (d : ConfigDraft) : Except Error Config := do
  let some accountId := d.accountId | throw (.config .noAccountId)
  let accountBaseUrl ← readUrl d.accountBaseUrl
  let workspaceBaseUrl ← readUrl d.workspaceBaseUrl
  let config : Config :=
    ⟨accountId, d.hostname.getD Config.defaultHostname, d.accountHostname, d.clientId,
      d.clientSecret, d.username, d.password, d.workspaces, d.workspaceTokens, accountBaseUrl,
      workspaceBaseUrl, d.timeoutSecs.getD Config.defaultTimeoutSecs⟩
  match config.validate with
  | .ok () => return config
  | .error fault => throw (.config fault)

end ConfigDraft

end AccessSync
