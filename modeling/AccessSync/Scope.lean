/-!
# Scopes

Every call names the API it is meant for: that of the account or that of one workspace.
-/

namespace AccessSync

/-- The API that a call is meant for. -/
inductive Scope where
  | account
  /-- The API of the workspace deployed under this name. -/
  | workspace (name : String)
  deriving DecidableEq, Repr

namespace Scope

/-- What two scopes have in common if they differ in the workspace at most. -/
inductive Level where
  | account
  | workspace
  deriving DecidableEq, Repr

def Level.name : Level → String
  | .account => "account"
  | .workspace => "workspace"

def level : Scope → Level
  | .account => .account
  | .workspace _ => .workspace

/-- The scope of a workspace; no name means the account. -/
def ofWorkspace (name : String) : Scope := if name = "" then .account else .workspace name

def workspace? : Scope → Option String
  | .account => none
  | .workspace name => some name

def isAccount (s : Scope) : Bool := s = .account

def text : Scope → String
  | .account => "account"
  | .workspace name => "workspace " ++ name

end Scope

end AccessSync
