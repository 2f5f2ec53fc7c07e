import AccessSync.Config.Basic
import AccessSync.Http.RateLimit
import AccessSync.Page.Stack
import AccessSync.Principal.Name
import AccessSync.Resource.Id
import AccessSync.Scope
/-!
# Errors

Every call ends in a value or in an `Error`, which says what went wrong by its cause; `message` is
the wording. A call that meets a time beyond the calendar ends in neither (`Halt.beyondCalendar`).
-/

namespace AccessSync

/-- What an API said when it refused a request. -/
structure ApiError where
  status : Http.Status
  detail : String
  message : String
  rateLimit : Http.RateLimit

namespace ApiError

def isNotFound (e : ApiError) : Bool := e.status = .notFound

/-- A write was refused because something else was written in between. -/
def isConflict (e : ApiError) : Bool := e.status = .conflict

def isRateLimited (e : ApiError) : Bool := e.status = .tooManyRequests

/-- What a workspace says that does not know assignments. -/
def unavailable : String := "Permission assignment APIs are not available for this workspace"

/-- The workspace does not know assignments. -/
def isUnavailable (e : ApiError) : Bool :=
  e.status = .badRequest && Text.occurs unavailable.toList e.message.toList

def text (e : ApiError) : String :=
  let code := Text.ofNat e.status.code
  s!"unexpected status code {code}: {e.detail} {e.message}"

end ApiError

/-- Why no complete reply came back. -/
inductive TransferFault where
  /-- The URL names no host that requests can be sent to. -/
  | noDestination
  /-- A credential holds a character that no header can hold. -/
  | unsendableCredential
  | noReply
  | cutShort
  deriving DecidableEq, Repr

def TransferFault.message : TransferFault → String
  | .noDestination => "no destination"
  | .unsendableCredential => "unsendable credential"
  | .noReply => "no reply"
  | .cutShort => "reply cut short"

/-- Why a request cannot be signed. -/
inductive CredentialFault where
  /-- The request for a token could not be sent to that URL. -/
  | tokenUnsendable (url : String)
  /-- The request for a token to that URL was not answered. -/
  | tokenUnanswered (url : String)
  | tokenRefused (status : Http.Status) (body : String)
  | tokenUnreadable
  /-- Access tokens of workspaces are of no use in the account. -/
  | tokensInAccount
  | noToken (workspace : String)
  /-- Neither API accepted the credentials. -/
  | refusedEverywhere
  deriving DecidableEq, Repr

def CredentialFault.message : CredentialFault → String
  | .tokenUnsendable url => "Token request failed: builder error for url (" ++ url ++ ")"
  | .tokenUnanswered url => "Token request failed: error sending request for url (" ++ url ++ ")"
  | .tokenRefused status body =>
    "Token request failed with status " ++ status.text ++ ": " ++ body
  | .tokenUnreadable => "Failed to parse token response: error decoding response body"
  | .tokensInAccount => "workspace access tokens cannot be used with the account API"
  | .noToken workspace => "no access token configured for " ++ workspace
  | .refusedEverywhere => "failed to validate credentials"

inductive Error where
  | config (fault : ConfigFault)
  | credential (fault : CredentialFault)
  /-- A workspace did not accept the credentials. -/
  | workspaceProbe (workspace : String) (cause : Error)
  | api (e : ApiError)
  | transfer (fault : TransferFault)
  /-- A reply is not what it should be. -/
  | unreadableReply
  | url (fault : UrlFault)
  | unknownEndpoint (endpoint scope : String)
  /-- Only the account knows the operation. -/
  | accountOnly (operation : String) (scope : Scope)
  | resourceId (fault : ResourceFault)
  | principal (fault : PrincipalFault)
  | pageToken (fault : PageFault)
  | unsupported (what : String)

namespace Error

def message : Error → String
  | .config fault => "Configuration error: " ++ fault.message
  | .credential fault => "Authentication error: " ++ fault.message
  | .workspaceProbe workspace cause =>
    "Authentication error: failed to validate credentials for workspace " ++ workspace ++ ": " ++
      cause.message
  | .api e => "Databricks API error: " ++ e.text
  | .transfer fault => "HTTP error: " ++ fault.message
  | .unreadableReply => "JSON error: unexpected content"
  | .url fault => "URL error: " ++ fault.message
  | .unknownEndpoint endpoint scope => s!"unknown endpoint: {endpoint} ({scope} scope)"
  | .accountOnly operation scope =>
    "Invalid scope: " ++ operation ++ " is only available on the account API, got " ++ scope.text
  | .resourceId fault => "invalid resource ID: " ++ fault.message
  | .principal fault => "invalid principal: " ++ fault.message
  | .pageToken fault => "invalid page token: " ++ fault.message
  | .unsupported what => "unsupported operation: " ++ what

/-- What the API said, if it refused a request. -/
def api? : Error → Option ApiError
  | .api e => some e
  | _ => none

end Error

/-- How a call ends without a value. -/
inductive Halt where
  | error (e : Error)
  /-- A reply named a time that the calendar does not have. -/
  | beyondCalendar

end AccessSync
