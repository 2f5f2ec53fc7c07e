import AccessSync.Credentials
import AccessSync.Json.Parser
import AccessSync.Query
import AccessSync.Url.Parser
/-!
# Exchanging messages with an API

One request and the reading of its reply. The URL is unescaped and read anew before it is sent, and
its query is replaced if there are parameters. The body of a reply is JSON whatever type it claims to
have, and blanks stand for `null`.
-/

namespace AccessSync

namespace Transport

/-! ## The request -/

/-- The URL that a request is sent to. -/
def prepareUrl (url : Url) (query : Query) : Except Error Url :=
  match Utf8.decode (Percent.unescape (Utf8.encode url.chars)) with
  | .error fault => .error (.config (.malformedEscape url.text fault.message))
  | .ok cs =>
    match Url.ofChars cs with
    | .error fault => .error (.url fault)
    | .ok url => .ok (if query.isEmpty then url else url.setPairs (Form.encode query.pairs))

/-- The text that an escaped part of a URL stands for. -/
def unescape? (cs : List Char) : Option String :=
  (Utf8.decode (Percent.unescape (Utf8.encode cs))).toOption.map String.ofList

/-- The URL without username and password, and the credential that these make up. -/
def takeUser (url : Url) : Url × Option Http.Credential :=
  match url.authority with
  | none => (url, none)
  | some a =>
    match unescape? a.username with
    | none => (url, none)
    | some username =>
      let password := if a.password = [] then none else unescape? a.password
      if username = "" ∧ password = none then (url, none)
      else
        ({ url with authority := some { a with username := [], password := [] } },
          some (.basic username (password.getD "")))

/-- A character that the host of a request may hold. -/
def isHostChar (c : Char) : Bool :=
  ('a' ≤ c && c ≤ 'z') || ('A' ≤ c && c ≤ 'Z') || ('0' ≤ c && c ≤ '9') ||
    c ∈ ['-', '.', '_', '~', '!', '$', '&', '\'', '(', ')', '*', '+', ',', ';', '=', ':', '[', ']']

/-- Requests can be sent to the URL. -/
def isDestination (url : Url) : Bool :=
  url.isWeb && match url.host? with
    | some host => host.text.all isHostChar
    | none => false

/-- The request with another credential after those it has. -/
def sign (request : Http.Request) (credential : Option Http.Credential) : Http.Request :=
  { request with credentials := request.credentials ++ credential.toList }

/-- A request to a URL, signed with what the URL itself says. -/
def draft (method : Http.Method) (url : Url) (accept : String) (contentType : Option String)
    (body : Http.Body) : Http.Request :=
  let (url, credential) := takeUser url
  ⟨method, url, credential.toList, accept, contentType, body⟩

/-- Why a request cannot be sent, if it cannot. -/
def fault? (request : Http.Request) : Option TransferFault :=
  if !isDestination request.url then some .noDestination
  else if !request.credentials.all (·.isSendable) then some .unsendableCredential
  else none

/-! ## Tokens -/

def formType : String := "application/x-www-form-urlencoded"

/-- The request for a token. -/
def tokenRequest (issuer : TokenIssuer) : Http.Request :=
  sign (draft .post issuer.url "*/*" (some formType)
      (.form [("grant_type", "client_credentials"), ("scope", "all-apis")]))
    (some (.basic issuer.clientId issuer.clientSecret.expose))

/-- Text and lifetime of the token in a reply. -/
def readToken (v : Json) : Option (String × Option Int64) := do
  let r ← v.record? ["access_token", "expires_in"]
  let text ← r.required "access_token" Json.string?
  let lifetime ← r.field "expires_in" none (Json.nullable? Json.int64?)
  return (text, lifetime)

/-- The token with its end, counted from now. -/
def tokenOf (text : String) : Option Int64 → Call AccessToken
  | none => pure ⟨text, none⟩
  | some lifetime => do
    let now ← Call.perform .now
    match (Instant.span? lifetime.toInt).bind now.later? with
    | some expiresAt => return ⟨text, some expiresAt⟩
    | none => throw .beyondCalendar

/-- A new token from the issuer. -/
def acquireToken (issuer : TokenIssuer) : Call AccessToken := do
  let request := tokenRequest issuer
  if (fault? request).isSome then
    Call.fail (.credential (.tokenUnsendable request.url.text))
  else
    match ← Call.perform (.send request) with
    | none => Call.fail (.credential (.tokenUnanswered request.url.text))
    | some reply =>
      if !reply.status.isSuccess then
        let body := String.ofList (Utf8.decodeLossy (reply.body.getD []))
        Call.fail (.credential (.tokenRefused reply.status body))
      else
        match (reply.body.bind Json.ofBytes).bind readToken with
        | none => Call.fail (.credential .tokenUnreadable)
        | some (text, lifetime) => tokenOf text lifetime

/-- Asks the issuer for a token and remembers it. -/
def renewToken (issuer : TokenIssuer) : Call String := do
  let token ← acquireToken issuer
  Call.perform (.writeToken (some token))
  return token.text

/-- The token that is remembered, or a new one if there is none or it is about to expire. -/
def token (issuer : TokenIssuer) : Call String := do
  match ← Call.perform .readToken with
  | none => renewToken issuer
  | some token =>
    let now ← Call.perform .now
    if token.isStale now then renewToken issuer else return token.text

/-- Forgets the token. -/
def forgetToken : Call Unit := Call.perform (.writeToken none)

/-- What a request in that scope is signed with. -/
def credential (credentials : Credentials) (scope : Scope) : Call (Option Http.Credential) :=
  match credentials with
  | .anonymous => pure none
  | .basic username password => pure (some (.basic username password.expose))
  | .issued issuer => do return some (.bearer (← token issuer))
  | .workspaceTokens tokens =>
    match scope with
    | .account => Call.fail (.credential .tokensInAccount)
    | .workspace name =>
      match tokens.get? name with
      | none => Call.fail (.credential (.noToken name))
      | some token => pure (some (.bearer token.expose))

/-! ## The reply -/

/-- White space of ASCII, which may be all that a body holds. -/
def isSpace (b : UInt8) : Bool := b ∈ [0x20, 0x09, 0x0A, 0x0C, 0x0D]

/-- The value that a body writes; blanks write `null`. -/
def readBody (bytes : List UInt8) : Option Json :=
  if bytes.all isSpace then some .null else Json.ofBytes bytes

/-- The two texts of an error. -/
def readErrorTexts (v : Json) : Option (String × String) := do
  let r ← v.record? ["detail", "message"]
  return (← r.field "detail" "" Json.string?, ← r.field "message" "" Json.string?)

/-- The error that a refusing reply describes; a body that is no error is its message. -/
def readError (status : Http.Status) (bytes : List UInt8) (rateLimit : Http.RateLimit) :
    ApiError :=
  match (Json.ofBytes bytes).bind readErrorTexts with
  | some (detail, message) => ⟨status, detail, message, rateLimit⟩
  | none => ⟨status, "", Text.trimBlank (String.ofList (Utf8.decodeLossy bytes)), rateLimit⟩

variable {α : Type}

/-- The value in a reply. -/
def readReply (read : Json → Option α) (reply : Http.Reply) : Call (α × Http.RateLimit) := do
  let now ← Call.perform .now
  match Http.RateLimit.ofReply? now reply.status reply.headers with
  | none => throw .beyondCalendar
  | some rateLimit =>
    match reply.body with
    | none => Call.fail (.transfer .cutShort)
    | some bytes =>
      if !reply.status.isSuccess then Call.fail (.api (readError reply.status bytes rateLimit))
      else
        match (readBody bytes).bind read with
        | some a => return (a, rateLimit)
        | none => Call.fail .unreadableReply

/-- Sends a request and reads its reply. -/
def send (read : Json → Option α) (request : Http.Request) : Call (α × Http.RateLimit) :=
  match fault? request with
  | some fault => Call.fail (.transfer fault)
  | none => do
    match ← Call.perform (.send request) with
    | none => Call.fail (.transfer .noReply)
    | some reply => readReply read reply

/-! ## Both -/

def jsonType : String := "application/json"

/-- Any value will do. -/
def ignore (_ : Json) : Option Unit := some ()

def bodyOf : Option Json → Http.Body
  | some v => .json v
  | none => .empty

/-- One exchange with the API of a scope. -/
def exchange (credentials : Credentials) (read : Json → Option α) (method : Http.Method)
    (scope : Scope) (url : Url) (body : Option Json) (terms : List Query.Term) :
    Call (α × Http.RateLimit) := do
  let url ← Call.ofExcept id (prepareUrl url (Query.ofTerms terms))
  let contentType := if method.isWrite then some jsonType else none
  let request := draft method url jsonType contentType (bodyOf body)
  send read (sign request (← credential credentials scope))

end Transport

end AccessSync
