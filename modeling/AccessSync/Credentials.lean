import AccessSync.Program
import AccessSync.Text.Quoted
/-!
# Credentials

What requests are signed with. Access tokens of workspaces sign requests to their own workspace only.
A client id and its secret are exchanged for a token at the account's issuer, which signs requests
until five minutes before it expires.
-/

namespace AccessSync

/-- Where tokens are given out, and what for. -/
structure TokenIssuer where
  clientId : String
  clientSecret : Secret
  url : Url
  deriving DecidableEq

inductive Credentials where
  | anonymous
  /-- Access tokens by the name that their workspace is deployed under. -/
  | workspaceTokens (tokens : Store Secret)
  | basic (username : String) (password : Secret)
  | issued (issuer : TokenIssuer)

namespace AccessToken

/-- How many seconds before its end a token is given up. -/
def margin : Int := 300

/-- The token has expired or will soon. The margin is added without regard to the end of the calendar. -/
def isStale (t : AccessToken) (now : Instant) : Bool :=
  t.expiresAt.any fun e => e.seconds ≤ now.seconds + margin

end AccessToken

namespace Credentials

def ofText (value : Option String) : String := value.getD ""

def ofSecret (value : Option Secret) : Secret := value.getD ⟨""⟩

/-- The credentials of a configuration, with tokens from that URL. -/
def ofConfig (c : Config) (tokenUrl : Url) : Credentials :=
  match c.family with
  | .basic => .basic (ofText c.username) (ofSecret c.password)
  | .oauth2 => .issued ⟨ofText c.clientId, ofSecret c.clientSecret, tokenUrl⟩
  | .workspaceTokens => .workspaceTokens (Store.ofList (c.workspaces.zip c.workspaceTokens))
  | .none => .anonymous

/-- The credentials reach single workspaces only. -/
def isTokenOnly : Credentials → Bool
  | .workspaceTokens _ => true
  | _ => false

/-- A text between quotes. -/
def quoted (text : String) : String := String.ofList (Text.quote text.toList)

/-- The credentials without their secrets. -/
def describe : Credentials → String
  | .anonymous => "None"
  | .workspaceTokens tokens =>
    "WorkspaceTokens \x7b workspaces: [" ++
      String.intercalate ", " (tokens.entries.map fun e => quoted e.1) ++ "] \x7d"
  | .basic username _ =>
    "Basic \x7b username: " ++ quoted username ++ ", password: \"[REDACTED]\" \x7d"
  | .issued issuer =>
    "OAuth2(TokenCache \x7b client_id: " ++ quoted issuer.clientId ++
      ", client_secret: \"[REDACTED]\", token_url: " ++ quoted issuer.url.text ++ ", .. \x7d)"

end Credentials

end AccessSync
