import AccessSync.Http.Status
import AccessSync.Json.Printer
import AccessSync.Text.Base64
import AccessSync.Text.Form
import AccessSync.Url.Basic
/-!
# Requests and replies

A request is a method, a URL, headers and a body. Its credentials are kept as what they are and not
as the header they make, so that one can ask what a request carries; `Credential.text` is the
header. What comes back is a reply whose body may have been cut short, or nothing at all.
-/

namespace AccessSync.Http

inductive Method where
  | get
  | put
  | post
  | delete
  deriving DecidableEq, Repr

namespace Method

def name : Method → String
  | .get => "GET"
  | .put => "PUT"
  | .post => "POST"
  | .delete => "DELETE"

/-- The request changes what it is addressed to and may carry a body. -/
def isWrite : Method → Bool
  | .put | .post => true
  | .get | .delete => false

end Method

/-- What a request proves its right with. -/
inductive Credential where
  | basic (username password : String)
  | bearer (token : String)
  deriving DecidableEq, Repr

namespace Credential

/-- The value of the authorization header. -/
def text : Credential → String
  | .basic username password =>
    "Basic " ++ String.ofList (Base64.encode (Utf8.encode (username ++ ":" ++ password).toList))
  | .bearer token => "Bearer " ++ token

/-- A character that a header cannot hold. -/
def isUnsendable (c : Char) : Bool := (c.toNat < 0x20 && c ≠ '\t') || c.toNat = 0x7F

/-- The credential can stand in a header. -/
def isSendable (c : Credential) : Bool := c.text.toList.all (!isUnsendable ·)

end Credential

inductive Body where
  | empty
  | json (value : Json)
  | form (pairs : List (String × String))

namespace Body

/-- The body as it is sent. -/
def text : Body → List Char
  | .empty => []
  | .json value => value.print
  | .form pairs => Form.encode pairs

end Body

/-- A request to a peer. -/
structure Request where
  method : Method
  url : Url
  /-- Credentials in the order of their headers. -/
  credentials : List Credential
  accept : String
  contentType : Option String
  body : Body

/-- Headers of a reply in the order they came. -/
abbrev Headers := List (String × String)

namespace Headers

/-- Header names are compared without regard to case. -/
def sameName (a b : String) : Bool :=
  a.toList.map Text.lowerAscii = b.toList.map Text.lowerAscii

/-- The first header of that name. -/
def get? (headers : Headers) (name : String) : Option String :=
  (headers.find? fun h => sameName h.1 name).map (·.2)

/-- A character of a header value that is text. -/
def isPlain (c : Char) : Bool := (0x20 ≤ c.toNat && c.toNat < 0x7F) || c = '\t'

/-- The first header of that name, if it is plain text. -/
def plain? (headers : Headers) (name : String) : Option String :=
  (headers.get? name).bind fun v => if v.toList.all isPlain then some v else none

end Headers

/-- A reply of a peer. -/
structure Reply where
  status : Status
  headers : Headers
  /-- The bytes of the body; nothing if it was cut short. -/
  body : Option (List UInt8)

end AccessSync.Http
