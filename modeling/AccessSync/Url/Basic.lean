import AccessSync.Text.Integer
import AccessSync.Text.Percent
import AccessSync.Text.Split
/-!
# URLs

An absolute URL in its parts. All text in it is already escaped as its part demands, so `text`
only puts the parts together. A URL with a special scheme always has an authority and a path that
begins with a slash; one whose path is `opaque` (`mailto:`, say) has no authority and no segments.
-/

namespace AccessSync

/-- Why a text is no absolute URL. -/
inductive UrlFault where
  | noScheme
  | emptyHost
  | invalidDomain
  | invalidPort
  | invalidIpv4
  | invalidIpv6
  | invalidHostCharacter
  deriving DecidableEq, Repr

def UrlFault.message : UrlFault → String
  | .noScheme => "relative URL without a base"
  | .emptyHost => "empty host"
  | .invalidDomain => "invalid international domain name"
  | .invalidPort => "invalid port number"
  | .invalidIpv4 => "invalid IPv4 address"
  | .invalidIpv6 => "invalid IPv6 address"
  | .invalidHostCharacter => "invalid domain character"

/-- The host of an authority. -/
inductive Host where
  /-- A domain in ASCII, or the escaped host of a scheme that is not special. -/
  | name (text : List Char)
  | ipv4 (address : Nat)
  /-- Eight numbers of 16 bits. -/
  | ipv6 (groups : List Nat)
  deriving DecidableEq, Repr

/-- Who and where: `username:password@host:port`. -/
structure Authority where
  username : List Char
  /-- Empty if there is none. -/
  password : List Char
  host : Host
  /-- None if it is the scheme's own. -/
  port : Option Nat
  deriving DecidableEq, Repr

inductive UrlPath where
  /-- Text that has no segments. -/
  | plain (text : List Char)
  /-- Segments, each behind a slash. -/
  | segments (parts : List (List Char))
  deriving DecidableEq, Repr

structure Url where
  scheme : List Char
  authority : Option Authority
  /-- `/.` stands before the path, so that slashes at its front begin no authority. -/
  marked : Bool
  path : UrlPath
  query : Option (List Char)
  fragment : Option (List Char)
  deriving DecidableEq, Repr

namespace Host

/-- A number of 16 bits in hexadecimal, without leading zeros. -/
def hexGroup (n : Nat) : List Char :=
  let digits := [n / 4096 % 16, n / 256 % 16, n / 16 % 16, n % 16]
  let shown := match digits.dropWhile (· = 0) with
    | [] => [0]
    | ds => ds
  shown.map fun d => Text.lowerAscii (Percent.hexDigit d)

/-- The length of the run of zeros at the front. -/
def zeroRun (groups : List Nat) : Nat := (groups.takeWhile (· = 0)).length

/-- The longest run of zeros among all tails, as start and length; the first of equals. -/
def longestZeros (start : Nat) : List Nat → Nat × Nat
  | [] => (start, 0)
  | g :: gs =>
    let here := (start, zeroRun (g :: gs))
    let later := longestZeros (start + 1) gs
    if here.2 < later.2 then later else here

def groupsText (groups : List Nat) : List Char := Text.join [':'] (groups.map hexGroup)

/-- The host as text; two or more zeros in a row are left out of an IPv6 address once. -/
def text : Host → List Char
  | .name text => text
  | .ipv4 n =>
    Text.join ['.'] ([n / Nat.pow 2 24 % 256, n / Nat.pow 2 16 % 256, n / Nat.pow 2 8 % 256, n % 256].map
      Text.decimal)
  | .ipv6 groups =>
    let (start, length) := longestZeros 0 groups
    if length < 2 then '[' :: (groupsText groups ++ [']'])
    else
      '[' :: (groupsText (groups.take start) ++ [':', ':'] ++
        groupsText (groups.drop (start + length)) ++ [']'])

end Host

namespace Authority

def text (a : Authority) : List Char :=
  let secret := if a.password = [] then [] else ':' :: a.password
  let who := if a.username = [] ∧ a.password = [] then [] else a.username ++ secret ++ ['@']
  let port := match a.port with
    | some n => ':' :: Text.decimal n
    | none => []
  who ++ a.host.text ++ port

end Authority

namespace UrlPath

def text : UrlPath → List Char
  | .plain text => text
  | .segments parts => parts.flatMap ('/' :: ·)

end UrlPath

namespace Url

/-- Schemes whose URLs have an authority and a port of their own, if any. -/
def specialSchemes : List (List Char × Option Nat) :=
  [(['h', 't', 't', 'p'], some 80), (['h', 't', 't', 'p', 's'], some 443),
   (['w', 's'], some 80), (['w', 's', 's'], some 443), (['f', 't', 'p'], some 21),
   (['f', 'i', 'l', 'e'], none)]

def isSpecialScheme (scheme : List Char) : Bool := specialSchemes.any (·.1 = scheme)

/-- The port that goes without saying. -/
def ownPort? (scheme : List Char) : Option Nat :=
  (specialSchemes.find? (·.1 = scheme)).bind (·.2)

def fileScheme : List Char := ['f', 'i', 'l', 'e']

def isSpecial (u : Url) : Bool := isSpecialScheme u.scheme

/-- The scheme is `http` or `https`. -/
def isWeb (u : Url) : Bool :=
  u.scheme = ['h', 't', 't', 'p'] || u.scheme = ['h', 't', 't', 'p', 's']

/-- The host, unless it is empty. -/
def host? (u : Url) : Option Host :=
  match u.authority with
  | some a => if a.host = .name [] then none else some a.host
  | none => none

/-- The URL as text. -/
def chars (u : Url) : List Char :=
  let place := match u.authority with
    | some a => '/' :: '/' :: a.text
    | none => if u.marked then ['/', '.'] else []
  let query := match u.query with
    | some q => '?' :: q
    | none => []
  let fragment := match u.fragment with
    | some f => '#' :: f
    | none => []
  u.scheme ++ ':' :: (place ++ u.path.text ++ query ++ fragment)

/-- The URL as a string. -/
def text (u : Url) : String := String.ofList u.chars

end Url

end AccessSync
