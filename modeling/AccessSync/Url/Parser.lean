import AccessSync.Url.Address
import AccessSync.Url.Domain
import AccessSync.Url.Path
/-!
# Reading URLs

`Url.parse` reads an absolute URL. Control characters and blanks at the ends and line ends and tabs
anywhere count for nothing. After the scheme the fragment and then the query are cut off; what is
left holds the authority, behind slashes, and the path. A special scheme has an authority however
many slashes there are, and the last `@` of an authority ends its username and password.
-/

namespace AccessSync

/-- The parts of a text around the first separator. -/
def cutAt (sep : Char) (cs : List Char) : List Char × Option (List Char) :=
  match Text.cut? sep cs with
  | some (before, after) => (before, some after)
  | none => (cs, none)

/-- The parts of a text around the last separator. -/
def cutAtLast (sep : Char) (cs : List Char) : Option (List Char) × List Char :=
  match Text.cut? sep cs.reverse with
  | some (after, before) => (some before.reverse, after.reverse)
  | none => (none, cs)

namespace Host

/-- Characters that no host holds, of whatever scheme. -/
def forbidden : List Char :=
  ['\x00', '\t', '\n', '\r', ' ', '#', '/', ':', '<', '>', '?', '@', '[', '\\', ']', '^', '|']

/-- An IPv6 address between brackets. -/
def ofBrackets (cs : List Char) : Except UrlFault Host :=
  if cs.getLast? = some ']' then
    match ipv6? cs.dropLast with
    | some groups => .ok (.ipv6 groups)
    | none => .error .invalidIpv6
  else .error .invalidIpv6

/-- The host of a special URL. -/
def ofDomain (cs : List Char) : Except UrlFault Host :=
  match cs with
  | '[' :: cs => ofBrackets cs
  | _ =>
    match Domain.toAscii? (Percent.unescape (Utf8.encode cs)) with
    | none => .error .invalidDomain
    | some domain =>
      if domain = [] then .error .emptyHost
      else if endsInNumber domain then
        match ipv4? domain with
        | some n => .ok (.ipv4 n)
        | none => .error .invalidIpv4
      else .ok (.name domain)

/-- The host of any other URL. -/
def ofPlain (cs : List Char) : Except UrlFault Host :=
  match cs with
  | '[' :: cs => ofBrackets cs
  | _ =>
    if cs.any (· ∈ forbidden) then .error .invalidHostCharacter
    else .ok (.name (Percent.escape Percent.controls cs))

end Host

/-- A slash, or a backslash where that counts as one. -/
def isSlash (special : Bool) (c : Char) : Bool := c = '/' || (special && c = '\\')

namespace Authority

/-- Username and password, and what follows their `@`. The host is missing if nothing is in front of
the `@` and the next part of the URL follows at once; `more` says that there is a query or a fragment
behind this text. -/
def cutUser (special more : Bool) (cs : List Char) :
    Except UrlFault (List Char × List Char) :=
  match cutAtLast '@' (cs.takeWhile (!isSlash special ·)) with
  | (none, _) => .ok ([], cs)
  | (some [], _) =>
    match cs.drop 1 with
    | [] => if more then .error .emptyHost else .ok ([], [])
    | c :: rest => if isSlash special c then .error .emptyHost else .ok ([], c :: rest)
  | (some user, _) => .ok (user, cs.drop (user.length + 1))

/-- Username and password, each escaped. -/
def readUser (cs : List Char) : List Char × List Char :=
  let (name, secret) := cutAt ':' cs
  (Percent.escape Percent.userinfoSet name, Percent.escape Percent.userinfoSet (secret.getD []))

/-- The host and what follows it; colons between brackets belong to the host. -/
def cutHost (special inside : Bool) : List Char → List Char × List Char
  | [] => ([], [])
  | c :: cs =>
    if (c = ':' ∧ !inside) ∨ isSlash special c then ([], c :: cs)
    else
      let (host, rest) := cutHost special (c = '[' || (inside && c ≠ ']')) cs
      (c :: host, rest)

/-- A port and what follows it; none if there are no digits or if the scheme goes with it anyway. -/
def readPort (scheme : List Char) (cs : List Char) :
    Except UrlFault (Option Nat × List Char) :=
  let digits := cs.takeWhile fun c => (Text.digit? c).isSome
  let rest := cs.drop digits.length
  if rest.head?.any (!isSlash true ·) then .error .invalidPort
  else if digits = [] then .ok (none, rest)
  else
    match Text.readDigits 65535 .tooLarge 0 digits with
    | .error _ => .error .invalidPort
    | .ok n => .ok (if Url.ownPort? scheme = some n then none else some n, rest)

/-- The authority at the front of a text, and the path that follows it. -/
def parse (scheme : List Char) (more : Bool) (cs : List Char) :
    Except UrlFault (Authority × List Char) := do
  let special := Url.isSpecialScheme scheme
  let (user, place) ← cutUser special more cs
  let (username, password) := readUser user
  let (hostText, rest) := cutHost special false place
  if hostText = [] ∧ (special ∨ rest.head? = some ':' ∨ username ≠ [] ∨ password ≠ []) then
    throw .emptyHost
  let host ← if special then Host.ofDomain hostText else Host.ofPlain hostText
  let (port, rest) ← match rest with
    | ':' :: text => readPort scheme text
    | rest => pure (none, rest)
  return (⟨username, password, host, port⟩, rest)

end Authority

namespace Url

/-- Control characters and blanks, which count for nothing at the ends of a URL. -/
def isEdge (c : Char) : Bool := c.toNat ≤ 0x20

def isSchemeChar (c : Char) : Bool :=
  ('a' ≤ c && c ≤ 'z') || ('A' ≤ c && c ≤ 'Z') || ('0' ≤ c && c ≤ '9') || c ∈ ['+', '-', '.']

def isLetter (c : Char) : Bool := ('a' ≤ c && c ≤ 'z') || ('A' ≤ c && c ≤ 'Z')

/-- The scheme in lower case and what follows its colon. -/
def cutScheme? (cs : List Char) : Option (List Char × List Char) :=
  match Text.cut? ':' cs with
  | some (c :: scheme, rest) =>
    if isLetter c && scheme.all isSchemeChar then
      some ((c :: scheme).map Text.lowerAscii, rest)
    else none
  | _ => none

/-- The authority of a file that is where the program runs. -/
def here : Authority := ⟨[], [], .name [], none⟩

/-- The host that is where the program runs. -/
def localHost : List Char := ['l', 'o', 'c', 'a', 'l', 'h', 'o', 's', 't']

/-- Authority and path behind the scheme of a file. `localhost` and a drive letter are no host, and
a path that begins with a drive letter has none. -/
def readFile (cs : List Char) : Except UrlFault (Authority × UrlPath) := do
  match UrlPath.slashes cs with
  | '/' :: '/' :: rest =>
    let place := rest.takeWhile (· ≠ '/')
    if place = [] ∨ UrlPath.isDriveLetter place then
      return (here, .segments (UrlPath.ofText true true ('/' :: rest)))
    else
      let host ← Host.ofDomain place
      let path := rest.drop place.length
      if host = .name localHost then
        return (here, .segments (UrlPath.ofText true true ('/' :: path)))
      else
        let parts := UrlPath.readParts true true path
        let authority := if parts.head?.any UrlPath.isDriveLetter then here
          else { here with host := host }
        return (authority, .segments (UrlPath.dropEmptyFront true parts))
  | rest => return (here, .segments (UrlPath.ofText true true rest))

/-- Authority and path behind a scheme; `more` says that a query or a fragment follows. -/
def readPlace (scheme : List Char) (more : Bool) (cs : List Char) :
    Except UrlFault (Option Authority × UrlPath) :=
  if scheme = fileScheme then (readFile cs).map fun (a, p) => (some a, p)
  else if isSpecialScheme scheme then do
    let (authority, rest) ← Authority.parse scheme more (cs.dropWhile (isSlash true))
    return (some authority, .segments (UrlPath.ofText true false rest))
  else
    match cs with
    | '/' :: '/' :: cs => do
      let (authority, rest) ← Authority.parse scheme more cs
      return (some authority, .segments (UrlPath.ofText false false rest))
    | '/' :: _ => return (none, .segments (UrlPath.ofText false false cs))
    | _ => return (none, .plain (Percent.escape Percent.controls cs))

/-- The path would begin with an authority if nothing stood before it. -/
def needsMark (authority : Option Authority) (path : UrlPath) : Bool :=
  match authority, path with
  | none, .segments ([] :: _ :: _) => true
  | _, _ => false

/-- The query of a URL, escaped. -/
def escapeQuery (special : Bool) (cs : List Char) : List Char :=
  Percent.escape (if special then Percent.specialQuerySet else Percent.querySet) cs

/-- An absolute URL, given as characters. -/
def ofChars (cs : List Char) : Except UrlFault Url :=
  match cutScheme? ((Text.trim isEdge cs).filter (!UrlPath.isIgnored ·)) with
  | none => .error .noScheme
  | some (scheme, rest) => do
    let (rest, fragment) := cutAt '#' rest
    let (rest, query) := cutAt '?' rest
    let (authority, path) ← readPlace scheme (query.isSome || fragment.isSome) rest
    return ⟨scheme, authority, needsMark authority path, path,
      query.map (escapeQuery (isSpecialScheme scheme)),
      fragment.map (Percent.escape Percent.fragmentSet)⟩

/-- An absolute URL. -/
def parse (text : String) : Except UrlFault Url := ofChars text.toList

/-! ## Changing a URL -/

/-- The path read anew from text; a mark before it stays. -/
def setPath (u : Url) (cs : List Char) : Url :=
  match u.path with
  | .plain _ =>
    let (mark, rest) := match cs with
      | '/' :: rest => (['%', '2', 'F'], rest)
      | _ => ([], cs)
    let kept := rest.filter (!UrlPath.isIgnored ·)
    { u with path := .plain (mark ++ Percent.escape Percent.controls kept) }
  | .segments _ =>
    let kept := cs.filter (!UrlPath.isIgnored ·)
    { u with path := .segments (UrlPath.ofText u.isSpecial (u.scheme = fileScheme) kept) }

/-- The query replaced by form-encoded pairs. -/
def setPairs (u : Url) (encoded : List Char) : Url := { u with query := some encoded }

end Url

end AccessSync
