import AccessSync.Url.Basic
/-!
# Paths

A path is read segment by segment. A segment `.` names the place reached so far and `..` the one
above; both may be written with escaped dots. Where such a segment comes last the path ends with a
slash. The letter of a drive is never left upwards. Main operations: `ofText` reads a whole path,
`push` adds one segment to it, `dropEmptyEnd` takes a slash at the end away.
-/

namespace AccessSync.UrlPath

/-- Ways to write `.` as a segment, in lower case. -/
def dots : List (List Char) := [['.'], ['%', '2', 'e']]

/-- The segment stands for the place itself. -/
def isDot (segment : List Char) : Bool := segment.map Text.lowerAscii ∈ dots

/-- The segment stands for the place above. -/
def isDoubleDot (segment : List Char) : Bool :=
  segment.map Text.lowerAscii ∈ dots.flatMap fun d => dots.map (d ++ ·)

/-- `C:` or `C|`: the letter of a drive. -/
def isDriveLetter : List Char → Bool
  | [c, d] => (('a' ≤ c && c ≤ 'z') || ('A' ≤ c && c ≤ 'Z')) && (d = ':' || d = '|')
  | _ => false

/-- The segment is the letter of a drive, or one and a backslash and more. -/
def namesDrive : List Char → Bool
  | c :: d :: '\\' :: _ => isDriveLetter [c, d]
  | segment => isDriveLetter segment

/-- A path without its last segment; a drive stays. -/
def above (parts : List (List Char)) : List (List Char) :=
  if parts.getLast?.any namesDrive then parts else parts.dropLast

/-- A drive letter at the front of a file path ends with a colon. -/
def settleDrive (file : Bool) (parts : List (List Char)) (segment : List Char) : List Char :=
  match file && parts.isEmpty && isDriveLetter segment, segment with
  | true, c :: _ => [c, ':']
  | _, _ => segment

/-- The path after one more segment, which may be the last one. -/
def follow (file last : Bool) (parts : List (List Char)) (segment : List Char) :
    List (List Char) :=
  if isDoubleDot segment then
    if last then above parts ++ [[]] else above parts
  else if isDot segment then
    if last then parts ++ [[]] else parts
  else parts ++ [settleDrive file parts segment]

/-- The path after further segments. -/
def followAll (file : Bool) (parts : List (List Char)) : List (List Char) → List (List Char)
  | [] => parts
  | [segment] => follow file true parts segment
  | segment :: next :: rest => followAll file (follow file false parts segment) (next :: rest)

/-- A backslash separates segments like a slash. -/
def slashes (cs : List Char) : List Char := cs.map fun c => if c = '\\' then '/' else c

/-- A leading slash is no part of the first segment. -/
def dropSlash : List Char → List Char
  | '/' :: cs => cs
  | cs => cs

/-- The segments of a path given as text, empty ones in front included. The path of a special scheme
is never empty, and backslashes separate in it. -/
def readParts (special file : Bool) (cs : List Char) : List (List Char) :=
  if special then
    followAll file [] ((Text.splitOn '/' (dropSlash (slashes cs))).map
      (Percent.escape Percent.pathSet))
  else if cs = [] then []
  else followAll file [] ((Text.splitOn '/' (dropSlash cs)).map (Percent.escape Percent.pathSet))

/-- A file path does not begin with empty segments; a single slash stays. -/
def dropEmptyFront (file : Bool) (parts : List (List Char)) : List (List Char) :=
  if file then
    match parts.dropWhile (· = []) with
    | [] => [[]]
    | kept => kept
  else parts

/-- The segments of a path given as text. -/
def ofText (special file : Bool) (cs : List Char) : List (List Char) :=
  dropEmptyFront file (readParts special file cs)

/-- Tabs and line ends count for nothing in a URL. -/
def isIgnored (c : Char) : Bool := c = '\t' || c = '\n' || c = '\r'

/-- One segment with everything escaped that could end it. -/
def escapeSegment (special : Bool) (cs : List Char) : List Char :=
  Percent.escape (if special then Percent.specialSegmentSet else Percent.segmentSet)
    (cs.filter (!isIgnored ·))

/-- The path with one more segment. A path of a single slash is replaced by it, and `.` and `..`
add nothing. -/
def push (special file : Bool) (parts : List (List Char)) (segment : List Char) :
    List (List Char) :=
  if segment = ['.'] ∨ segment = ['.', '.'] then parts
  else
    dropEmptyFront file
      (follow file true (if parts = [[]] then [] else parts) (escapeSegment special segment))

/-- The path without an empty segment at its end; a single slash stays. -/
def dropEmptyEnd (parts : List (List Char)) : List (List Char) :=
  if 1 < parts.length ∧ parts.getLast? = some [] then parts.dropLast else parts

end AccessSync.UrlPath
