import AccessSync.Json.Parser
import AccessSync.Json.Printer
import AccessSync.Json.Record
import AccessSync.Text.Integer
/-!
# Page tokens

Where a listing goes on is a stack of frames, one for each type of object that is still to be
listed. The stack travels as text between two pages; `token` writes it and `ofToken` reads it. The
empty token is the empty stack.
-/

namespace AccessSync

/-- Why a token is no place to go on from. -/
inductive PageFault where
  | noFrame
  | notAStack
  | badStart (text : String) (fault : Text.IntegerFault)
  | unexpectedType (resourceType : String)
  deriving DecidableEq, Repr

def PageFault.message : PageFault → String
  | .noFrame => "no active page state"
  | .notAStack => "not a page stack"
  | .badStart text fault => text ++ ": " ++ fault.message
  | .unexpectedType resourceType => "unexpected resource type " ++ resourceType

/-- A listing that is under way. -/
structure PageFrame where
  /-- Where it goes on, empty at the beginning. -/
  token : String
  resourceType : String
  resourceId : String
  deriving DecidableEq, Repr

namespace PageFrame

/-- The beginning of a listing. -/
def ofType (resourceType : String) : PageFrame := ⟨"", resourceType, ""⟩

def read (v : Json) : Option PageFrame := do
  let r ← v.record? ["token", "type", "id"]
  let token ← r.field "token" "" Json.string?
  let resourceType ← r.field "type" "" Json.string?
  let resourceId ← r.field "id" "" Json.string?
  return ⟨token, resourceType, resourceId⟩

def toJson (f : PageFrame) : Json :=
  .object [("token", .string f.token), ("type", .string f.resourceType),
    ("id", .string f.resourceId)]

end PageFrame

/-- The listings that are under way or still to come. -/
structure PageStack where
  /-- The frame that the next page belongs to. -/
  current : Option PageFrame
  /-- The frames below it, topmost first. -/
  saved : List PageFrame
  deriving DecidableEq, Repr

namespace PageStack

def empty : PageStack := ⟨none, []⟩

/-- The frames from the top down. -/
def toList (s : PageStack) : List PageFrame := s.current.toList ++ s.saved

def push (frame : PageFrame) (s : PageStack) : PageStack := ⟨some frame, s.toList⟩

/-- The top frame and the stack below it. -/
def pop? (s : PageStack) : Option (PageFrame × PageStack) :=
  s.current.map fun frame => (frame, ⟨s.saved.head?, s.saved.tail⟩)

/-- Sets the token of the top frame, or takes the frame away if the token is empty. -/
def advance (token : String) (s : PageStack) : Except PageFault PageStack :=
  match s.pop? with
  | none => .error .noFrame
  | some (frame, below) => .ok (if token = "" then below else below.push { frame with token })

/-- The token of the top frame. -/
def pageToken (s : PageStack) : String := (s.current.map (·.token)).getD ""

/-- The type that the top frame lists. -/
def resourceType (s : PageStack) : String := (s.current.map (·.resourceType)).getD ""

/-! ## As text -/

def toJson (s : PageStack) : Json :=
  .object [("states", Json.ofList PageFrame.toJson s.saved.reverse),
    ("current_state", Json.ofOption PageFrame.toJson s.current)]

def read (v : Json) : Option PageStack := do
  let r ← v.record? ["states", "current_state"]
  let saved ← r.field "states" [] (Json.list? PageFrame.read)
  let current ← r.field "current_state" none (Json.nullable? PageFrame.read)
  return ⟨current, saved.reverse⟩

/-- The stack as text. Without a top frame there is nothing to go on with. -/
def token (s : PageStack) : String := if s.current.isSome then s.toJson.toText else ""

/-- The stack that a token writes. -/
def ofToken (token : String) : Except PageFault PageStack :=
  if token = "" then .ok empty
  else
    match (Json.ofText token).bind read with
    | some s => .ok s
    | none => .error .notAStack

/-- The token after the top frame has moved on. -/
def nextToken (token : String) (s : PageStack) : Except PageFault String :=
  (s.advance token).map (·.token)

end PageStack

end AccessSync
