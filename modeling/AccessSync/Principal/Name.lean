import AccessSync.Principal.Kind
import AccessSync.Text.Integer
/-!
# Names of principals

Rules name a principal by its kind and natural key, `users/alice`: a username, the display name of
a group or the application id of a service principal. The members of a group are named the same way
with the id that the platform gave them. Both are read by `cut?`: what follows the first slash is
not empty and holds no other slash.
-/

namespace AccessSync

/-- Why something is not the principal asked for. -/
inductive PrincipalFault where
  | malformedMember (text : String)
  | malformedName (text : String)
  | unknownKind (word : String)
  | noSuchId (kind : PrincipalKind) (id : String)
  | noSuchName (name : String)
  /-- The right is none that other resources can have. -/
  | notGrantable (right : String)
  | unassigned
  | unknownAssignee (id : Int64)
  | notDeletable (resource : String)
  deriving DecidableEq, Repr

def PrincipalFault.message : PrincipalFault → String
  | .malformedMember text => text
  | .malformedName text => "invalid principal format: " ++ text
  | .unknownKind word => "unknown principal type: " ++ word
  | .noSuchId kind id => "no " ++ kind.word ++ " with id " ++ id
  | .noSuchName name => name ++ " not found"
  | .notGrantable right => "only users, groups and service principals can be granted " ++ right
  | .unassigned => "assignment without principal"
  | .unknownAssignee id => "unknown principal " ++ Text.ofInt id.toInt
  | .notDeletable resource => "only users can be deleted, got " ++ resource

/-- A principal as rules name it. -/
structure PrincipalName where
  kind : PrincipalKind
  /-- The natural key. -/
  key : String
  deriving DecidableEq, Repr

namespace PrincipalName

/-- The word and the key of a text `word/key`. -/
def cut? (text : String) : Option (String × String) :=
  match Text.cut? '/' text.toList with
  | some (word, key) =>
    if key = [] ∨ '/' ∈ key then none else some (String.ofList word, String.ofList key)
  | none => none

/-- The kind of a word. -/
def readKind (word : String) : Except PrincipalFault PrincipalKind :=
  match PrincipalKind.ofWord? word with
  | some kind => .ok kind
  | none => .error (.unknownKind word)

/-- Kind and key of a text; `malformed` says what is wrong with any other text. -/
def read (malformed : PrincipalFault) (text : String) :
    Except PrincipalFault (PrincipalKind × String) :=
  match cut? text with
  | some (word, key) => (readKind word).map fun kind => (kind, key)
  | none => .error malformed

/-- The principal that a rule names. -/
def parse (text : String) : Except PrincipalFault PrincipalName :=
  (read (.malformedName text) text).map fun (kind, key) => ⟨kind, key⟩

/-- The principal as it is written in a rule. -/
def text (p : PrincipalName) : String := p.kind.word ++ "/" ++ p.key

end PrincipalName

end AccessSync
