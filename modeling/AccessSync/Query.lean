import AccessSync.Text.Integer
/-!
# Query parameters

The parameters of a request are ordered pairs in which a name may repeat. They are collected from
terms, each of which adds the parameters it knows and leaves out empty ones.
-/

namespace AccessSync

/-- Parameters in the order they are sent. -/
structure Query where
  pairs : List (String × String)
  deriving DecidableEq, Repr

namespace Query

def empty : Query := ⟨[]⟩

def isEmpty (q : Query) : Bool := q.pairs.isEmpty

/-- One more parameter at the end. -/
def add (name value : String) (q : Query) : Query := ⟨q.pairs ++ [(name, value)]⟩

/-- The parameter instead of all others of its name. -/
def set (name value : String) (q : Query) : Query :=
  add name value ⟨q.pairs.filter (·.1 ≠ name)⟩

/-- The first value of that name. -/
def get? (name : String) (q : Query) : Option String :=
  (q.pairs.find? (·.1 = name)).map (·.2)

/-- The parameter, unless its value is empty. -/
def addNonempty (name value : String) (q : Query) : Query :=
  if value = "" then q else q.add name value

/-- The parameter, unless it is zero. -/
def addPositive (name : String) (value : UInt32) (q : Query) : Query :=
  if value = 0 then q else q.add name (Text.ofNat value.toNat)

/-- Something that a request asks for. -/
inductive Term where
  /-- The objects from position `start` on, at most `count` of them; zero means no such bound. -/
  | window (start count : UInt32)
  | filter (condition : String)
  | attributes (names : List String)
  | resource (name : String)
  /-- A rule set and the version it should have; an empty version means the latest one. -/
  | ruleSet (name etag : String)
  deriving DecidableEq, Repr

namespace Term

/-- At most one object. -/
def single : Term := .window 0 1

/-- The objects whose field has that value. -/
def equals (field value : String) : Term := .filter (field ++ " eq '" ++ value ++ "'")

/-- Adds the parameters of a term. -/
def apply (q : Query) : Term → Query
  | .window start count => (q.addPositive "startIndex" start).addPositive "count" count
  | .filter condition => q.addNonempty "filter" condition
  | .attributes names => names.foldl (fun q name => q.add "attributes" name) q
  | .resource name => q.addNonempty "resource" name
  | .ruleSet name etag => (q.set "etag" etag).addNonempty "name" name

end Term

/-- The parameters of all terms in order. -/
def ofTerms (terms : List Term) : Query := terms.foldl Term.apply empty

/-! ## Attributes that are asked for -/

def userAttributes : List String := ["id", "emails", "userName", "displayName", "active"]

def userRoleAttributes : List String := ["roles", "entitlements"]

def groupAttributes : List String := ["id", "displayName", "members"]

def groupRoleAttributes : List String := ["roles", "entitlements", "meta"]

def servicePrincipalAttributes : List String := ["id", "displayName", "active", "applicationId"]

def servicePrincipalRoleAttributes : List String := ["roles", "entitlements"]

end Query

end AccessSync
