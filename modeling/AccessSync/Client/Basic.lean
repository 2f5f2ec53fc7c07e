import AccessSync.Principal.Basic
import AccessSync.Resolver
import AccessSync.Transport
/-!
# Clients

A client knows where the APIs are and what to sign requests with. It has no current workspace: every
call names its scope. Users, groups and service principals are served alike, so what tells them
apart is a `Directory` and each operation is written once.
-/

namespace AccessSync

/-- Objects of one kind as the APIs serve them. -/
structure Directory (α : Type) where
  endpoint : Endpoint
  /-- Reads an object that stands within so many arrays and objects. -/
  read : Nat → Json → Option α
  write : α → Json
  id : α → String
  /-- The field that holds the natural key. -/
  keyField : String
  key : α → String

namespace Directory

def users : Directory User :=
  ⟨.users, User.read, User.toJson, User.id, "userName", User.userName⟩

def groups : Directory Group :=
  ⟨.groups, Group.read, Group.toJson, Group.id, "displayName", Group.displayName⟩

def servicePrincipals : Directory ServicePrincipal :=
  ⟨.servicePrincipals, ServicePrincipal.read, ServicePrincipal.toJson, ServicePrincipal.id,
    "applicationId", ServicePrincipal.applicationId⟩

end Directory

/-- One page of a listing. -/
structure Listing (α : Type) where
  items : List α
  /-- How many objects there are on all pages. -/
  total : UInt32
  rateLimit : Http.RateLimit

namespace Listing

/-- How many arrays and objects an item of a listing stands within. -/
def depth : Nat := 2

/-- Items and total of a listing. -/
def read {α : Type} (readItem : Json → Option α) (v : Json) : Option (List α × UInt32) := do
  let r ← v.record? ["Resources", "totalResults"]
  let items ← r.field "Resources" [] (Json.list? readItem)
  let total ← r.field "totalResults" 0 Json.uint32?
  return (items, total)

end Listing

structure Client where
  resolver : Resolver
  credentials : Credentials

namespace Client

/-- The client of a configuration. -/
def ofConfig (c : Config) : Except Error Client := do
  let resolver ← Resolver.ofConfig c
  return ⟨resolver, Credentials.ofConfig c resolver.tokenUrl⟩

def accountId (c : Client) : String := c.resolver.accountId

/-- The credentials reach single workspaces only. -/
def isTokenOnly (c : Client) : Bool := c.credentials.isTokenOnly

/-- One exchange at a resolved URL. -/
def exchange {α : Type} (c : Client) (read : Json → Option α) (method : Http.Method)
    (scope : Scope) (url : Except Error Url) (body : Option Json) (terms : List Query.Term) :
    Call (α × Http.RateLimit) := do
  Transport.exchange c.credentials read method scope (← Call.ofExcept id url) body terms

variable {α : Type}

/-- Lists objects. -/
def list (c : Client) (d : Directory α) (scope : Scope) (terms : List Query.Term) :
    Call (Listing α) := do
  let ((items, total), rateLimit) ← c.exchange (Listing.read (d.read Listing.depth)) .get scope
    (c.resolver.resolve d.endpoint scope) none terms
  return ⟨items, total, rateLimit⟩

/-- Fetches the object of that id. -/
def get (c : Client) (d : Directory α) (scope : Scope) (id : String) :
    Call (α × Http.RateLimit) :=
  c.exchange (d.read 0) .get scope (c.resolver.resolveWith d.endpoint scope [id]) none []

/-- Replaces the object of that id. -/
def put (c : Client) (d : Directory α) (scope : Scope) (a : α) : Call Http.RateLimit := do
  let (_, rateLimit) ← c.exchange Transport.ignore .put scope
    (c.resolver.resolveWith d.endpoint scope [d.id a]) (some (d.write a)) []
  return rateLimit

/-- The first object whose field has that value. -/
def findFirst (c : Client) (d : Directory α) (scope : Scope) (field value : String) :
    Call (Option α) := do
  let listing ← c.list d scope [Query.Term.single, Query.Term.equals field value]
  return listing.items.head?

/-- The id of the object with that natural key. -/
def findId (c : Client) (d : Directory α) (scope : Scope) (key : String) :
    Call (Option String) := do
  return (← c.findFirst d scope d.keyField key).map d.id

/-- The natural key of the object with that id. -/
def findKey (c : Client) (d : Directory α) (scope : Scope) (id : String) :
    Call (Option String) := do
  return (← c.findFirst d scope "id" id).map d.key

end Client

end AccessSync
