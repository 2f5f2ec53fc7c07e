import AccessSync.Client.Basic
import AccessSync.Principal.NewUser
/-!
# Principals of a client

The operations on principals whose kind is only known at run time, and those on the users of the
account.
-/

namespace AccessSync.Client

/-- Fetches the principal of that kind and id. -/
def getPrincipal (c : Client) (scope : Scope) (kind : PrincipalKind) (id : String) :
    Call (Principal × Http.RateLimit) :=
  match kind with
  | .user => do
    let (u, rateLimit) ← c.get .users scope id
    return (.user u, rateLimit)
  | .group => do
    let (g, rateLimit) ← c.get .groups scope id
    return (.group g, rateLimit)
  | .servicePrincipal => do
    let (s, rateLimit) ← c.get .servicePrincipals scope id
    return (.servicePrincipal s, rateLimit)

/-- Replaces a principal. -/
def putPrincipal (c : Client) (scope : Scope) : Principal → Call Http.RateLimit
  | .user u => c.put .users scope u
  | .group g => c.put .groups scope g
  | .servicePrincipal s => c.put .servicePrincipals scope s

/-- The natural key of the principal with that id. -/
def findPrincipalKey (c : Client) (scope : Scope) (kind : PrincipalKind) (id : String) :
    Call (Option String) :=
  match kind with
  | .user => c.findKey .users scope id
  | .group => c.findKey .groups scope id
  | .servicePrincipal => c.findKey .servicePrincipals scope id

/-- The id of the principal with that natural key. -/
def findPrincipalId (c : Client) (scope : Scope) (kind : PrincipalKind) (key : String) :
    Call (Option String) :=
  match kind with
  | .user => c.findId .users scope key
  | .group => c.findId .groups scope key
  | .servicePrincipal => c.findId .servicePrincipals scope key

/-- The name by which rules know the principal with that id. -/
def nameOfId (c : Client) (scope : Scope) (kind : PrincipalKind) (id : String) :
    Call PrincipalName := do
  match ← c.findPrincipalKey scope kind id with
  | some key => return ⟨kind, key⟩
  | none => Call.fail (.principal (.noSuchId kind id))

/-- The id of a principal that a rule names. -/
def idOfName (c : Client) (scope : Scope) (p : PrincipalName) : Call String := do
  match ← c.findPrincipalId scope p.kind p.key with
  | some id => return id
  | none => Call.fail (.principal (.noSuchName p.text))

/-- Refuses an operation outside the account. -/
def requireAccount (scope : Scope) (operation : String) : Call Unit :=
  if scope.isAccount then pure () else Call.fail (.accountOnly operation scope)

/-- Creates a user of the account. -/
def createUser (c : Client) (scope : Scope) (u : NewUser) : Call (User × Http.RateLimit) := do
  requireAccount scope "create_user"
  c.exchange (User.read 0) .post scope (c.resolver.resolve .users scope) (some u.toJson) []

/-- Deletes a user of the account. -/
def deleteUser (c : Client) (scope : Scope) (id : String) : Call Http.RateLimit := do
  requireAccount scope "delete_user"
  let (_, rateLimit) ← c.exchange Transport.ignore .delete scope
    (c.resolver.resolveWith .users scope [id]) none []
  return rateLimit

end AccessSync.Client
