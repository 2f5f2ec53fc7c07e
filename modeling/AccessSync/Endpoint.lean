import AccessSync.Scope
import AccessSync.Text.Split
/-!
# Endpoints

An endpoint is a family of objects that an API serves. `route?` gives its path in a scope, and no
path where the API does not serve it.
-/

namespace AccessSync

inductive Endpoint where
  | users
  | groups
  | servicePrincipals
  | roles
  | ruleSets
  | workspaces
  deriving DecidableEq, Repr

namespace Endpoint

/-- The last segment of the endpoint's path. -/
def name : Endpoint → String
  | .users => "Users"
  | .groups => "Groups"
  | .servicePrincipals => "ServicePrincipals"
  | .roles => "assignable-roles"
  | .ruleSets => "rule-sets"
  | .workspaces => "workspaces"

def all : List Endpoint := [.users, .groups, .servicePrincipals, .roles, .ruleSets, .workspaces]

/-- The endpoint of that name; slashes in front of it count for nothing. -/
def ofName? (text : String) : Option Endpoint :=
  all.find? fun e => e.name.toList = text.toList.dropWhile (· = '/')

/-- A part of a path. -/
inductive Part where
  | fixed (text : String)
  /-- The place of the account's id. -/
  | accountId
  deriving DecidableEq, Repr

/-- The path of an endpoint in a scope of that level. -/
def route? : Endpoint → Scope.Level → Option (List Part)
  | .users, .account => some [.fixed "/api/2.0/accounts/", .accountId, .fixed "/scim/v2/Users"]
  | .users, .workspace => some [.fixed "/api/2.0/preview/scim/v2/Users"]
  | .groups, .account => some [.fixed "/api/2.0/accounts/", .accountId, .fixed "/scim/v2/Groups"]
  | .groups, .workspace => some [.fixed "/api/2.0/preview/scim/v2/Groups"]
  | .servicePrincipals, .account =>
    some [.fixed "/api/2.0/accounts/", .accountId, .fixed "/scim/v2/ServicePrincipals"]
  | .servicePrincipals, .workspace => some [.fixed "/api/2.0/preview/scim/v2/ServicePrincipals"]
  | .roles, .account =>
    some [.fixed "/api/2.0/preview/accounts/", .accountId,
      .fixed "/access-control/assignable-roles"]
  | .roles, .workspace => some [.fixed "/api/2.0/preview/accounts/access-control/assignable-roles"]
  | .ruleSets, .account =>
    some [.fixed "/api/2.0/preview/accounts/", .accountId, .fixed "/access-control/rule-sets"]
  | .ruleSets, .workspace => some [.fixed "/api/2.0/preview/accounts/access-control/rule-sets"]
  | .workspaces, .account => some [.fixed "/api/2.0/accounts/", .accountId, .fixed "/workspaces"]
  | .workspaces, .workspace => none

def Part.fill (accountId : String) : Part → String
  | .fixed text => text
  | .accountId => accountId

/-- The path of an endpoint for this account, in a scope of that level. -/
def path? (e : Endpoint) (level : Scope.Level) (accountId : String) : Option String :=
  (e.route? level).map fun parts => String.join (parts.map (Part.fill accountId))

end Endpoint

end AccessSync
