import AccessSync.Client.Basic
import AccessSync.Workspace
/-!
# Workspaces of a client

The account's API lists the workspaces and the principals assigned to each. A principal is assigned
by naming its permission and taken away by naming none.
-/

namespace AccessSync.Client

/-- Lists the workspaces of the account. -/
def listWorkspaces (c : Client) : Call (List Workspace × Http.RateLimit) := do
  let (workspaces, rateLimit) ← c.exchange (Json.nullable? (Json.list? Workspace.read)) .get
    .account (c.resolver.resolve .workspaces .account) none []
  return (workspaces.getD [], rateLimit)

/-- The URL of a workspace's assignments, or of something within them. -/
def assignmentsUrl (c : Client) (workspace : Int64) (within : List String) : Except Error Url :=
  c.resolver.resolveWith .workspaces .account
    ([Text.ofInt workspace.toInt, "permissionassignments"] ++ within)

def readAssignments (v : Json) : Option (List Assignment) := do
  let r ← v.record? ["permission_assignments"]
  r.field "permission_assignments" [] (Json.list? Assignment.read)

/-- Lists who is assigned to a workspace. -/
def listAssignments (c : Client) (workspace : Int64) :
    Call (List Assignment × Http.RateLimit) :=
  c.exchange readAssignments .get .account (c.assignmentsUrl workspace []) none []

/-- The permissions of an assignment as they are written. -/
def permissionsToJson (permissions : List String) : Json :=
  .object [("permissions", Json.ofList .string permissions)]

def putAssignment (c : Client) (workspace : Int64) (principalId : String) (body : Option Json) :
    Call Http.RateLimit := do
  let (_, rateLimit) ← c.exchange Transport.ignore .put .account
    (c.assignmentsUrl workspace ["principals", principalId]) body []
  return rateLimit

/-- Assigns a principal to a workspace. -/
def assign (c : Client) (workspace : Int64) (principalId : String) : Call Http.RateLimit :=
  c.putAssignment workspace principalId (some (permissionsToJson ["USER"]))

/-- Takes a principal away from a workspace. -/
def unassign (c : Client) (workspace : Int64) (principalId : String) : Call Http.RateLimit :=
  c.putAssignment workspace principalId none

end AccessSync.Client
