import AccessSync.Principal.Kind
import AccessSync.Json.Record
/-!
# Workspaces

A workspace of the account and the principals assigned to it. An assignment names its principal in
one of three fields, by which the kind is told.
-/

namespace AccessSync

structure Workspace where
  id : Int64
  name : String
  status : String
  /-- The name that the workspace's host begins with. -/
  deploymentName : String
  deriving DecidableEq, Repr

namespace Workspace

def read (v : Json) : Option Workspace := do
  let r ← v.record? ["workspace_id", "workspace_name", "workspace_status", "deployment_name"]
  let id ← r.field "workspace_id" 0 Json.int64?
  let name ← r.field "workspace_name" "" Json.string?
  let status ← r.field "workspace_status" "" Json.string?
  let deploymentName ← r.field "deployment_name" "" Json.string?
  return ⟨id, name, status, deploymentName⟩

def toJson (w : Workspace) : Json :=
  .object [("workspace_id", .ofInt w.id.toInt), ("workspace_name", .string w.name),
    ("workspace_status", .string w.status), ("deployment_name", .string w.deploymentName)]

end Workspace

/-- The principal of an assignment. -/
structure Assignee where
  servicePrincipalName : String
  groupName : String
  userName : String
  id : Int64
  deriving DecidableEq, Repr

namespace Assignee

/-- The kind whose name is given, if one is. -/
def kind? (a : Assignee) : Option PrincipalKind :=
  if a.userName ≠ "" then some .user
  else if a.groupName ≠ "" then some .group
  else if a.servicePrincipalName ≠ "" then some .servicePrincipal
  else none

def read (v : Json) : Option Assignee := do
  let r ← v.record? ["service_principal_name", "group_name", "user_name", "principal_id"]
  let servicePrincipalName ← r.field "service_principal_name" "" Json.string?
  let groupName ← r.field "group_name" "" Json.string?
  let userName ← r.field "user_name" "" Json.string?
  let id ← r.field "principal_id" 0 Json.int64?
  return ⟨servicePrincipalName, groupName, userName, id⟩

def toJson (a : Assignee) : Json :=
  .object [("service_principal_name", .string a.servicePrincipalName),
    ("group_name", .string a.groupName), ("user_name", .string a.userName),
    ("principal_id", .ofInt a.id.toInt)]

end Assignee

/-- That a principal is assigned to a workspace. -/
structure Assignment where
  principal : Option Assignee
  permissions : List String
  deriving DecidableEq, Repr

namespace Assignment

def read (v : Json) : Option Assignment := do
  let r ← v.record? ["principal", "permissions"]
  let principal ← r.field "principal" none (Json.nullable? Assignee.read)
  let permissions ← r.field "permissions" [] (Json.list? Json.string?)
  return ⟨principal, permissions⟩

def toJson (a : Assignment) : Json :=
  .object [("principal", Json.ofOption Assignee.toJson a.principal),
    ("permissions", Json.ofList .string a.permissions)]

end Assignment

end AccessSync
