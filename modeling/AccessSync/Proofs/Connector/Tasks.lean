import AccessSync.Proofs.Sync.Operations
/-!
# What a connector does

A `Task` is anything that a connector can be asked to do: an operation of its adapters or its client, or
probing the credentials. Unlike the calls of the client alone some tasks look at errors, so they are made of
the same pieces and of attempts (`Client.Composed`). What is kept by putting these together holds of all
tasks: `Connector.composed_task`.
-/

namespace AccessSync

/-- Under whatever parent. -/
abbrev AnyParent : ResourceId → Prop := fun _ => True

namespace Client

/-- The call is made of exchanges, each at a URL of its scope, of effects on the client's memory and of
attempts that may fail. -/
inductive Composed (c : Client) : {α : Type} → Call α → Prop
  | pure {α : Type} (a : α) : Composed c (Pure.pure a)
  | fail {α : Type} (e : Error) : Composed c (Call.fail e : Call α)
  | perform {e : Effect} : e.Remembers AnyParent → Composed c (Call.perform e)
  | exchange {α : Type} {read : Json → Option α} {method : Http.Method} {scope : Scope} {url : Url}
      {body : Option Json} {terms : List Query.Term} : c.Resolves scope url →
      Composed c (Transport.exchange c.credentials read method scope url body terms)
  | bind {α β : Type} {x : Call α} {f : α → Call β} :
      Composed c x → (∀ a, Composed c (f a)) → Composed c (x >>= f)
  | attempt {α : Type} {x : Call α} : Composed c x → Composed c (Call.attempt x)

variable {α β : Type} {c : Client} {M : Http.Method → Prop} {L : ResourceId → Prop}

theorem Consists.composed {x : Call α} (h : c.Consists M L x) : c.Composed x := by
  induction h with
  | pure a => exact .pure a
  | fail e => exact .fail e
  | perform he => exact .perform (he.mono fun _ _ => trivial)
  | exchange _ hurl => exact .exchange hurl
  | bind _ _ ihx ihf => exact .bind ihx ihf

theorem composed_forM {f : α → Call PUnit} (h : ∀ a, c.Composed (f a)) (xs : List α) :
    c.Composed (xs.forM f) := by
  induction xs with
  | nil => exact .pure _
  | cons a xs ih => exact .bind (h a) fun _ => ih

end Client

namespace Sync

variable {c : Client}

theorem composed_workspaceGrants {resource : Resource} : c.Composed (workspaceGrants c resource) := by
  refine .bind reads_accountAvailable.composed fun available => ?_
  cases available with
  | false => exact .pure _
  | true =>
    refine .bind (Client.Consists.composed (M := AnyMethod) (L := AnyParent) Client.consists_ofExcept) fun id => ?_
    refine .bind (.attempt Client.reads_listAssignments.composed) ?_
    rintro (e | ⟨assignments, rateLimit⟩)
    · dsimp only
      split
      · split_ifs
        · exact .pure _
        · exact .fail _
      · exact .fail _
    · have hgrants : c.OnlyReads (assignments.mapM (assignmentGrant c resource)) :=
        Client.consists_mapM (fun _ => consists_assignmentGrant) assignments
      exact .bind hgrants.composed fun _ => .pure _

/-- So are all operations. -/
theorem composed_operation (c : Client) (allowed : List String) (op : Operation) :
    c.Composed (op.call c allowed) := by
  by_cases hop : op.Tolerates
  · cases hop with
    | grants resource token => exact composed_workspaceGrants
  · exact (consists_operation (L := AnyParent) c allowed (op.listsUnder_of_forall fun _ => trivial) hop).composed

end Sync

namespace Connector

/-- What a connector can be asked to do. -/
inductive Task where
  | operation (op : Sync.Operation)
  | probe

namespace Task

/-- What comes of a task. -/
abbrev Result : Task → Type
  | .operation op => op.Result
  | .probe => Availability

def call (c : Connector) : (task : Task) → Call task.Result
  | .operation op => op.call c.client c.config.workspaces
  | .probe => c.probe

end Task

theorem composed_probeAccount {c : Client} : c.Composed (probeAccount c) := by
  unfold probeAccount
  split_ifs
  · exact .pure _
  · refine .bind (.attempt Client.reads_listRoles.composed) fun listed => ?_
    cases listed <;> exact .pure _

theorem composed_targets {c : Connector} : c.client.Composed c.targets := by
  unfold targets
  split_ifs
  · exact .bind Client.reads_listWorkspaces.composed fun _ => .pure _
  · exact .pure _

theorem composed_probeWorkspace {c : Client} {account : Bool} {name : String} :
    c.Composed (probeWorkspace c account name) := by
  refine .bind (.attempt Client.reads_listRoles.composed) fun listed => ?_
  cases listed with
  | ok => exact .pure _
  | error e =>
    dsimp only
    split_ifs
    · exact .pure _
    · exact .fail _

theorem composed_probe {c : Connector} : c.client.Composed c.probe := by
  refine .bind composed_probeAccount fun account => .bind composed_targets fun names => ?_
  refine .bind (Client.composed_forM (fun _ => composed_probeWorkspace) names) fun _ => ?_
  dsimp only
  split_ifs
  · exact .bind (.perform trivial) fun _ => .pure _
  · exact .fail _

/-- And all tasks. -/
theorem composed_task (c : Connector) (task : Task) : c.client.Composed (task.call c) := by
  cases task with
  | operation op => exact Sync.composed_operation c.client c.config.workspaces op
  | probe => exact composed_probe

end Connector

end AccessSync
