import AccessSync.Client.Principals
import AccessSync.Client.Workspaces
import AccessSync.Proofs.RuleSet.Calls
/-!
# The calls of a client

A `ClientCall` is any call of a client with its arguments, so that runs can be made of them. Those on
rule sets are the `RuleCall`s, and among these a `Change` grants a role or revokes one. Main
statement: no other call records the version of a rule set (`ClientCall.records_nothing`).
-/

namespace AccessSync

/-- The call with its value forgotten. -/
def Call.forget {α : Type} (c : Call α) : Call Unit := do
  let _ ← c
  pure ()

theorem Call.does_forget {α : Type} {c : Call α} {es : List Event} {r : Option (Except Halt Unit)} :
    c.forget.Does es r ↔ ∃ r', c.Does es r' ∧ r = r'.map (·.map fun _ => ()) := does_bind_pure

/-! ## Calls on rule sets -/

/-- A grant or a revocation. -/
inductive Change where
  | grant (role : RoleMatch) (newRole : String) (p : PrincipalName)
  | revoke (role : RoleMatch) (p : PrincipalName)

namespace Change

/-- What the change makes of a list of rules, and whether that is anything new. -/
def edit : Change → List Rule → Bool × List Rule
  | .grant role newRole p => Rule.grant role newRole p
  | .revoke role p => Rule.revoke role p

def call (c : Client) (scope : Scope) (target : AccessTarget) : Change → Call Bool
  | .grant role newRole p => c.grantRole scope target role newRole p
  | .revoke role p => c.revokeRole scope target role p

theorem call_eq (c : Client) (scope : Scope) (target : AccessTarget) (change : Change) :
    change.call c scope target = c.editRules scope target change.edit := by
  cases change <;> rfl

end Change

inductive RuleCall where
  | list (scope : Scope) (target : AccessTarget)
  | put (scope : Scope) (target : AccessTarget) (rules : List Rule)
  | edit (scope : Scope) (target : AccessTarget) (change : Change)

namespace RuleCall

def target : RuleCall → AccessTarget
  | .list _ target | .put _ target _ | .edit _ target _ => target

def call (c : Client) : RuleCall → Call Unit
  | .list scope target => (c.listRules scope target).forget
  | .put scope target rules => (c.putRules scope target rules).forget
  | .edit scope target change => (change.call c scope target).forget

end RuleCall

/-! ## All calls -/

inductive ClientCall where
  | rules (r : RuleCall)
  | list (kind : PrincipalKind) (scope : Scope) (terms : List Query.Term)
  | get (kind : PrincipalKind) (scope : Scope) (id : String)
  | put (scope : Scope) (p : Principal)
  | findKey (kind : PrincipalKind) (scope : Scope) (id : String)
  | findId (kind : PrincipalKind) (scope : Scope) (key : String)
  | nameOfId (scope : Scope) (kind : PrincipalKind) (id : String)
  | idOfName (scope : Scope) (p : PrincipalName)
  | createUser (scope : Scope) (u : NewUser)
  | deleteUser (scope : Scope) (id : String)
  | listRoles (scope : Scope) (target : AccessTarget)
  | listWorkspaces
  | listAssignments (workspace : Int64)
  | assign (workspace : Int64) (principalId : String)
  | unassign (workspace : Int64) (principalId : String)
  | etag (ruleSet : String)
  | availability
  | setAvailability (a : Availability)
  | forgetToken

namespace ClientCall

/-- The target of a call on a rule set. -/
def target? : ClientCall → Option AccessTarget
  | .rules r => some r.target
  | _ => none

def call (c : Client) : ClientCall → Call Unit
  | .rules r => r.call c
  | .list .user scope terms => (c.list .users scope terms).forget
  | .list .group scope terms => (c.list .groups scope terms).forget
  | .list .servicePrincipal scope terms => (c.list .servicePrincipals scope terms).forget
  | .get kind scope id => (c.getPrincipal scope kind id).forget
  | .put scope p => (c.putPrincipal scope p).forget
  | .findKey kind scope id => (c.findPrincipalKey scope kind id).forget
  | .findId kind scope key => (c.findPrincipalId scope kind key).forget
  | .nameOfId scope kind id => (c.nameOfId scope kind id).forget
  | .idOfName scope p => (c.idOfName scope p).forget
  | .createUser scope u => (c.createUser scope u).forget
  | .deleteUser scope id => (c.deleteUser scope id).forget
  | .listRoles scope target => (c.listRoles scope target).forget
  | .listWorkspaces => c.listWorkspaces.forget
  | .listAssignments workspace => (c.listAssignments workspace).forget
  | .assign workspace principalId => (c.assign workspace principalId).forget
  | .unassign workspace principalId => (c.unassign workspace principalId).forget
  | .etag ruleSet => (Call.perform (.readEtag ruleSet)).forget
  | .availability => (Call.perform .readAvailability).forget
  | .setAvailability a => Call.perform (.writeAvailability a)
  | .forgetToken => Transport.forgetToken

end ClientCall

/-- The event records no version of a rule set. -/
def Event.RecordsNothing (ev : Event) : Prop := ∀ ruleSet, ev.recorded? ruleSet = none

theorem Event.Exchanges.recordsNothing {ev : Event} (h : ev.Exchanges) : ev.RecordsNothing := by
  obtain ⟨e, answer⟩ := ev
  cases e with
  | writeEtag => exact h.elim
  | _ => exact fun _ => rfl

namespace Client

variable {α : Type} {c : Client}

theorem always_exchange {read : Json → Option α} {method : Http.Method} {scope : Scope}
    {url : Except Error Url} {body : Option Json} {terms : List Query.Term} :
    (c.exchange read method scope url body terms).Always Event.Exchanges :=
  Call.always_bind Call.always_ofExcept fun _ => Transport.always_exchange

theorem always_list {d : Directory α} {scope : Scope} {terms : List Query.Term} :
    (c.list d scope terms).Always Event.Exchanges :=
  Call.always_bind always_exchange fun _ => Call.always_pure

theorem always_put {d : Directory α} {scope : Scope} {a : α} :
    (c.put d scope a).Always Event.Exchanges :=
  Call.always_bind always_exchange fun _ => Call.always_pure

theorem always_findId {d : Directory α} {scope : Scope} {key : String} :
    (c.findId d scope key).Always Event.Exchanges :=
  Call.always_bind (Call.always_bind always_list fun _ => Call.always_pure) fun _ =>
    Call.always_pure

theorem always_findKey {d : Directory α} {scope : Scope} {id : String} :
    (c.findKey d scope id).Always Event.Exchanges :=
  Call.always_bind (Call.always_bind always_list fun _ => Call.always_pure) fun _ =>
    Call.always_pure

theorem always_findPrincipalKey {scope : Scope} {kind : PrincipalKind} {id : String} :
    (c.findPrincipalKey scope kind id).Always Event.Exchanges := by
  cases kind <;> exact always_findKey

theorem always_findPrincipalId {scope : Scope} {kind : PrincipalKind} {key : String} :
    (c.findPrincipalId scope kind key).Always Event.Exchanges := by
  cases kind <;> exact always_findId

theorem always_requireAccount {P : Event → Prop} {scope : Scope} {operation : String} :
    (requireAccount scope operation).Always P := by
  unfold requireAccount
  split
  · exact Call.always_pure
  · exact Call.always_fail

theorem always_putAssignment {workspace : Int64} {principalId : String} {body : Option Json} :
    (c.putAssignment workspace principalId body).Always Event.Exchanges :=
  Call.always_bind always_exchange fun _ => Call.always_pure

end Client

/-- A call that is none on a rule set records no version of one. -/
theorem ClientCall.records_nothing (c : Client) {call : ClientCall} (h : call.target? = none) :
    (call.call c).Always Event.RecordsNothing := by
  have hforget : ∀ {α : Type} {x : Call α}, x.Always Event.Exchanges →
      x.forget.Always Event.RecordsNothing := fun hx =>
    Call.always_bind (hx.imp fun _ h => h.recordsNothing) fun _ => Call.always_pure
  cases call with
  | rules => cases h
  -- All others are made of exchanges and of effects that are none on versions.
  | list kind scope terms => cases kind <;> exact hforget Client.always_list
  | get kind scope id =>
    refine hforget ?_
    cases kind <;> exact Call.always_bind Client.always_exchange fun _ => Call.always_pure
  | put scope p => cases p <;> exact hforget Client.always_put
  | findKey kind scope id => exact hforget Client.always_findPrincipalKey
  | findId kind scope key => exact hforget Client.always_findPrincipalId
  | nameOfId scope kind id =>
    refine hforget (Call.always_bind Client.always_findPrincipalKey fun found => ?_)
    cases found with
    | some key => exact Call.always_pure
    | none => exact Call.always_fail
  | idOfName scope p =>
    refine hforget (Call.always_bind Client.always_findPrincipalId fun found => ?_)
    cases found with
    | some id => exact Call.always_pure
    | none => exact Call.always_fail
  | createUser scope u =>
    exact hforget (Call.always_bind Client.always_requireAccount fun _ => Client.always_exchange)
  | deleteUser scope id =>
    exact hforget (Call.always_bind Client.always_requireAccount fun _ =>
      Call.always_bind Client.always_exchange fun _ => Call.always_pure)
  | listRoles => exact hforget Client.always_exchange
  | listWorkspaces => exact hforget (Call.always_bind Client.always_exchange fun _ => Call.always_pure)
  | listAssignments => exact hforget Client.always_exchange
  | assign => exact hforget Client.always_putAssignment
  | unassign => exact hforget Client.always_putAssignment
  | etag => exact Call.always_bind (Call.always_perform fun _ _ => rfl) fun _ => Call.always_pure
  | availability => exact Call.always_bind (Call.always_perform fun _ _ => rfl) fun _ => Call.always_pure
  | setAvailability => exact Call.always_perform fun _ _ => rfl
  | forgetToken => exact Call.always_perform fun _ _ => rfl

end AccessSync
