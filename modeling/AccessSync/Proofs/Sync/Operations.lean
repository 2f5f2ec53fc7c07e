import AccessSync.Connector
import AccessSync.Proofs.Client.Makeup
import AccessSync.Proofs.Sync.Holders
/-!
# The operations of the adapters

An `Operation` is anything that the host can have an adapter do, creating and deleting accounts
included, or a call of the client itself. All of them are made of the same pieces (`consists_operation`),
but for the grants of a workspace, which look at an error (`Operation.Tolerates`).
-/

namespace AccessSync

/-- The adapter for a type of resources. -/
def Client.adapterOf (c : Client) (allowed : List String) : ResourceType → Adapter
  | .account => Sync.account c
  | .workspace => Sync.workspaces c allowed
  | .user => Sync.users c
  | .group => Sync.groups c
  | .servicePrincipal => Sync.servicePrincipals c
  | .role => Sync.roles c

/-- Those are the adapters that the host is given. -/
theorem Client.mem_adapters_iff {c : Client} {allowed : List String} {adapter : Adapter} :
    adapter ∈ c.adapters allowed ↔ ∃ t, adapter = c.adapterOf allowed t := by
  simp only [adapters, List.mem_cons, List.not_mem_nil, or_false]
  constructor
  · rintro (rfl | rfl | rfl | rfl | rfl | rfl)
    · exact ⟨.account, rfl⟩
    · exact ⟨.group, rfl⟩
    · exact ⟨.servicePrincipal, rfl⟩
    · exact ⟨.user, rfl⟩
    · exact ⟨.workspace, rfl⟩
    · exact ⟨.role, rfl⟩
  · rintro ⟨t, rfl⟩
    cases t <;> simp [adapterOf]

theorem Client.resourceType_adapterOf (c : Client) (allowed : List String) (t : ResourceType) :
    (c.adapterOf allowed t).resourceType = t := by
  cases t <;> rfl

namespace Sync

/-- A grant or a revocation by an adapter. -/
inductive Edit where
  | grant (principal : ResourceId) (e : Entitlement)
  | revoke (g : Grant)

namespace Edit

def principal : Edit → ResourceId
  | .grant principal _ => principal
  | .revoke g => g.principal

def entitlement : Edit → Entitlement
  | .grant _ e => e
  | .revoke g => g.entitlement

/-- The principal is to have the entitlement afterwards. -/
def isGrant : Edit → Bool
  | .grant .. => true
  | .revoke _ => false

def call (adapter : Adapter) : Edit → Call Unit
  | .grant principal e => adapter.grant principal e
  | .revoke g => adapter.revoke g

/-- What becomes of a list of rules. -/
def ofRules (x : Edit) (role : RoleMatch) (newRole : String) (p : PrincipalName) (rules : List Rule) :
    Bool × List Rule :=
  match x with
  | .grant .. => Rule.grant role newRole p rules
  | .revoke _ => Rule.revoke role p rules

/-- What becomes of a group whose members are edited. -/
def ofMembers (x : Edit) (id : String) (g : Group) : Bool × Group :=
  match x with
  | .grant .. => g.addMember id
  | .revoke _ => g.removeMember id

/-- What becomes of a principal whose permissions are edited. -/
def ofPermissions (x : Edit) (p : Principal) (kind : PermissionKind) (value : String) : Bool × Principal :=
  match x with
  | .grant .. => p.addPermission kind value
  | .revoke _ => p.removePermission kind value

/-- The body that an assignment is replaced by. -/
def assignment : Edit → Option Json
  | .grant .. => some (Client.permissionsToJson ["USER"])
  | .revoke _ => none

/-! A grant and a revocation differ in these and in nothing else. -/

variable (c : Client) (x : Edit)

theorem call_account : x.call (account c) = (do
    let p ← c.nameOfResource .account x.principal
    let _ ← c.editRules .account .account
      (x.ofRules (.containing x.entitlement.slug) (RoleMatch.qualify x.entitlement.slug) p)) := by
  cases x <;> rfl

theorem call_groups : x.call (groups c) =
    changeGroup c x.principal x.entitlement x.ofMembers fun scope target p =>
      c.editRules scope target (x.ofRules (.exact x.entitlement.slug) x.entitlement.slug p) := by
  cases x <;> rfl

theorem call_servicePrincipals : x.call (servicePrincipals c) =
    changeServicePrincipal c x.principal x.entitlement fun scope target p =>
      c.editRules scope target (x.ofRules (.exact x.entitlement.slug) x.entitlement.slug p) := by
  cases x <;> rfl

theorem call_workspaces (allowed : List String) : x.call (workspaces c allowed) =
    changeWorkspace x.principal x.entitlement fun workspace principalId =>
      c.putAssignment workspace principalId x.assignment := by
  cases x <;> rfl

theorem call_roles : x.call (roles c) = changeRole c x.principal x.entitlement.resource x.ofPermissions := by
  cases x <;> rfl

end Edit

/-- What the host can have done. -/
inductive Operation where
  | list (t : ResourceType) (parent : Option ResourceId) (token : String)
  | entitlements (t : ResourceType) (resource : Resource) (token : String)
  | grants (t : ResourceType) (resource : Resource) (token : String)
  | edit (t : ResourceType) (x : Edit)
  | createUser (profile : Profile)
  | deleteUser (r : ResourceId)
  | client (call : ClientCall)

namespace Operation

/-- What comes of an operation. -/
abbrev Result : Operation → Type
  | .list .. => SyncPage Resource
  | .entitlements .. => SyncPage Entitlement
  | .grants .. => SyncPage Grant
  | .createUser _ => Resource
  | .edit .. | .deleteUser _ | .client _ => Unit

def call (c : Client) (allowed : List String) : (op : Operation) → Call op.Result
  | .list t parent token => (c.adapterOf allowed t).list parent token
  | .entitlements t resource token => (c.adapterOf allowed t).entitlements resource token
  | .grants t resource token => (c.adapterOf allowed t).grants resource token
  | .edit t x => x.call (c.adapterOf allowed t)
  | .createUser profile => Sync.createUser c profile
  | .deleteUser r => Sync.deleteUser c r
  | .client call => call.call c

/-- If groups are listed, then under such a parent. -/
def ListsUnder (L : ResourceId → Prop) : Operation → Prop
  | .list .group (some parent) _ => L parent
  | _ => True

theorem listsUnder_of_forall {L : ResourceId → Prop} (h : ∀ parent, L parent) (op : Operation) :
    op.ListsUnder L := by
  unfold ListsUnder
  split
  · exact h _
  · exact trivial

/-- The operation may have a value although a request of it was refused. -/
inductive Tolerates : Operation → Prop
  | grants (resource : Resource) (token : String) : Tolerates (.grants .workspace resource token)

end Operation

variable {α : Type} {c : Client} {M : Http.Method → Prop} {L : ResourceId → Prop}

/-! ## Pieces -/

theorem consists_holder {kind : PrincipalKind} {id : String} : c.Consists M L (c.holder kind id) := by
  cases kind with
  | user => exact .pure _
  | group => exact .bind (.perform trivial) fun _ => .pure _
  | servicePrincipal => exact .pure _

theorem reads_entryGrants {scope : Scope} {resource : Resource} {entries : List (String × String)} :
    c.OnlyReads (c.entryGrants scope resource entries) := by
  refine Client.consists_mapM (fun x => .bind ?_ fun _ => .pure _) entries
  refine .bind Client.consists_ofExcept fun _ => .bind Client.reads_idOfName fun _ => ?_
  exact consists_holder

theorem reads_nameOfResource {scope : Scope} {r : ResourceId} : c.OnlyReads (c.nameOfResource scope r) :=
  .bind Client.consists_ofExcept fun _ => .bind Client.consists_ofExcept fun _ => Client.reads_nameOfId

theorem consists_listPage {d : Directory α} {attributes : List String} {present : α → ResourceId → Resource}
    {parent : ResourceId} {place : Place} {visit : α → Resource → Call Unit}
    (hvisit : ∀ a, c.Consists AnyMethod L (visit a (present a parent))) :
    c.Consists AnyMethod L (listPage c d attributes present parent place visit) := by
  refine .bind Client.reads_list.any fun listing => ?_
  refine .bind (Client.consists_forM hvisit _) fun _ => ?_
  exact .bind Client.consists_ofExcept fun _ => .pure _

/-! ## Parts of the adapters -/

theorem consists_under {parent : Option ResourceId} {list : ResourceId → Call (SyncPage Resource)}
    (h : ∀ p, parent = some p → c.Consists M L (list p)) : c.Consists M L (under parent list) := by
  cases parent with
  | none => exact .pure _
  | some p => exact h p rfl

theorem reads_accountAvailable : c.OnlyReads accountAvailable :=
  .bind (.perform trivial) fun _ => .pure _

theorem reads_accountGrants {resource : Resource} : c.OnlyReads (accountGrants c resource) := by
  refine .bind reads_accountAvailable fun available => ?_
  cases available with
  | false => exact .pure _
  | true => exact .bind Client.reads_listRules fun _ => .bind reads_entryGrants fun _ => .pure _

theorem reads_memberGrants {resource : Resource} : c.OnlyReads (memberGrants c resource) := by
  refine Client.consists_mapM (fun _ => ?_) _
  exact .bind Client.consists_ofExcept fun _ => .bind consists_holder fun _ => .pure _

theorem reads_groupGrants {resource : Resource} : c.OnlyReads (groupGrants c resource) := by
  refine .bind Client.consists_ofExcept fun _ => .bind reads_memberGrants fun _ => ?_
  exact .bind Client.reads_listRules fun _ => .bind reads_entryGrants fun _ => .pure _

theorem reads_groupEntitlements {resource : Resource} : c.OnlyReads (groupEntitlements c resource) :=
  .bind Client.consists_ofExcept fun _ => .bind Client.reads_listRoles fun _ => .pure _

theorem reads_servicePrincipalGrants {resource : Resource} :
    c.OnlyReads (servicePrincipalGrants c resource) := by
  refine .bind Client.consists_ofExcept fun _ => .bind Client.reads_listRules fun _ => ?_
  exact .bind reads_entryGrants fun _ => .pure _

theorem reads_servicePrincipalEntitlements {resource : Resource} :
    c.OnlyReads (servicePrincipalEntitlements c resource) :=
  .bind Client.consists_ofExcept fun _ => .bind Client.reads_listRoles fun _ => .pure _

theorem reads_pageGrants {d : Directory α} {attributes : List String} {scope : Scope} {start : UInt32}
    {holds : α → Bool} {grant : α → Call Grant} (h : ∀ a, c.OnlyReads (grant a)) :
    c.OnlyReads (pageGrants c d attributes scope start holds grant) :=
  .bind Client.reads_list fun _ => .bind (Client.consists_mapM h _) fun _ => .pure _

theorem reads_walk {role : Resource} {scope : Scope} {name : String} {place : Place} :
    c.OnlyReads (walk c role scope name place) := by
  unfold walk
  dsimp only
  split
  case h_1 => exact .pure _
  case h_5 => exact .fail _
  all_goals
    refine .bind (reads_pageGrants fun _ => .bind consists_holder fun _ => .pure _) fun _ => ?_
    exact .bind Client.consists_ofExcept fun _ => .pure _

theorem reads_roleGrants {role : Resource} {token : String} : c.OnlyReads (roleGrants c role token) := by
  refine .bind Client.consists_ofExcept fun _ => .bind Client.consists_ofExcept fun _ => ?_
  exact .bind Client.consists_ofExcept fun _ => .bind reads_walk fun _ => .pure _

theorem consists_assignmentGrant {resource : Resource} {a : Assignment} :
    c.Consists M L (assignmentGrant c resource a) := by
  unfold assignmentGrant
  split
  · split
    · exact .bind consists_holder fun _ => .pure _
    · exact .fail _
  · exact .fail _

/-! ## Editing -/

theorem consists_editGroup {scope : Scope} {groupId : String} {edit : Group → Bool × Group} :
    c.Consists AnyMethod L (editGroup c scope groupId edit) := by
  refine .bind Client.reads_get.any fun x => ?_
  dsimp only
  split
  · exact .pure _
  · exact .bind Client.consists_put fun _ => .pure _

theorem consists_changeGroup {principal : ResourceId} {e : Entitlement}
    {editMembers : String → Group → Bool × Group} {editRules : Scope → AccessTarget → PrincipalName → Call Bool}
    (h : ∀ scope target p, c.Consists AnyMethod L (editRules scope target p)) :
    c.Consists AnyMethod L (changeGroup c principal e editMembers editRules) := by
  refine .bind Client.consists_ofExcept fun _ => .bind Client.consists_ofExcept fun _ => ?_
  dsimp only
  split_ifs
  · exact .bind Client.consists_ofExcept fun _ => consists_editGroup
  · exact .bind reads_nameOfResource.any fun _ => .bind (h _ _ _) fun _ => .pure _

theorem consists_changeServicePrincipal {principal : ResourceId} {e : Entitlement}
    {editRules : Scope → AccessTarget → PrincipalName → Call Bool}
    (h : ∀ scope target p, c.Consists AnyMethod L (editRules scope target p)) :
    c.Consists AnyMethod L (changeServicePrincipal c principal e editRules) := by
  refine .bind Client.consists_ofExcept fun _ => .bind Client.consists_ofExcept fun _ => ?_
  exact .bind reads_nameOfResource.any fun _ => .bind (h _ _ _) fun _ => .pure _

theorem consists_changeRole {principal : ResourceId} {role : Resource}
    {edit : Principal → PermissionKind → String → Bool × Principal} :
    c.Consists AnyMethod L (changeRole c principal role edit) := by
  refine .bind Client.consists_ofExcept fun _ => .bind Client.consists_ofExcept fun _ => ?_
  refine .bind Client.consists_ofExcept fun _ => .bind Client.consists_ofExcept fun _ => ?_
  refine .bind Client.reads_getPrincipal.any fun x => ?_
  dsimp only
  split
  · exact .pure _
  · exact .bind Client.consists_putPrincipal fun _ => .pure _

theorem consists_changeWorkspace {principal : ResourceId} {e : Entitlement}
    {put : Int64 → String → Call Http.RateLimit} (h : ∀ id p, c.Consists AnyMethod L (put id p)) :
    c.Consists AnyMethod L (changeWorkspace principal e put) := by
  refine .bind Client.consists_ofExcept fun _ => .bind Client.consists_ofExcept fun _ => ?_
  exact .bind Client.consists_ofExcept fun _ => .bind (h _ _) fun _ => .pure _

theorem consists_edit (c : Client) (allowed : List String) (t : ResourceType) (x : Edit) :
    c.Consists AnyMethod L (x.call (c.adapterOf allowed t)) := by
  cases t with
  | account =>
    rw [Client.adapterOf, Edit.call_account]
    exact .bind reads_nameOfResource.any fun p => .bind Client.consists_editRules fun _ => .pure _
  | workspace =>
    rw [Client.adapterOf, Edit.call_workspaces]
    exact consists_changeWorkspace fun _ _ => Client.consists_putAssignment
  | user => cases x <;> exact .fail _
  | group =>
    rw [Client.adapterOf, Edit.call_groups]
    exact consists_changeGroup fun _ _ _ => Client.consists_editRules
  | servicePrincipal =>
    rw [Client.adapterOf, Edit.call_servicePrincipals]
    exact consists_changeServicePrincipal fun _ _ _ => Client.consists_editRules
  | role =>
    rw [Client.adapterOf, Edit.call_roles]
    exact consists_changeRole

/-! ## All operations -/

theorem consists_listGroups {parent : Option ResourceId} {token : String}
    (h : ∀ p, parent = some p → L p) : c.Consists AnyMethod L ((groups c).list parent token) := by
  refine consists_under fun p hp => .bind Client.consists_ofExcept fun place => ?_
  have hpage : c.Consists AnyMethod L (listPage c .groups Query.groupAttributes groupResource p place
      fun g r => Call.perform (.writeGroup g.id r)) :=
    consists_listPage fun g => .perform ⟨p, h p hp, id_groupResource g p⟩
  dsimp only
  split_ifs
  · exact .bind (.perform trivial) fun _ => hpage
  · exact hpage

theorem consists_list {allowed : List String} {t : ResourceType} {parent : Option ResourceId} {token : String}
    (h : (Operation.list t parent token).ListsUnder L) :
    c.Consists AnyMethod L ((c.adapterOf allowed t).list parent token) := by
  have hpage : ∀ {α : Type} (d : Directory α) (attributes : List String)
      (present : α → ResourceId → Resource) (t : ResourceType) (p : ResourceId), c.Consists AnyMethod L (do
        let place ← resume token t
        listPage c d attributes present p place fun _ _ => pure ()) := fun _ _ _ _ _ =>
    .bind Client.consists_ofExcept fun _ => consists_listPage fun _ => .pure _
  cases t with
  | account => exact .bind reads_accountAvailable.any fun _ => .pure _
  | workspace => exact consists_under fun _ _ => .bind Client.reads_listWorkspaces.any fun _ => .pure _
  | user => exact consists_under fun p _ => hpage .users Query.userAttributes userResource .user p
  | group =>
    refine consists_listGroups ?_
    rintro p rfl
    exact h
  | servicePrincipal =>
    exact consists_under fun p _ =>
      hpage .servicePrincipals Query.servicePrincipalAttributes servicePrincipalResource .servicePrincipal p
  | role => exact consists_under fun _ _ => .pure _

theorem reads_entitlements {allowed : List String} {t : ResourceType} {resource : Resource} {token : String} :
    c.OnlyReads ((c.adapterOf allowed t).entitlements resource token) := by
  have havailable : ∀ {page : SyncPage Entitlement}, c.OnlyReads (do
      if ← accountAvailable then return page else return .empty) := by
    intro page
    refine .bind reads_accountAvailable fun available => ?_
    cases available <;> exact .pure _
  cases t with
  | account => exact havailable
  | workspace => exact havailable
  | user => exact .pure _
  | group => exact reads_groupEntitlements
  | servicePrincipal => exact reads_servicePrincipalEntitlements
  | role => exact .pure _

theorem reads_grants {allowed : List String} {t : ResourceType} {resource : Resource} {token : String}
    (h : ¬(Operation.grants t resource token).Tolerates) :
    c.OnlyReads ((c.adapterOf allowed t).grants resource token) := by
  cases t with
  | account => exact reads_accountGrants
  | workspace => exact absurd (.grants resource token) h
  | user => exact .pure _
  | group => exact reads_groupGrants
  | servicePrincipal => exact reads_servicePrincipalGrants
  | role => exact reads_roleGrants

theorem consists_createUser {profile : Profile} : c.Consists AnyMethod L (createUser c profile) := by
  refine .bind Client.consists_ofExcept fun _ => .bind Client.consists_createUser fun _ => ?_
  exact .bind Client.reads_get.any fun _ => .pure _

theorem consists_deleteUser {r : ResourceId} : c.Consists AnyMethod L (deleteUser c r) := by
  unfold deleteUser
  split_ifs
  · exact .bind Client.consists_deleteUser fun _ => .pure _
  · exact .fail _

theorem consists_operation (c : Client) (allowed : List String) {op : Operation} (hlists : op.ListsUnder L)
    (h : ¬op.Tolerates) : c.Consists AnyMethod L (op.call c allowed) := by
  cases op with
  | list => exact consists_list hlists
  | entitlements => exact reads_entitlements.any
  | grants => exact (reads_grants h).any
  | edit t x => exact consists_edit c allowed t x
  | createUser => exact consists_createUser
  | deleteUser => exact consists_deleteUser
  | client call => exact Client.consists_call c call

/-- The grants of a workspace look at an error and are otherwise made of the same pieces. -/
theorem always_workspaceGrants {P : Event → Prop} (c : Client) (resource : Resource)
    (hperform : ∀ e answer, e.Remembers (fun _ => False) → P ⟨e, answer⟩)
    (hexchange : ∀ ev : Event, ev.Exchanges → P ev) : (workspaceGrants c resource).Always P := by
  have hreads : ∀ {α : Type} {x : Call α}, c.OnlyReads x → x.Always P := fun h =>
    h.always hperform fun _ _ => hexchange
  refine Call.always_bind (hreads reads_accountAvailable) fun available => ?_
  cases available with
  | false => exact Call.always_pure
  | true =>
    refine Call.always_bind Call.always_ofExcept fun id => ?_
    refine Call.always_bind (Call.always_attempt (hreads Client.reads_listAssignments)) ?_
    rintro (e | ⟨assignments, rateLimit⟩)
    · dsimp only
      split
      · split_ifs
        · exact Call.always_pure
        · exact Call.always_fail
      · exact Call.always_fail
    · have hgrants : (assignments.mapM (assignmentGrant c resource)).Always P :=
        hreads (Client.consists_mapM (fun _ => consists_assignmentGrant) assignments)
      exact Call.always_bind hgrants fun _ => Call.always_pure

/-- What holds of all effects on the memory and of all exchanges holds throughout every operation. -/
theorem always_operation {P : Event → Prop} (c : Client) (allowed : List String) {op : Operation}
    (hlists : op.ListsUnder L) (hperform : ∀ e answer, e.Remembers L → P ⟨e, answer⟩)
    (hexchange : ∀ ev : Event, ev.Exchanges → P ev) : (op.call c allowed).Always P := by
  by_cases hop : op.Tolerates
  · cases hop with
    | grants resource token =>
      refine always_workspaceGrants c resource (fun e answer he => ?_) hexchange
      exact hperform e answer (he.mono fun _ hno => hno.elim)
  · exact (consists_operation c allowed hlists hop).always hperform fun _ _ => hexchange

end Sync

end AccessSync
