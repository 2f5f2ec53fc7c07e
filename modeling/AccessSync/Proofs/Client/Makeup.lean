import AccessSync.Proofs.Client.Calls
import AccessSync.Proofs.Program.Running
/-!
# What calls are made of

The calls of a client, however they branch and loop, are put together from a few pieces: exchanges of
messages, effects on the client's own memory, values and errors. `Client.Consists` says so of a call,
and which methods its exchanges use, all of them where the resolver finds their scope, and under which
parents it remembers groups. What holds of the
pieces and is kept by putting them together then holds of all calls, and of those of the adapters that
are built on them.
-/

namespace AccessSync

/-- An effect on what the client remembers. Tokens are read and written apart and only forgotten here; a
group is remembered as a listing under such a parent names it. -/
def Effect.Remembers (L : ResourceId → Prop) : Effect → Prop
  | .send _ | .now | .readToken => False
  | .writeToken token => token = none
  | .writeGroup id group =>
    ∃ parent, L parent ∧ group.id = .ofType .group (ResourceId.groupPath id (some parent))
  | _ => True

theorem Effect.Remembers.mono {L L' : ResourceId → Prop} (hL : ∀ parent, L parent → L' parent) {e : Effect}
    (h : e.Remembers L) : e.Remembers L' := by
  cases e with
  | writeGroup id group =>
    obtain ⟨parent, hparent, hid⟩ := h
    exact ⟨parent, hL parent hparent, hid⟩
  | _ => exact h

/-- Whatever the method. -/
abbrev AnyMethod : Http.Method → Prop := fun _ => True

namespace Client

/-- The client finds something of the scope's API at that URL. -/
def Resolves (c : Client) (scope : Scope) (url : Url) : Prop :=
  ∃ endpoint, c.resolver.resolve endpoint scope = .ok url ∨
    ∃ texts, c.resolver.resolveWith endpoint scope texts = .ok url

/-- The call is made of exchanges that use such methods, each at a URL of its scope, and of effects on the
client's memory. -/
inductive Consists (c : Client) (M : Http.Method → Prop) (L : ResourceId → Prop) : {α : Type} → Call α → Prop
  | pure {α : Type} (a : α) : Consists c M L (Pure.pure a)
  | fail {α : Type} (e : Error) : Consists c M L (Call.fail e : Call α)
  | perform {e : Effect} : e.Remembers L → Consists c M L (Call.perform e)
  | exchange {α : Type} {read : Json → Option α} {method : Http.Method} {scope : Scope} {url : Url}
      {body : Option Json} {terms : List Query.Term} : M method → c.Resolves scope url →
      Consists c M L (Transport.exchange c.credentials read method scope url body terms)
  | bind {α β : Type} {x : Call α} {f : α → Call β} :
      Consists c M L x → (∀ a, Consists c M L (f a)) → Consists c M L (x >>= f)

/-- The call only reads, and remembers no group. -/
abbrev OnlyReads {α : Type} (c : Client) (x : Call α) : Prop := c.Consists (· = .get) (fun _ => False) x

variable {α β : Type} {c : Client} {M : Http.Method → Prop} {L : ResourceId → Prop}

theorem Consists.mono {M' : Http.Method → Prop} {L' : ResourceId → Prop} (hM : ∀ m, M m → M' m)
    (hL : ∀ parent, L parent → L' parent) {x : Call α} (h : c.Consists M L x) : c.Consists M' L' x := by
  induction h with
  | pure a => exact .pure a
  | fail e => exact .fail e
  | perform h => exact .perform (h.mono hL)
  | exchange h hurl => exact .exchange (hM _ h) hurl
  | bind _ _ ihx ihf => exact .bind ihx ihf

theorem OnlyReads.consists (hget : M .get) {x : Call α} (h : c.OnlyReads x) : c.Consists M L x :=
  h.mono (fun _ hm => hm ▸ hget) fun _ hno => hno.elim

theorem consists_ofExcept {ε : Type} {error : ε → Error} {x : Except ε α} :
    c.Consists M L (Call.ofExcept error x) := by
  cases x with
  | ok a => exact .pure a
  | error fault => exact .fail _

/-- What comes behind a value that may be a fault is only to be looked at where there is a value. -/
theorem consists_ofExcept_bind {ε : Type} {error : ε → Error} {x : Except ε α} {f : α → Call β}
    (h : ∀ a, x = .ok a → c.Consists M L (f a)) : c.Consists M L (Call.ofExcept error x >>= f) := by
  cases x with
  | ok a => exact h a rfl
  | error fault => exact .fail _

theorem consists_mapM {f : α → Call β} (h : ∀ a, c.Consists M L (f a)) (xs : List α) :
    c.Consists M L (xs.mapM f) := by
  induction xs with
  | nil => exact .pure []
  | cons a xs ih =>
    rw [List.mapM_cons]
    exact .bind (h a) fun _ => .bind ih fun _ => .pure _

theorem consists_forM {f : α → Call PUnit} (h : ∀ a, c.Consists M L (f a)) (xs : List α) :
    c.Consists M L (xs.forM f) := by
  induction xs with
  | nil => exact .pure _
  | cons a xs ih => exact .bind (h a) fun _ => ih

/-- What holds of the effects and of exchanges with the methods that a call is made of holds throughout it. -/
theorem Consists.always {P : Event → Prop} {x : Call α} (h : c.Consists M L x)
    (hperform : ∀ e answer, e.Remembers L → P ⟨e, answer⟩)
    (hexchange : ∀ method, M method → ∀ ev : Event, ev.Exchanges → P ev) : x.Always P := by
  induction h with
  | pure => exact Call.always_pure
  | fail => exact Call.always_fail
  | perform he => exact Call.always_perform fun answer => hperform _ answer he
  | exchange hmethod _ => exact Transport.always_exchange.imp (hexchange _ hmethod)
  | bind _ _ ihx ihf => exact Call.always_bind ihx ihf

/-! ## Calls that only read -/

section Reads
variable {d : Directory α} {scope : Scope} {target : AccessTarget}

theorem resolves_resolve {endpoint : Endpoint} (url : Url) (h : c.resolver.resolve endpoint scope = .ok url) :
    c.Resolves scope url := ⟨endpoint, .inl h⟩

theorem resolves_resolveWith {endpoint : Endpoint} {texts : List String} (url : Url)
    (h : c.resolver.resolveWith endpoint scope texts = .ok url) : c.Resolves scope url :=
  ⟨endpoint, .inr ⟨texts, h⟩⟩

theorem consists_exchange {read : Json → Option α} {method : Http.Method} {url : Except Error Url}
    {body : Option Json} {terms : List Query.Term} (h : M method)
    (hurl : ∀ u, url = .ok u → c.Resolves scope u) :
    c.Consists M L (c.exchange read method scope url body terms) :=
  consists_ofExcept_bind fun u hu => .exchange h (hurl u hu)

theorem reads_list {terms : List Query.Term} : c.OnlyReads (c.list d scope terms) :=
  .bind (consists_exchange rfl resolves_resolve) fun _ => .pure _

theorem reads_get {id : String} : c.OnlyReads (c.get d scope id) := consists_exchange rfl resolves_resolveWith

theorem reads_findId {key : String} : c.OnlyReads (c.findId d scope key) :=
  .bind (.bind reads_list fun _ => .pure _) fun _ => .pure _

theorem reads_findKey {id : String} : c.OnlyReads (c.findKey d scope id) :=
  .bind (.bind reads_list fun _ => .pure _) fun _ => .pure _

theorem reads_getPrincipal {kind : PrincipalKind} {id : String} : c.OnlyReads (c.getPrincipal scope kind id) := by
  cases kind <;> exact .bind reads_get fun _ => .pure _

theorem reads_findPrincipalKey {kind : PrincipalKind} {id : String} :
    c.OnlyReads (c.findPrincipalKey scope kind id) := by
  cases kind <;> exact reads_findKey

theorem reads_findPrincipalId {kind : PrincipalKind} {key : String} :
    c.OnlyReads (c.findPrincipalId scope kind key) := by
  cases kind <;> exact reads_findId

theorem reads_nameOfId {kind : PrincipalKind} {id : String} : c.OnlyReads (c.nameOfId scope kind id) := by
  refine .bind reads_findPrincipalKey fun found => ?_
  cases found with
  | some key => exact .pure _
  | none => exact .fail _

theorem reads_idOfName {p : PrincipalName} : c.OnlyReads (c.idOfName scope p) := by
  refine .bind reads_findPrincipalId fun found => ?_
  cases found with
  | some id => exact .pure _
  | none => exact .fail _

theorem reads_listRoles : c.OnlyReads (c.listRoles scope target) := consists_exchange rfl resolves_resolve

theorem reads_lastEtag {name : String} : c.OnlyReads (lastEtag name) :=
  .bind (.perform trivial) fun _ => .pure _

theorem reads_listRules : c.OnlyReads (c.listRules scope target) := by
  refine consists_ofExcept_bind fun url hurl => .bind reads_lastEtag fun _ => ?_
  refine .bind (consists_exchange rfl ?_) fun _ => ?_
  · rintro _ ⟨⟩
    exact resolves_resolve url hurl
  exact .bind (.perform trivial) fun _ => .pure _

theorem reads_listWorkspaces : c.OnlyReads c.listWorkspaces :=
  .bind (consists_exchange rfl resolves_resolve) fun _ => .pure _

theorem reads_listAssignments {workspace : Int64} : c.OnlyReads (c.listAssignments workspace) :=
  consists_exchange rfl resolves_resolveWith

end Reads

/-! ## Calls that write -/

theorem OnlyReads.any {x : Call α} (h : c.OnlyReads x) : c.Consists AnyMethod L x := h.consists trivial

section Writes
variable {d : Directory α} {scope : Scope} {target : AccessTarget}

theorem consists_put {a : α} : c.Consists AnyMethod L (c.put d scope a) :=
  .bind (consists_exchange trivial resolves_resolveWith) fun _ => .pure _

theorem consists_putPrincipal {p : Principal} : c.Consists AnyMethod L (c.putPrincipal scope p) := by
  cases p <;> exact consists_put

theorem consists_putRules {rules : List Rule} : c.Consists AnyMethod L (c.putRules scope target rules) := by
  refine consists_ofExcept_bind fun url hurl => .bind reads_lastEtag.any fun _ => ?_
  refine .bind (consists_exchange trivial ?_) fun x => ?_
  · rintro _ ⟨⟩
    exact resolves_resolve url hurl
  obtain ⟨_ | ⟨rules, etag⟩, rateLimit⟩ := x
  · exact .pure _
  · dsimp only
    split_ifs
    · exact .bind (.perform trivial) fun _ => .pure _
    · exact .pure _

theorem consists_editRules {edit : List Rule → Bool × List Rule} :
    c.Consists AnyMethod L (c.editRules scope target edit) := by
  refine .bind reads_listRules.any fun x => ?_
  dsimp only
  split
  · exact .pure _
  · exact .bind consists_putRules fun _ => .pure _

theorem consists_putAssignment {workspace : Int64} {principalId : String} {body : Option Json} :
    c.Consists AnyMethod L (c.putAssignment workspace principalId body) :=
  .bind (consists_exchange trivial resolves_resolveWith) fun _ => .pure _

theorem consists_requireAccount {operation : String} : c.Consists M L (requireAccount scope operation) := by
  unfold requireAccount
  split_ifs
  · exact .pure _
  · exact .fail _

theorem consists_createUser {u : NewUser} : c.Consists AnyMethod L (c.createUser scope u) :=
  .bind consists_requireAccount fun _ => consists_exchange trivial resolves_resolve

theorem consists_deleteUser {id : String} : c.Consists AnyMethod L (c.deleteUser scope id) :=
  .bind consists_requireAccount fun _ =>
    .bind (consists_exchange trivial resolves_resolveWith) fun _ => .pure _

end Writes

theorem Consists.forget {x : Call α} (h : c.Consists M L x) : c.Consists M L x.forget :=
  .bind h fun _ => .pure _

/-- So are all calls of a client. -/
theorem consists_call (c : Client) (call : ClientCall) : c.Consists AnyMethod L (call.call c) := by
  cases call with
  | rules call =>
    cases call with
    | list => exact reads_listRules.any.forget
    | put => exact consists_putRules.forget
    | edit scope target edit =>
      refine Consists.forget ?_
      rw [edit.call_eq]
      exact consists_editRules
  | list kind => cases kind <;> exact reads_list.any.forget
  | get => exact reads_getPrincipal.any.forget
  | put => exact consists_putPrincipal.forget
  | findKey => exact reads_findPrincipalKey.any.forget
  | findId => exact reads_findPrincipalId.any.forget
  | nameOfId => exact reads_nameOfId.any.forget
  | idOfName => exact reads_idOfName.any.forget
  | createUser => exact consists_createUser.forget
  | deleteUser => exact consists_deleteUser.forget
  | listRoles => exact reads_listRoles.any.forget
  | listWorkspaces => exact reads_listWorkspaces.any.forget
  | listAssignments => exact reads_listAssignments.any.forget
  | assign | unassign => exact consists_putAssignment.forget
  | etag => exact Consists.forget (.perform trivial)
  | availability => exact Consists.forget (.perform trivial)
  | setAvailability => exact .perform trivial
  | forgetToken => exact .perform rfl

end Client

end AccessSync
