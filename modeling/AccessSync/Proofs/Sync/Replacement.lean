import AccessSync.Proofs.Client.Replacement
import AccessSync.Proofs.Json.Rereading
import AccessSync.Proofs.Principal.Attributes
import AccessSync.Sync.Groups
import AccessSync.Sync.Roles
/-!
# Edits of principals

A role is granted and revoked by fetching a principal, editing one of its lists and writing it back whole,
and so is membership in a group. `edit_spares_rest` says what such a write leaves alone. It is no more than
the client reads of a principal: `grant_changes_more`.
-/

namespace AccessSync.Sync

/-! ## What is edited -/

/-- An entry of one of the lists that a principal holds. -/
inductive ListEntry where
  | permission (kind : PermissionKind) (value : String)
  | member (id : String)
  deriving DecidableEq, Repr

/-- The lists differ in one occurrence of `a`. -/
def OneApart {α : Type} (a : α) (xs ys : List α) : Prop :=
  ∃ us vs, (xs = us ++ vs ∧ ys = us ++ a :: vs) ∨ (xs = us ++ a :: vs ∧ ys = us ++ vs)

namespace ListEntry

/-- The attribute that the list stands in. -/
def listName : ListEntry → String
  | .permission .role _ => "roles"
  | .permission .entitlement _ => "entitlements"
  | .member _ => "members"

/-- The principals are the same but for the list of the entry, and in that list all others are. -/
def Spares (p p' : Principal) : ListEntry → Prop
  | .permission kind value => ∃ values, OneApart value (p.permissions.list kind) values ∧
      p' = p.setPermissions (p.permissions.setList kind values)
  | .member id => ∃ g members, p = .group g ∧
      members.filter (·.id ≠ id) = g.members.filter (·.id ≠ id) ∧ p' = .group { g with members }

variable {entry : ListEntry} {p p' : Principal} {kind : PermissionKind} {value id name : String} {g : Group}

theorem spares_addPermission (h : (p.addPermission kind value).1 = true) :
    (permission kind value).Spares p (p.addPermission kind value).2 := by
  unfold Principal.addPermission Permissions.add at h ⊢
  split_ifs at h ⊢
  exact ⟨_, ⟨_, [], .inl ⟨(List.append_nil _).symm, rfl⟩⟩, rfl⟩

theorem spares_removePermission (h : (p.removePermission kind value).1 = true) :
    (permission kind value).Spares p (p.removePermission kind value).2 := by
  unfold Principal.removePermission Permissions.remove at h ⊢
  split_ifs at h ⊢ with hheld
  obtain ⟨us, vs, -, hlist, herase⟩ := List.exists_erase_eq (of_decide_eq_true hheld)
  exact ⟨_, ⟨us, vs, .inr ⟨hlist, herase⟩⟩, rfl⟩

theorem spares_addMember : (member id).Spares (.group g) (.group (g.addMember id).2) := by
  unfold Group.addMember
  split_ifs
  · exact ⟨g, g.members, rfl, rfl, rfl⟩
  · exact ⟨g, _, rfl, by simp [Member.ofId], rfl⟩

theorem spares_removeMember : (member id).Spares (.group g) (.group (g.removeMember id).2) :=
  ⟨g, _, rfl, by simp, rfl⟩

theorem Spares.kind_eq (h : entry.Spares p p') : p'.kind = p.kind := by
  cases entry with
  | permission =>
    obtain ⟨values, -, rfl⟩ := h
    cases p <;> rfl
  | member =>
    obtain ⟨g, members, rfl, -, rfl⟩ := h
    rfl

/-- What permissions have under another name than that of the list is not changed with the list. -/
theorem get?_setList (l : Permissions) (values : List String) (hname : name ≠ (permission kind value).listName) :
    (⟨(l.setList kind values).fields, true⟩ : Record).get? name = (⟨l.fields, true⟩ : Record).get? name := by
  cases kind with
  | role =>
    have hroles : "roles" ≠ name := hname.symm
    simp [Permissions.fields, Permissions.setList, hroles]
  | entitlement =>
    have hentitlements : "entitlements" ≠ name := hname.symm
    simp [Permissions.fields, Permissions.setList, hentitlements]

/-- All attributes but the edited one are written alike. -/
theorem Spares.attribute? (h : entry.Spares p p') (hname : name ≠ entry.listName) :
    p'.toJson.attribute? name = p.toJson.attribute? name := by
  cases entry with
  | permission kind value =>
    obtain ⟨values, -, rfl⟩ := h
    have hfields : ∀ l : Permissions, (⟨(l.setList kind values).fields, true⟩ : Record).get? name =
        (⟨l.fields, true⟩ : Record).get? name := fun l => get?_setList l values hname
    cases p with
    | user u =>
      simp only [Principal.toJson, Principal.setPermissions, Principal.permissions, User.attribute?_toJson,
        User.record, User.ownFields, Record.get?_append, hfields]
    | group g =>
      simp only [Principal.toJson, Principal.setPermissions, Principal.permissions, Group.attribute?_toJson,
        Group.record, Group.ownFields, Record.get?_append, hfields]
    | servicePrincipal s =>
      simp only [Principal.toJson, Principal.setPermissions, Principal.permissions,
        ServicePrincipal.attribute?_toJson, ServicePrincipal.record, ServicePrincipal.ownFields,
        Record.get?_append, hfields]
  | member =>
    obtain ⟨g, members, rfl, -, rfl⟩ := h
    have hmembers : "members" ≠ name := hname.symm
    simp only [Principal.toJson, Group.attribute?_toJson, Group.record, Group.ownFields, Record.get?_append,
      Record.get?_listField, hmembers, false_and, if_false]

end ListEntry

/-- What is written of a principal that was fetched, apart from one entry: it is read as the same principal
with the entry's list edited, nothing has been added but what is always written, and what had been
fetched as it is written of some principal is as it was. -/
structure Carries (kind : PrincipalKind) (entry : ListEntry) (fetched written : Json) : Prop where
  read : ∃ p p', Principal.read fetched kind = some p ∧ Principal.read written kind = some p' ∧
    entry.Spares p p'
  added : ∀ name ≠ entry.listName, written.attribute? name ≠ none →
    fetched.attribute? name ≠ none ∨ name ∈ Principal.required kind
  kept : ∀ name ≠ entry.listName, ∀ v, Principal.Writes kind name v →
    fetched.attribute? name = some v → written.attribute? name = some v

theorem ListEntry.Spares.carries {kind : PrincipalKind} {entry : ListEntry} {fetched : Json} {p p' : Principal}
    (hread : Principal.read fetched kind = some p) (h : entry.Spares p p') :
    Carries kind entry fetched p'.toJson where
  read := by
    have hkind : p'.kind = kind := h.kind_eq.trans (Principal.kind_of_read hread)
    exact ⟨p, p', hread, hkind ▸ p'.read_toJson, h⟩
  added := by
    intro name hname hwritten
    rw [h.attribute? hname] at hwritten
    exact Principal.attribute_added hread hwritten
  kept := by
    intro name hname v hwrites hfetched
    rw [h.attribute? hname]
    exact Principal.attribute_kept hread hwrites hfetched

/-! ## Edits as calls -/

/-- A grant or a revocation of a role or of membership in a group. -/
inductive PrincipalEdit where
  | grantRole (principal : ResourceId) (e : Entitlement)
  | revokeRole (g : Grant)
  | grantMembership (principal : ResourceId) (e : Entitlement) (h : e.slug = Entitlement.member)
  | revokeMembership (g : Grant) (h : g.entitlement.slug = Entitlement.member)

namespace PrincipalEdit

/-- The call that the edit is. -/
def call (c : Client) : PrincipalEdit → Call Unit
  | .grantRole principal e => (roles c).grant principal e
  | .revokeRole g => (roles c).revoke g
  | .grantMembership principal e _ => (groups c).grant principal e
  | .revokeMembership g _ => (groups c).revoke g

/-- The permission that a role stands for. -/
def rolePermission? (role : Resource) : Option ListEntry := do
  let scope ← role.scope.toOption
  let name ← (permissionName role scope).toOption
  return .permission (.ofScope scope) name

/-- The member that a principal would be. -/
def memberOf? (principal : ResourceId) : Option ListEntry :=
  principal.platformId.toOption.map .member

/-- The entry that is asked for. -/
def entry? : PrincipalEdit → Option ListEntry
  | .grantRole _ e => rolePermission? e.resource
  | .revokeRole g => rolePermission? g.entitlement.resource
  | .grantMembership principal _ _ => memberOf? principal
  | .revokeMembership g _ => memberOf? g.principal

end PrincipalEdit

/-- The request replaces what was fetched before it and spares all but the entry. -/
def ReplacesSparing (c : Client) (entry : ListEntry) (before : List Event) (request : Http.Request) : Prop :=
  ∃ kind scope id fetched written, c.Fetched (PrincipalKind.endpoint kind) scope id fetched before ∧
    request.body = .json written ∧ Carries kind entry fetched written

variable {c : Client} {es before after : List Event} {request : Http.Request} {answer : Option Http.Reply}
  {r : Option (Except Halt Unit)}

theorem replacesSparing_of_spares {entry : ListEntry} {kind : PrincipalKind} {e : Endpoint} {scope : Scope}
    {id id' : String} {fetched : Json} {p p' : Principal} {found : List Event} (rest : List Event)
    (hread : Principal.read fetched kind = some p)
    (hfetched : c.Fetched kind.endpoint scope id fetched found) (hspares : entry.Spares p p')
    (hreplaces : c.Replaces e scope id' p'.toJson request) : ReplacesSparing c entry (found ++ rest) request := by
  obtain ⟨url, -, hasks⟩ := hreplaces
  exact ⟨kind, scope, id, fetched, p'.toJson, hfetched.mono (List.subset_append_left found rest), hasks.body,
    hspares.carries hread⟩

theorem put_of_changeRole {principal : ResourceId} {role : Resource}
    {edit : Principal → PermissionKind → String → Bool × Principal}
    (hedit : ∀ p kind value, (edit p kind value).1 = true →
      (ListEntry.permission kind value).Spares p (edit p kind value).2)
    (h : (changeRole c principal role edit).Does es r)
    (hes : es = before ++ ⟨.send request, answer⟩ :: after) (hm : request.method = .put) :
    ∃ entry, PrincipalEdit.rolePermission? role = some entry ∧ ReplacesSparing c entry before request := by
  have hnil : ∀ {P : Prop}, es = [] → P := fun hnil => by simp [hnil] at hes
  unfold changeRole at h
  rcases Call.does_ofExcept_bind.1 h with ⟨_, -, hno, -⟩ | ⟨kind, -, h⟩
  · exact hnil hno
  rcases Call.does_ofExcept_bind.1 h with ⟨_, -, hno, -⟩ | ⟨scope, hscope, h⟩
  · exact hnil hno
  rcases Call.does_ofExcept_bind.1 h with ⟨_, -, hno, -⟩ | ⟨name, hname, h⟩
  · exact hnil hno
  rcases Call.does_ofExcept_bind.1 h with ⟨_, -, hno, -⟩ | ⟨id, -, h⟩
  · exact hnil hno
  have hfetch : ∀ {es r}, (c.getPrincipal scope kind id).Does es r → ∀ ev ∈ es, ¬ev.IsPut :=
    fun hget => (Client.get_of_getPrincipal hget).1
  obtain ⟨p, rateLimit, found, rest, rfl, hfound, hchanged, ys, r', hput, hev⟩ :=
    Client.put_of_edit (fun p => edit p (.ofScope scope) name) (c.putPrincipal scope) hfetch (by
      intro p rateLimit
      dsimp only
      rcases edit p (.ofScope scope) name with ⟨_ | _, p'⟩ <;> rfl) h hes hm
  obtain ⟨fetched, hfetched, hread⟩ := (Client.get_of_getPrincipal hfound).2 p rateLimit rfl
  have hentry : PrincipalEdit.rolePermission? role = some (.permission (.ofScope scope) name) := by
    simp [PrincipalEdit.rolePermission?, hscope, hname, Except.toOption]
  exact ⟨_, hentry, replacesSparing_of_spares rest hread hfetched (hedit p _ name hchanged)
    (Client.replaces_of_putPrincipal hput hev hm)⟩

theorem put_of_changeGroup {principal : ResourceId} {e : Entitlement}
    {editMembers : String → Group → Bool × Group}
    {editRules : Scope → AccessTarget → PrincipalName → Call Bool} (hmember : e.slug = Entitlement.member)
    (hedit : ∀ id g, (ListEntry.member id).Spares (.group g) (.group (editMembers id g).2))
    (h : (changeGroup c principal e editMembers editRules).Does es r)
    (hes : es = before ++ ⟨.send request, answer⟩ :: after) (hm : request.method = .put) :
    ∃ entry, PrincipalEdit.memberOf? principal = some entry ∧ ReplacesSparing c entry before request := by
  have hnil : ∀ {P : Prop}, es = [] → P := fun hnil => by simp [hnil] at hes
  unfold changeGroup at h
  rcases Call.does_ofExcept_bind.1 h with ⟨_, -, hno, -⟩ | ⟨_, -, h⟩
  · exact hnil hno
  rcases Call.does_ofExcept_bind.1 h with ⟨_, -, hno, -⟩ | ⟨⟨parent, groupId⟩, -, h⟩
  · exact hnil hno
  dsimp only at h
  rw [if_pos hmember] at h
  rcases Call.does_ofExcept_bind.1 h with ⟨_, -, hno, -⟩ | ⟨id, hid, h⟩
  · exact hnil hno
  have hfetch : ∀ {es r}, (c.get .groups (.ofParent parent) groupId).Does es r → ∀ ev ∈ es, ¬ev.IsPut :=
    fun hget => Client.not_put_of_get hget
  obtain ⟨g, rateLimit, found, rest, rfl, hfound, -, ys, r', hput, hev⟩ :=
    Client.put_of_edit (editMembers id) (c.put .groups (.ofParent parent)) hfetch (by
      intro g rateLimit
      dsimp only
      rcases editMembers id g with ⟨_ | _, g'⟩ <;> rfl) h hes hm
  obtain ⟨fetched, hfetched, hread⟩ := Client.fetched_of_get hfound
  have hentry : PrincipalEdit.memberOf? principal = some (.member id) := by
    simp [PrincipalEdit.memberOf?, hid, Except.toOption]
  have hgroup : Principal.read fetched .group = some (.group g) := congrArg (Option.map _) hread
  exact ⟨_, hentry, replacesSparing_of_spares rest hgroup hfetched (hedit id g)
    (Client.replaces_of_put hput hev hm)⟩

/-- A grant or a revocation that writes a principal has fetched it before. What it writes is read as the
principal that was fetched but for the entry that was asked for; no other attribute is new except those
that are always written, and those that were fetched in the form in which they are written are as they
were. -/
theorem edit_spares_rest {x : PrincipalEdit} (h : (x.call c).Does es r)
    (hes : es = before ++ ⟨.send request, answer⟩ :: after) (hm : request.method = .put) :
    ∃ entry, x.entry? = some entry ∧ ReplacesSparing c entry before request := by
  cases x with
  | grantRole principal e =>
    change (changeRole c principal e.resource Principal.addPermission).Does es r at h
    exact put_of_changeRole (fun _ _ _ => ListEntry.spares_addPermission) h hes hm
  | revokeRole g =>
    change (changeRole c g.principal g.entitlement.resource Principal.removePermission).Does es r at h
    exact put_of_changeRole (fun _ _ _ => ListEntry.spares_removePermission) h hes hm
  | grantMembership principal e hmember =>
    change (changeGroup c principal e (fun id g => g.addMember id)
      fun scope target p => c.grantRole scope target (.exact e.slug) e.slug p).Does es r at h
    exact put_of_changeGroup hmember (fun _ _ => ListEntry.spares_addMember) h hes hm
  | revokeMembership g hmember =>
    change (changeGroup c g.principal g.entitlement (fun id group => group.removeMember id)
      fun scope target p => c.revokeRole scope target (.exact g.entitlement.slug) p).Does es r at h
    exact put_of_changeGroup hmember (fun _ _ => ListEntry.spares_removeMember) h hes hm

/-! ## A role for a user -/

/-- Where a client of the account without credentials finds the user. -/
def aliceUrl : Url :=
  ⟨['h', 't', 't', 'p'], some ⟨[], [], .name ['h'], none⟩, false,
    .segments (["api", "2.0", "accounts", "a", "scim", "v2", "Users", "1"].map (·.toList)), none, none⟩

/-- The user as the peer has it, with more than the client knows of. -/
def aliceFetched : Json :=
  .object [("id", .string "1"), ("userName", .string "alice"), ("externalId", .string "e"),
    ("roles", .array [.object [("value", .string "auditor"), ("display", .string "Auditor")]])]

def alice : User := ⟨"1", [], [], "alice", "", false, ⟨["auditor"], []⟩⟩

/-- The user with the role. -/
def adminAlice : User := { alice with permissions := ⟨["auditor", "account_admin"], []⟩ }

/-- The role of the account is granted to the user. -/
def adminGrant : PrincipalEdit :=
  .grantRole (.ofType .user "1")
    (.assignment (roleResource "account_admin" (.ofType .account "a")) Entitlement.member)

def aliceRead : Http.Request := Transport.requestAt aliceUrl none .get none

def aliceWrite : Http.Request := Transport.requestAt aliceUrl none .put (some adminAlice.toJson)

/-- The user is fetched. -/
def aliceFetch : List Event :=
  [⟨.send aliceRead, some (Transport.replyOf aliceFetched.toText)⟩, ⟨.now, ⟨0⟩⟩]

/-- The user is replaced. -/
def alicePut : Event := ⟨.send aliceWrite, some (Transport.replyOf "")⟩

theorem alice_reachable : Client.plain.resolver.resolveWith .users .account ["1"] = .ok aliceUrl ∧
    Transport.Sendable Client.plain.credentials .account aliceUrl aliceUrl none := by
  refine ⟨Client.ok_of_toOption ?_, rfl, Client.ok_of_toOption ?_, ?_, ?_⟩ <;> decide +kernel

theorem alice_body : Transport.readBody (Utf8.encode aliceFetched.toText.toList) = some aliceFetched :=
  Transport.readBody_object rfl

theorem alice_fetched : Client.plain.Fetched .users .account "1" aliceFetched aliceFetch := by
  obtain ⟨hurl, hsendable⟩ := alice_reachable
  refine ⟨aliceUrl, aliceRead, _, hurl, ⟨rfl, rfl, aliceUrl, hsendable.prepared, rfl⟩, List.mem_cons_self, ?_⟩
  simp [Transport.content?, Transport.replyOf, alice_body, Http.Status.isSuccess]

/-- Asked for the user, the peer may answer with any. -/
theorem user_get_does {text : String} {u : User}
    (hread : (Transport.readBody (Utf8.encode text.toList)).bind (User.read 0) = some u) :
    (Client.plain.getPrincipal .account .user "1").Does
      [⟨.send aliceRead, some (Transport.replyOf text)⟩, ⟨.now, ⟨0⟩⟩]
      (some (.ok (.user u, ⟨.unknown, none, none, none⟩))) := by
  obtain ⟨hurl, hsendable⟩ := alice_reachable
  exact Call.does_bind_pure.2 ⟨_, Client.exchange_does_read hurl hsendable hread ⟨0⟩, rfl⟩

theorem user_put_does {u : User} (hid : u.id = "1") : (Client.plain.putPrincipal .account (.user u)).Does
    [⟨.send (Transport.requestAt aliceUrl none .put (some u.toJson)), some (Transport.replyOf "")⟩, ⟨.now, ⟨0⟩⟩]
    (some (.ok ⟨.unknown, none, none, none⟩)) := by
  obtain ⟨hurl, hsendable⟩ := alice_reachable
  have hread : (Transport.readBody (Utf8.encode "".toList)).bind Transport.ignore = some () := rfl
  have hurl' : Client.plain.resolver.resolveWith .users .account [u.id] = .ok aliceUrl := hid ▸ hurl
  exact Call.does_bind_pure.2 ⟨_, Client.exchange_does_read hurl' hsendable hread ⟨0⟩, rfl⟩

/-- The role of the account is edited in what is found of the user, and that is replaced. -/
theorem user_change_does {edit : Principal → PermissionKind → String → Bool × Principal} {u u' : User}
    {xs ys : List Event} {rateLimit rateLimit' : Http.RateLimit}
    (hget : (Client.plain.getPrincipal .account .user "1").Does xs (some (.ok (.user u, rateLimit))))
    (hedit : edit (.user u) .role "account_admin" = (true, .user u'))
    (hput : (Client.plain.putPrincipal .account (.user u')).Does ys (some (.ok rateLimit'))) :
    (changeRole Client.plain (.ofType .user "1") (roleResource "account_admin" (.ofType .account "a")) edit).Does
      (xs ++ ys) (some (.ok ())) := by
  refine Call.does_ofExcept_bind.2 (.inr ⟨.user, rfl, ?_⟩)
  refine Call.does_ofExcept_bind.2 (.inr ⟨.account, rfl, ?_⟩)
  refine Call.does_ofExcept_bind.2 (.inr ⟨"account_admin", rfl, ?_⟩)
  refine Call.does_ofExcept_bind.2 (.inr ⟨"1", rfl, ?_⟩)
  refine Call.does_bind.2 (.inr (.inr ⟨_, _, _, rfl, hget, ?_⟩))
  have hkind : PermissionKind.ofScope .account = .role := rfl
  dsimp only
  rw [hkind, hedit]
  exact Call.does_bind_pure.2 ⟨_, hput, rfl⟩

theorem adminGrant_does :
    (adminGrant.call Client.plain).Does (aliceFetch ++ alicePut :: [⟨.now, ⟨0⟩⟩]) (some (.ok ())) := by
  have hread : (Transport.readBody (Utf8.encode aliceFetched.toText.toList)).bind (User.read 0) = some alice := by
    rw [alice_body]
    rfl
  exact user_change_does (user_get_does hread) rfl (user_put_does (show adminAlice.id = "1" from rfl))

/-- The grant of a role to a user of whom the peer knows more than the client. -/
theorem edit_spares_rest_of_alice :
    (adminGrant.call Client.plain).Does (aliceFetch ++ alicePut :: [⟨.now, ⟨0⟩⟩]) (some (.ok ())) ∧
      aliceWrite.method = .put ∧
      ∃ entry, adminGrant.entry? = some entry ∧ ReplacesSparing Client.plain entry aliceFetch aliceWrite :=
  ⟨adminGrant_does, rfl, edit_spares_rest adminGrant_does rfl rfl⟩

/-- After the grant, an attribute that the client knows nothing of is gone, one that was missing is there,
and the role that the user had has lost its name. -/
theorem grant_changes_more :
    (adminGrant.call Client.plain).Does (aliceFetch ++ alicePut :: [⟨.now, ⟨0⟩⟩]) (some (.ok ())) ∧
      Client.plain.Fetched .users .account "1" aliceFetched aliceFetch ∧
      aliceWrite.method = .put ∧ aliceWrite.body = .json adminAlice.toJson ∧
      aliceFetched.attribute? "externalId" = some (.string "e") ∧
      adminAlice.toJson.attribute? "externalId" = none ∧
      aliceFetched.attribute? "active" = none ∧
      adminAlice.toJson.attribute? "active" = some (.bool false) ∧
      aliceFetched.attribute? "roles" =
        some (.array [.object [("value", .string "auditor"), ("display", .string "Auditor")]]) ∧
      adminAlice.toJson.attribute? "roles" =
        some (.array [.object [("value", .string "auditor")], .object [("value", .string "account_admin")]]) :=
  ⟨adminGrant_does, alice_fetched, rfl, rfl, rfl, rfl, rfl, rfl, rfl, rfl⟩

end AccessSync.Sync
