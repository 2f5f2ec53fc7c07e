import AccessSync.Proofs.Client.Writing
import AccessSync.Proofs.Rule.Grant
import AccessSync.Proofs.Sync.Operations
import AccessSync.Proofs.Sync.Replacement
/-!
# Grants and revocations are single writes

A `Seat` is where the APIs keep that a principal has an entitlement. Every grant and every revocation
reads first and writes its seat with one request at most, which is its last (`edit_writes_once`). Where
it writes nothing and does not fail, what it has read shows the seat as it was asked for.
-/

namespace AccessSync.Sync

variable {c : Client} {es : List Event} {x : Edit}

/-! ## What needs no change -/

theorem grants_of_ofRules {role : RoleMatch} {newRole : String} {p : PrincipalName} {rules : List Rule}
    (h : (x.ofRules role newRole p rules).1 = false) : rules.any (·.grants role p) = x.isGrant := by
  cases x with
  | grant principal e =>
    obtain ⟨r, hr, hgrants⟩ : ∃ r ∈ rules, r.grants role p = true := by
      by_contra hnone
      have hfree : ∀ r ∈ rules, r.grants role p = false := by
        intro r hr
        rw [← Bool.not_eq_true]
        exact fun hgrants => hnone ⟨r, hr, hgrants⟩
      rw [Edit.ofRules, Rule.grant_fst_eq_true_iff.2 hfree] at h
      cases h
    exact List.any_eq_true.2 ⟨r, hr, hgrants⟩
  | revoke g =>
    have hnone := Rule.revoke_fst_eq_false_iff.1 h
    simpa [Edit.isGrant] using hnone

theorem hasMember_of_ofMembers {id : String} {g : Group} (h : (x.ofMembers id g).1 = false) :
    g.hasMember id = x.isGrant := by
  cases x with
  | grant principal e =>
    unfold Edit.ofMembers Group.addMember at h
    split_ifs at h with hmember
    exact hmember
  | revoke g' => exact h

theorem contains_of_ofPermissions {p : Principal} {kind : PermissionKind} {value : String}
    (h : (x.ofPermissions p kind value).1 = false) : p.permissions.contains kind value = x.isGrant := by
  cases x with
  | grant principal e =>
    unfold Edit.ofPermissions Principal.addPermission Permissions.add at h
    split_ifs at h with hheld
    exact hheld
  | revoke g =>
    unfold Edit.ofPermissions Principal.removePermission Permissions.remove at h
    split_ifs at h with hheld
    simpa [Edit.isGrant] using hheld

/-! ## Seats -/

/-- Where it is kept that a principal has an entitlement. -/
inductive Seat where
  /-- In rules of such roles on a target, under the natural key of the principal with that id. -/
  | rule (scope : Scope) (target : AccessTarget) (role : RoleMatch) (kind : PrincipalKind) (id : String)
  /-- Among the members of a group. -/
  | member (scope : Scope) (groupId memberId : String)
  /-- Among the permissions of the principal. -/
  | permission (scope : Scope) (kind : PrincipalKind) (id : String) (list : PermissionKind) (value : String)
  /-- In an assignment to a workspace. -/
  | assignment (workspace : Int64) (principalId : String)

namespace Seat

/-- The seat that the adapter of a type keeps an entitlement of a principal in. -/
def of : ResourceType → ResourceId → Entitlement → Option Seat
  | .account, principal, e => do
    return .rule .account .account (.containing e.slug) (← principal.principalKind?)
      (← principal.platformId.toOption)
  | .workspace, principal, e => do
    return .assignment (← (workspaceId e.resource).toOption) (← principal.platformId.toOption)
  | .user, _, _ => none
  | .group, principal, e => do
    let (parent, groupId) ← (groupOf e.resource).toOption
    let id ← principal.platformId.toOption
    if e.slug = Entitlement.member then return .member (.ofParent parent) groupId id
    else
      return .rule (.ofParent parent) (groupTarget groupId) (.exact e.slug) (← principal.principalKind?) id
  | .servicePrincipal, principal, e => do
    let (scope, target) ← (servicePrincipalTarget e.resource).toOption
    return .rule scope target (.exact e.slug) (← principal.principalKind?) (← principal.platformId.toOption)
  | .role, principal, e => do
    let scope ← e.resource.scope.toOption
    return .permission scope (← principal.principalKind?) (← principal.platformId.toOption) (.ofScope scope)
      (← (permissionName e.resource scope).toOption)

/-- What was read in these events shows that the principal has the entitlement, or that it has not. An
assignment is never read. -/
def Shows (c : Client) (es : List Event) (held : Bool) : Seat → Prop
  | .rule scope target role kind id => ∃ key rules, c.FoundKey scope kind id key es ∧
      c.FoundRules target rules es ∧ rules.any (·.grants role ⟨kind, key⟩) = held
  | .member scope groupId memberId => ∃ v g, c.Fetched .groups scope groupId v es ∧
      Group.read 0 v = some g ∧ g.hasMember memberId = held
  | .permission scope kind id list value => ∃ v p, c.Fetched kind.endpoint scope id v es ∧
      Principal.read v kind = some p ∧ p.permissions.contains list value = held
  | .assignment .. => False

end Seat

namespace Edit

/-- The entitlement is kept in rules. -/
def isKeptInRules (x : Edit) : ResourceType → Bool
  | .account | .servicePrincipal => true
  | .group => x.entitlement.slug ≠ Entitlement.member
  | .workspace | .user | .role => false

/-- How the reply to the write is read: with rules or anything else. -/
def readReply (t : ResourceType) (x : Edit) : Json → Option Unit :=
  if x.isKeptInRules t then Transport.readable (Json.nullable? Client.readRuleSet)
  else Transport.readable Transport.ignore

/-- What was read shows the seat as it was asked for. -/
def Settled (c : Client) (t : ResourceType) (x : Edit) (es : List Event) : Prop :=
  ∃ seat, Seat.of t x.principal x.entitlement = some seat ∧ seat.Shows c es x.isGrant

end Edit

/-! ## The ways to write -/

theorem principalKind?_of_require {principal : ResourceId} {right : String} {kind : PrincipalKind}
    (h : principal.requirePrincipal right = .ok kind) : principal.principalKind? = some kind := by
  unfold ResourceId.requirePrincipal at h
  split at h <;> cases h
  assumption

/-- An edit of rules looks up the natural key of the principal and then edits under it. -/
theorem ruleEdit_writesOnce {scope : Scope} {target : AccessTarget} {role : RoleMatch} {newRole : String}
    {r : Option (Except Halt Unit)}
    (h : (do
      let p ← c.nameOfResource scope x.principal
      let _ ← c.editRules scope target (x.ofRules role newRole p) : Call Unit).Does es r) :
    WritesOnce c.credentials (Transport.readable (Json.nullable? Client.readRuleSet))
      (fun zs => ∃ kind id, x.principal.principalKind? = some kind ∧ x.principal.platformId = .ok id ∧
        (Seat.rule scope target role kind id).Shows c zs x.isGrant) es r := by
  unfold Client.nameOfResource at h
  simp only [bind_assoc] at h
  refine writesOnce_ofExcept ?_ h
  intro kind hkind h
  refine writesOnce_ofExcept ?_ h
  intro id hid h
  refine writesOnce_after Client.reads_nameOfId.sends ?_ h
  intro p xs ys hname hys
  obtain ⟨rfl, hkey⟩ := Client.found_of_nameOfId hname
  obtain ⟨r', hedit, rfl⟩ := Call.does_bind_pure.1 hys
  refine ((Client.editRules_writesOnce hedit).map _).imp ?_
  rintro ⟨rules, hrules, hsame⟩
  exact ⟨p.kind, id, principalKind?_of_require hkind, hid, p.key, rules,
    hkey.mono (List.subset_append_left xs ys), hrules.mono (List.subset_append_right xs ys),
    grants_of_ofRules hsame⟩

theorem changeGroup_writesOnce {r : Option (Except Halt Unit)}
    (h : (x.call (groups c)).Does es r) :
    WritesOnce c.credentials (x.readReply .group) (x.Settled c .group) es r := by
  rw [Edit.call_groups] at h
  unfold changeGroup at h
  refine writesOnce_ofExcept ?_ h
  intro kind hkind h
  refine writesOnce_ofExcept ?_ h
  rintro ⟨parent, groupId⟩ hgroup h
  dsimp only at h
  split_ifs at h with hmember
  · have hreply : x.readReply .group = Transport.readable Transport.ignore := by
      simp [Edit.readReply, Edit.isKeptInRules, hmember]
    rw [hreply]
    refine writesOnce_ofExcept ?_ h
    intro id hid h
    have hedit := writesOnce_edit (x.ofMembers id) (c.put .groups (.ofParent parent)) () ()
      Client.reads_get.sends (fun _ _ _ => Client.put_writesOnce) (by
        intro g rateLimit
        dsimp only
        rcases x.ofMembers id g with ⟨_ | _, g'⟩ <;> rfl) h
    refine hedit.imp ?_
    rintro ⟨g, rateLimit, hget, hsame⟩
    obtain ⟨v, hv, hread⟩ := Client.fetched_of_get hget
    refine ⟨.member (.ofParent parent) groupId id, ?_, v, g, hv, hread, hasMember_of_ofMembers hsame⟩
    simp [Seat.of, hgroup, hid, hmember, Except.toOption]
  · have hreply : x.readReply .group = Transport.readable (Json.nullable? Client.readRuleSet) := by
      simp [Edit.readReply, Edit.isKeptInRules, hmember]
    rw [hreply]
    refine (ruleEdit_writesOnce h).imp ?_
    rintro ⟨kind, id, hkind, hid, hshows⟩
    refine ⟨_, ?_, hshows⟩
    simp [Seat.of, hgroup, hid, hmember, hkind, Except.toOption]

theorem changeServicePrincipal_writesOnce {r : Option (Except Halt Unit)}
    (h : (x.call (servicePrincipals c)).Does es r) :
    WritesOnce c.credentials (x.readReply .servicePrincipal) (x.Settled c .servicePrincipal) es r := by
  rw [Edit.call_servicePrincipals] at h
  unfold changeServicePrincipal at h
  refine writesOnce_ofExcept ?_ h
  intro kind hkind h
  refine writesOnce_ofExcept ?_ h
  rintro ⟨scope, target⟩ htarget h
  refine (ruleEdit_writesOnce h).imp ?_
  rintro ⟨kind, id, hkind, hid, hshows⟩
  refine ⟨_, ?_, hshows⟩
  simp [Seat.of, htarget, hid, hkind, Except.toOption]

theorem changeRole_writesOnce {r : Option (Except Halt Unit)}
    (h : (x.call (roles c)).Does es r) :
    WritesOnce c.credentials (x.readReply .role) (x.Settled c .role) es r := by
  rw [Edit.call_roles] at h
  unfold changeRole at h
  refine writesOnce_ofExcept ?_ h
  intro kind hkind h
  refine writesOnce_ofExcept ?_ h
  intro scope hscope h
  refine writesOnce_ofExcept ?_ h
  intro name hname h
  refine writesOnce_ofExcept ?_ h
  intro id hid h
  have hedit := writesOnce_edit (fun p => x.ofPermissions p (.ofScope scope) name) (c.putPrincipal scope) () ()
    Client.reads_getPrincipal.sends (fun _ _ _ => Client.putPrincipal_writesOnce) (by
      intro p rateLimit
      dsimp only
      rcases x.ofPermissions p (.ofScope scope) name with ⟨_ | _, p'⟩ <;> rfl) h
  refine hedit.imp ?_
  rintro ⟨p, rateLimit, hget, hsame⟩
  obtain ⟨v, hv, hread⟩ := (Client.get_of_getPrincipal hget).2 p rateLimit rfl
  refine ⟨.permission scope kind id (.ofScope scope) name, ?_, v, p, hv, hread, contains_of_ofPermissions hsame⟩
  simp [Seat.of, hscope, hname, hid, principalKind?_of_require hkind, Except.toOption]

theorem changeWorkspace_writesOnce {allowed : List String} {r : Option (Except Halt Unit)}
    (h : (x.call (workspaces c allowed)).Does es r) :
    WritesOnce c.credentials (x.readReply .workspace) (x.Settled c .workspace) es r := by
  rw [Edit.call_workspaces] at h
  unfold changeWorkspace at h
  refine writesOnce_ofExcept ?_ h
  intro kind hkind h
  refine writesOnce_ofExcept ?_ h
  intro workspace hworkspace h
  refine writesOnce_ofExcept ?_ h
  intro id hid h
  obtain ⟨r', hput, rfl⟩ := Call.does_bind_pure.1 h
  exact ((Client.putAssignment_writesOnce hput).map _).imp fun hno => hno.elim

/-- A grant or a revocation sends GETs and requests for tokens, then one PUT at most, and no request
after that. If it sent the PUT, it ends as that did. If it did not, it fails or what it has read shows
the seat as it was asked for. -/
theorem edit_writes_once {t : ResourceType} {allowed : List String} {r : Option (Except Halt Unit)}
    (h : (x.call (c.adapterOf allowed t)).Does es r) :
    WritesOnce c.credentials (x.readReply t) (x.Settled c t) es r := by
  cases t with
  | account =>
    rw [Client.adapterOf, Edit.call_account] at h
    refine (ruleEdit_writesOnce h).imp ?_
    rintro ⟨kind, id, hkind, hid, hshows⟩
    refine ⟨_, ?_, hshows⟩
    simp [Seat.of, hid, hkind, Except.toOption]
  | workspace => exact changeWorkspace_writesOnce h
  | user =>
    refine WritesOnce.of_reads ?_ ?_ <;> cases x <;> obtain ⟨rfl, rfl⟩ := Call.does_fail.1 h <;> simp
  | group => exact changeGroup_writesOnce h
  | servicePrincipal => exact changeServicePrincipal_writesOnce h
  | role => exact changeRole_writesOnce h

/-- The role of the account is granted to the user. -/
def adminEdit : Edit :=
  .grant (.ofType .user "1")
    (.assignment (roleResource "account_admin" (.ofType .account "a")) Entitlement.member)

/-- The grant of a role that the user did not have sends its PUT behind one GET. -/
theorem edit_writes_once_for_alice :
    (adminEdit.call (Client.plain.adapterOf [] .role)).Does (aliceFetch ++ alicePut :: [⟨.now, ⟨0⟩⟩])
      (some (.ok ())) ∧
    WritesOnce Client.plain.credentials (adminEdit.readReply .role) (adminEdit.Settled Client.plain .role)
      (aliceFetch ++ alicePut :: [⟨.now, ⟨0⟩⟩]) (some (.ok ())) := by
  have hdoes : (adminEdit.call (Client.plain.adapterOf [] .role)).Does
      (aliceFetch ++ alicePut :: [⟨.now, ⟨0⟩⟩]) (some (.ok ())) := adminGrant_does
  exact ⟨hdoes, edit_writes_once hdoes⟩

end AccessSync.Sync
