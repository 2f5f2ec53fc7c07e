import AccessSync.Proofs.Sync.Atomicity
import AccessSync.Proofs.Sync.Provisioning
import AccessSync.Proofs.Sync.RoleWalk
/-!
# The permission of a role

The resource of a role has the name of its permission in its profile, and in its id behind that of the workspace.
Whoever lists the grants of the role reads the profile; whoever edits them reads the id, and the profile
only if that id has more colons than one or no name. Main statement: both find the name that the role was made
of, whatever stands in it, so that principals are searched for the permission that they are given
(`role_names_one_permission`).
-/

namespace AccessSync.Sync

variable {α : Type} {c : Client} {es : List Event} {parent : ResourceId} {role : String}

/-! ## The name in a role's resource -/

theorem text?_roleResource : (roleResource role parent).profile.text? roleNameKey = some role := by
  have hrequired := requireText_roleResource role parent
  unfold Resource.requireText at hrequired
  split at hrequired
  case h_1 value hvalue => rw [hvalue, Except.ok.inj hrequired]
  case h_2 => cases hrequired

/-- A name is found in the id of a workspace's role only if the id has one colon, and then it is that of the
role. -/
theorem eq_of_workspaceRoleName? {workspace name : String}
    (h : workspaceRoleName? (workspace ++ ":" ++ role) = some name) : name = role := by
  have hpieces : Text.splitOn ':' (workspace ++ ":" ++ role).toList =
      Text.splitOn ':' workspace.toList ++ Text.splitOn ':' role.toList := by
    have hid : (workspace ++ ":" ++ role).toList = workspace.toList ++ ':' :: role.toList := by simp
    rw [hid, Text.splitOn_append_sep]
  obtain ⟨front, fronts, hfront⟩ := List.exists_cons_of_ne_nil (Text.splitOn_ne_nil ':' workspace.toList)
  obtain ⟨back, backs, hback⟩ := List.exists_cons_of_ne_nil (Text.splitOn_ne_nil ':' role.toList)
  unfold workspaceRoleName? at h
  rw [hpieces, hfront, hback] at h
  split at h
  case h_1 first last hsplit =>
    -- The workspace and the role are at least one piece each, so they are one piece each.
    have hlength := congrArg List.length hsplit
    simp only [List.length_append, List.length_cons, List.length_nil] at hlength
    obtain rfl : fronts = [] := List.eq_nil_of_length_eq_zero (by omega)
    obtain rfl : backs = [] := List.eq_nil_of_length_eq_zero (by omega)
    obtain rfl : back = last := by simpa using (List.cons.inj hsplit).2
    split_ifs at h
    rw [← Option.some.inj h, Text.eq_of_splitOn_singleton hback, String.ofList_toList]
  case h_2 => cases h

/-- Under the account it is the id of the role, in a workspace the end of the id or what the profile says. -/
theorem permissionName_roleResource (role : String) (parent : ResourceId) :
    permissionName (roleResource role parent) (.ofParent (some parent)) = .ok role := by
  have hid : (roleResource role parent).id.resource =
      if parent.isA .workspace then parent.resource ++ ":" ++ role else role := rfl
  have haccount : Scope.account.isAccount = true := rfl
  have hworkspace : (Scope.workspace parent.resource).isAccount = false := rfl
  unfold permissionName
  rw [hid, text?_roleResource]
  by_cases hparent : parent.isA .workspace = true
  · simp only [Scope.ofParent, hparent, if_true, hworkspace, Bool.false_eq_true, if_false]
    cases hname : workspaceRoleName? (parent.resource ++ ":" ++ role) with
    | none => rfl
    | some name =>
      rw [eq_of_workspaceRoleName? hname]
      rfl
  · simp [Scope.ofParent, hparent, haccount]

/-! ## Who is searched for -/

/-- In the course of the events objects of a directory were listed in the scope, and there is a grant to each of
those that hold something, in their order. -/
def Searched (c : Client) (scope : Scope) (d : Directory α) (kind : PrincipalKind) (holds : α → Bool)
    (es : List Event) (grants : List Grant) : Prop :=
  ∃ terms listing, (c.list d scope terms).Yields es listing ∧
    List.Forall₂ (fun a g => GrantedTo c es g kind (d.id a)) (listing.items.filter holds) grants

/-- The grants are those of a page of the walk for that permission in that scope. -/
inductive Searches (c : Client) (scope : Scope) (name : String) (es : List Event) : List Grant → Prop
  | begins : Searches c scope name es []
  | users {grants : List Grant} :
      Searched c scope .users .user (fun u => u.permissions.contains (.ofScope scope) name) es grants →
      Searches c scope name es grants
  | groups {grants : List Grant} :
      Searched c scope .groups .group
        (fun g => g.isAccountGroup && g.permissions.contains (.ofScope scope) name) es grants →
      Searches c scope name es grants
  | servicePrincipals {grants : List Grant} :
      Searched c scope .servicePrincipals .servicePrincipal
        (fun s => s.permissions.contains (.ofScope scope) name) es grants →
      Searches c scope name es grants

theorem searches_of_walk {resource : Resource} {scope : Scope} {name : String} {place : Place}
    {x : List Grant × PageStack} (h : (walk c resource scope name place).Does es (some (.ok x))) :
    Searches c scope name es x.1 := by
  unfold walk at h
  dsimp only at h
  split at h
  · obtain ⟨-, rfl⟩ := Call.does_pure_ok.1 h
    exact .begins
  · obtain ⟨listing, hlisting, hgrants⟩ := granted_of_page h
    exact .users ⟨_, listing, hlisting, hgrants⟩
  · obtain ⟨listing, hlisting, hgrants⟩ := granted_of_page h
    exact .groups ⟨_, listing, hlisting, hgrants⟩
  · obtain ⟨listing, hlisting, hgrants⟩ := granted_of_page h
    exact .servicePrincipals ⟨_, listing, hlisting, hgrants⟩
  · cases (Call.does_fail.1 h).2

theorem searches_of_roleGrants {token : String} {page : SyncPage Grant}
    (h : (roleGrants c (roleResource role parent) token).Does es (some (.ok page))) :
    Searches c (.ofParent (some parent)) role es page.items := by
  obtain ⟨scope, hscope, h⟩ := Call.does_ofExcept_bind_ok.1 h
  obtain ⟨name, hname, h⟩ := Call.does_ofExcept_bind_ok.1 h
  obtain rfl := Except.ok.inj ((scope_roleResource role parent).symm.trans hscope)
  obtain rfl := Except.ok.inj ((requireText_roleResource role parent).symm.trans hname)
  obtain ⟨place, -, h⟩ := Call.does_ofExcept_bind_ok.1 h
  obtain ⟨⟨grants, stack⟩, walked, last, rfl, hwalk, h⟩ := Call.does_bind_ok.1 h
  obtain ⟨rfl, rfl⟩ := Call.does_pure_ok.1 h
  rw [List.append_nil]
  exact searches_of_walk hwalk

/-! ## What is edited -/

/-- The course of an edit that gives or takes a permission in a scope: the principal of that kind and id is
fetched, and replaced if the edit has changed it. -/
inductive Changes (c : Client) (x : Edit) (scope : Scope) (kind : PrincipalKind) (id name : String) :
    List Event → Option (Except Halt Unit) → Prop
  | unfetched {es : List Event} {r : Option (Except Halt (Principal × Http.RateLimit))} :
      (c.getPrincipal scope kind id).Does es r → (∀ found, r ≠ some (.ok found)) →
      Changes c x scope kind id name es (r.map (·.map fun _ => ()))
  | idle {es : List Event} {p : Principal} {rateLimit : Http.RateLimit} :
      (c.getPrincipal scope kind id).Does es (some (.ok (p, rateLimit))) →
      (x.ofPermissions p (.ofScope scope) name).1 = false →
      Changes c x scope kind id name es (some (.ok ()))
  | replaced {xs ys : List Event} {p : Principal} {rateLimit : Http.RateLimit}
      {r : Option (Except Halt Http.RateLimit)} :
      (c.getPrincipal scope kind id).Does xs (some (.ok (p, rateLimit))) →
      (x.ofPermissions p (.ofScope scope) name).1 = true →
      (c.putPrincipal scope (x.ofPermissions p (.ofScope scope) name).2).Does ys r →
      Changes c x scope kind id name (xs ++ ys) (r.map (·.map fun _ => ()))

variable {x : Edit} {kind : PrincipalKind} {id : String} {r : Option (Except Halt Unit)}

/-- An edit of a role goes on with the principal that it is for, by the permission of the role. -/
theorem roleEdit_eq (hx : x.entitlement.resource = roleResource role parent) (hleads : x.principal.LeadsTo kind id)
    (c : Client) : x.call (roles c) = c.getPrincipal (.ofParent (some parent)) kind id >>= fun found =>
      match x.ofPermissions found.1 (.ofScope (.ofParent (some parent))) role with
      | (false, _) => pure ()
      | (true, target) => c.putPrincipal (.ofParent (some parent)) target >>= fun _ => pure () := by
  change x.call (c.adapterOf [] .role) = _
  rw [call_of_leadsTo hleads .role, Edit.callFor, hx, scope_roleResource]
  change (Call.ofExcept _ (permissionName _ _) >>= _) = _
  rw [permissionName_roleResource]
  rfl

theorem does_roleEdit (hx : x.entitlement.resource = roleResource role parent) (hleads : x.principal.LeadsTo kind id) :
    (x.call (roles c)).Does es r ↔ Changes c x (.ofParent (some parent)) kind id role es r := by
  rw [roleEdit_eq hx hleads]
  constructor
  · intro h
    rcases Call.does_bind.1 h with ⟨hget, rfl⟩ | ⟨halt, hget, rfl⟩ | ⟨⟨p, rateLimit⟩, xs, ys, rfl, hget, hys⟩
    · exact .unfetched hget nofun
    · exact .unfetched hget nofun
    dsimp only at hys
    split at hys
    · rename_i hedit
      obtain ⟨rfl, rfl⟩ := Call.does_pure.1 hys
      rw [List.append_nil]
      exact .idle hget (by rw [hedit])
    · rename_i target hedit
      obtain ⟨r', hput, rfl⟩ := Call.does_bind_pure.1 hys
      exact .replaced hget (by rw [hedit]) (by rwa [hedit])
  · intro h
    cases h with
    | @unfetched _ r hget hno =>
      rcases r with _ | halt | found
      · exact Call.does_bind.2 (.inl ⟨hget, rfl⟩)
      · exact Call.does_bind.2 (.inr (.inl ⟨halt, hget, rfl⟩))
      · exact absurd rfl (hno found)
    | idle hget hsame =>
      refine Call.does_bind.2 (.inr (.inr ⟨_, _, [], by simp, hget, ?_⟩))
      dsimp only
      split
      · exact Call.does_pure.2 ⟨rfl, rfl⟩
      · rename_i hedit
        rw [hedit] at hsame
        cases hsame
    | replaced hget hchanged hput =>
      refine Call.does_bind.2 (.inr (.inr ⟨_, _, _, rfl, hget, ?_⟩))
      dsimp only
      split
      · rename_i hedit
        rw [hedit] at hchanged
        cases hchanged
      · rename_i hedit
        rw [hedit] at hput
        exact Call.does_bind_pure.2 ⟨_, hput, rfl⟩

/-- An edit for what is no principal fails at once. -/
theorem does_roleEdit_of_not_leads (hleads : ∀ kind id, ¬x.principal.LeadsTo kind id)
    (h : (x.call (roles c)).Does es r) : es = [] ∧ ∃ e, r = some (.error (.error e)) := by
  rw [Edit.call_roles] at h
  unfold changeRole at h
  rcases Call.does_ofExcept_bind.1 h with ⟨fault, -, rfl, rfl⟩ | ⟨kind, hkind, h⟩
  · exact ⟨rfl, _, rfl⟩
  rcases Call.does_ofExcept_bind.1 h with ⟨fault, -, rfl, rfl⟩ | ⟨scope, -, h⟩
  · exact ⟨rfl, _, rfl⟩
  rcases Call.does_ofExcept_bind.1 h with ⟨fault, -, rfl, rfl⟩ | ⟨name, -, h⟩
  · exact ⟨rfl, _, rfl⟩
  rcases Call.does_ofExcept_bind.1 h with ⟨fault, -, rfl, rfl⟩ | ⟨id, hid, h⟩
  · exact ⟨rfl, _, rfl⟩
  exact absurd ⟨ResourceId.requirePrincipal_of_kind (principalKind?_of_require hkind), hid⟩ (hleads kind id)

/-! ## Both together -/

/-- Whatever stands in the name of a role and in the id of its parent: the role's resource tells the scope of the
parent, and its profile and its id tell the name. Whoever lists the grants of the role searches in that scope
for those that hold the permission of that name, and whoever edits them gives or takes that permission there. -/
theorem role_names_one_permission (c : Client) (role : String) (parent : ResourceId) :
    (roleResource role parent).scope =
      .ok (if parent.isA .workspace then .workspace parent.resource else .account) ∧
    (roleResource role parent).requireText roleNameKey = .ok role ∧
    ∀ scope, (roleResource role parent).scope = .ok scope →
      permissionName (roleResource role parent) scope = .ok role ∧
      (∀ token es page, ((roles c).grants (roleResource role parent) token).Does es (some (.ok page)) →
        Searches c scope role es page.items) ∧
      ∀ x : Edit, x.entitlement.resource = roleResource role parent →
        (∀ kind id, x.principal.LeadsTo kind id → ∀ es r,
          (x.call (roles c)).Does es r ↔ Changes c x scope kind id role es r) ∧
        ((∀ kind id, ¬x.principal.LeadsTo kind id) → ∀ es r,
          (x.call (roles c)).Does es r → es = [] ∧ ∃ e, r = some (.error (.error e))) := by
  refine ⟨scope_roleResource role parent, requireText_roleResource role parent, fun scope hscope => ?_⟩
  obtain rfl := Except.ok.inj ((scope_roleResource role parent).symm.trans hscope)
  refine ⟨permissionName_roleResource role parent, fun _ _ _ h => searches_of_roleGrants h, fun x hx => ?_⟩
  exact ⟨fun _ _ hleads _ _ => does_roleEdit hx hleads, fun hleads _ _ h => does_roleEdit_of_not_leads hleads h⟩

/-- A name with a colon, in a workspace with one, is found on both ways. The page of the library's administrators
has the group that is one, and the user who becomes one is given that role of the account. -/
theorem role_names_one_permission_with_colons :
    (roleResource "a:b" (.ofType .workspace "w:x")).scope = .ok (.workspace "w:x") ∧
    permissionName (roleResource "a:b" (.ofType .workspace "w:x")) (.workspace "w:x") = .ok "a:b" ∧
    (∃ es page, (libraryGrants.call Client.plain []).Does es (some (.ok page)) ∧
      page.items.map (·.principal) = [.ofType .group "account/a/group/4"] ∧
      Searches Client.plain .account "account_admin" es page.items) ∧
    ∃ x : Edit, x.isGrant = true ∧ x.principal.LeadsTo .user "1" ∧
      Changes Client.plain x .account .user "1" "account_admin" (aliceFetch ++ alicePut :: [⟨.now, ⟨0⟩⟩])
        (some (.ok ())) := by
  obtain ⟨hscope, -, hname⟩ := role_names_one_permission Client.plain "a:b" (.ofType .workspace "w:x")
  obtain ⟨-, -, hadmin⟩ := role_names_one_permission Client.plain "account_admin" libraryAccount
  obtain ⟨-, hsearches, hchanges⟩ := hadmin .account (scope_roleResource "account_admin" libraryAccount)
  refine ⟨hscope, (hname _ hscope).1, ?_, ?_⟩
  · obtain ⟨_, page, _, -, -, hgrants, hprincipals⟩ := library_lists
    obtain ⟨es, hdoes, -⟩ := hgrants.does
    exact ⟨es, page, hdoes, hprincipals, hsearches _ es page hdoes⟩
  · refine ⟨.grant (.ofType .user "1") (.assignment (roleResource "account_admin" libraryAccount) Entitlement.member),
      rfl, ⟨fun _ => rfl, rfl⟩, ?_⟩
    exact ((hchanges _ rfl).1 .user "1" ⟨fun _ => rfl, rfl⟩ _ _).1 adminGrant_does

end AccessSync.Sync
