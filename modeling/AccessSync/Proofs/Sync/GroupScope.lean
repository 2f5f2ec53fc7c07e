import AccessSync.Proofs.Client.Scoping
import AccessSync.Proofs.Sync.Transparency
/-!
# Where a group is

The resource of a group tells twice under which parent the group is: by its own parent and by the path that is
its id. Reading goes by the parent, editing by the path. They tell the same where the path can be read, which
is exactly where no id holds a slash; so all that is done about a group is done in one scope and for one
group (`SeesTo`): `group_paths_are_exact`.
-/

namespace AccessSync.Sync

variable {α β : Type} {c : Client} {scope : Scope} {groupId : String}

/-! ## Calls about one group -/

/-- The call is put together of pieces that see to the group of that id in that scope: its roles, its rules and
its members. Besides, principals are looked up in the scope. -/
inductive SeesTo (c : Client) (scope : Scope) (groupId : String) : {α : Type} → Call α → Prop
  | pure {α : Type} (a : α) : SeesTo c scope groupId (Pure.pure a)
  | fail {α : Type} (e : Error) : SeesTo c scope groupId (Call.fail e : Call α)
  | roles : SeesTo c scope groupId (c.listRoles scope (groupTarget groupId))
  | rules : SeesTo c scope groupId (c.listRules scope (groupTarget groupId))
  | editRules (edit : List Rule → Bool × List Rule) :
      SeesTo c scope groupId (c.editRules scope (groupTarget groupId) edit)
  | editMembers (edit : Group → Bool × Group) : SeesTo c scope groupId (editGroup c scope groupId edit)
  | name (kind : PrincipalKind) (id : String) : SeesTo c scope groupId (c.nameOfId scope kind id)
  | id (p : PrincipalName) : SeesTo c scope groupId (c.idOfName scope p)
  | holder (kind : PrincipalKind) (id : String) : SeesTo c scope groupId (c.holder kind id)
  | bind {α β : Type} {x : Call α} {f : α → Call β} :
      SeesTo c scope groupId x → (∀ a, SeesTo c scope groupId (f a)) → SeesTo c scope groupId (x >>= f)

theorem scoped_editGroup {edit : Group → Bool × Group} : c.Scoped scope false (editGroup c scope groupId edit) := by
  refine .asking Client.scoped_get fun x => ?_
  dsimp only
  split
  · exact .pure _
  · exact .asking Client.scoped_put fun _ => .pure _

theorem scoped_holder {kind : PrincipalKind} {id : String} : c.Scoped scope false (c.holder kind id) := by
  cases kind with
  | user => exact .pure _
  | group => exact .behind (.perform trivial) fun _ => .pure _
  | servicePrincipal => exact .pure _

theorem SeesTo.scoped {x : Call α} (h : SeesTo c scope groupId x) : c.Scoped scope false x := by
  induction h with
  | pure a => exact .pure a
  | fail e => exact .fail e
  | roles => exact Client.scoped_listRoles
  | rules => exact Client.scoped_listRules
  | editRules => exact Client.scoped_editRules
  | editMembers => exact scoped_editGroup
  | name => exact Client.scoped_nameOfId
  | id => exact Client.scoped_idOfName
  | holder => exact scoped_holder
  | bind _ _ ihx ihf => exact .behind ihx ihf

theorem seesTo_ofExcept_bind {ε : Type} {error : ε → Error} {v : Except ε α} {f : α → Call β}
    (h : ∀ a, v = .ok a → SeesTo c scope groupId (f a)) :
    SeesTo c scope groupId (Call.ofExcept error v >>= f) := by
  cases v with
  | ok a => exact h a rfl
  | error fault => exact .fail _

theorem seesTo_mapM {f : α → Call β} (h : ∀ a, SeesTo c scope groupId (f a)) (xs : List α) :
    SeesTo c scope groupId (xs.mapM f) := by
  induction xs with
  | nil => exact .pure []
  | cons a xs ih =>
    rw [List.mapM_cons]
    exact .bind (h a) fun _ => .bind ih fun _ => .pure _

theorem seesTo_nameOfResource {r : ResourceId} : SeesTo c scope groupId (c.nameOfResource scope r) :=
  seesTo_ofExcept_bind fun _ _ => seesTo_ofExcept_bind fun _ _ => .name _ _

theorem seesTo_entryGrants {resource : Resource} {entries : List (String × String)} :
    SeesTo c scope groupId (c.entryGrants scope resource entries) := by
  refine seesTo_mapM (fun x => .bind ?_ fun _ => .pure _) entries
  exact seesTo_ofExcept_bind fun _ _ => .bind (.id _) fun _ => .holder _ _

theorem seesTo_memberGrants {resource : Resource} : SeesTo c scope groupId (memberGrants c resource) :=
  seesTo_mapM (fun _ => seesTo_ofExcept_bind fun _ _ => .bind (.holder _ _) fun _ => .pure _) _

/-! ## Operations on a group -/

/-- It is asked what can be granted on the group or what has been, or something is granted on it or revoked. -/
inductive Operation.IsOn (group : Resource) : Operation → Prop
  | entitlements (token : String) : IsOn group (.entitlements .group group token)
  | grants (token : String) : IsOn group (.grants .group group token)
  | edit {x : Edit} : x.entitlement.resource = group → IsOn group (.edit .group x)

/-- A group whose path tells its parent is seen to in the scope of the parent, whatever is done on it. -/
theorem Operation.IsOn.seesTo {group : Resource} {op : Operation} (hop : op.IsOn group)
    (hgroup : groupOf group = .ok (group.parent, groupId)) (c : Client) (allowed : List String) :
    SeesTo c (.ofParent group.parent) groupId (op.call c allowed) := by
  cases hop with
  | entitlements token =>
    refine seesTo_ofExcept_bind fun found hfound => ?_
    obtain rfl := Except.ok.inj (hgroup.symm.trans hfound)
    exact .bind .roles fun _ => .pure _
  | grants token =>
    refine seesTo_ofExcept_bind fun found hfound => ?_
    obtain rfl := Except.ok.inj (hgroup.symm.trans hfound)
    refine .bind seesTo_memberGrants fun _ => .bind .rules fun _ => ?_
    exact .bind seesTo_entryGrants fun _ => .pure _
  | @edit x hx =>
    rw [call, Client.adapterOf, Edit.call_groups]
    refine seesTo_ofExcept_bind fun _ _ => seesTo_ofExcept_bind fun found hfound => ?_
    rw [hx, hgroup] at hfound
    obtain rfl := Except.ok.inj hfound
    dsimp only
    split_ifs
    · exact seesTo_ofExcept_bind fun _ _ => .editMembers _
    · exact .bind seesTo_nameOfResource fun _ => .bind (.editRules _) fun _ => .pure _

/-- The path of a group's resource tells what its parent is, if it can be read. -/
theorem groupOf_of_plain {g : Group} {parent : ResourceId} (hid : '/' ∉ g.id.toList) (hparent : parent.IsPlain) :
    groupOf (groupResource g parent) = .ok ((groupResource g parent).parent, g.id) := by
  have hpath : ResourceId.ofPath (groupResource g parent).id.resource = .ok (some parent, .ofType .group g.id) := by
    rw [id_groupResource]
    exact (ResourceId.ofPath_groupPath_iff g.id (some parent)).2 ⟨hid, by simpa using hparent⟩
  rw [groupOf, hpath, parent_groupResource]
  rfl

/-- The path of a group is read as the group under its parent exactly if none of their ids holds a slash, and
whatever is read as the path of a group is written as it was. Without slashes the path of a group that
is listed tells the parent that its resource has, and so reading and editing go to the same group in the
same scope. -/
theorem group_paths_are_exact :
    (∀ (groupId : String) (above : Option ResourceId),
      ResourceId.ofPath (ResourceId.groupPath groupId above) = .ok (above, .ofType .group groupId) ↔
        '/' ∉ groupId.toList ∧ ∀ p ∈ above, p.IsPlain) ∧
    (∀ (path : String) (above : Option ResourceId) (r : ResourceId),
      ResourceId.ofPath path = .ok (above, r) → r.isA .group = true →
        ResourceId.groupPath r.resource above = path) ∧
    (∀ {σ : Type} (w : World σ) (c : Client) (parent : Option ResourceId) (token : String) (st st' : Memory × σ)
      (page : SyncPage Resource), w.Ends ((groups c).list parent token) st (.ok page) st' →
        ∀ listed ∈ page.items, ∃ g p, parent = some p ∧ listed = groupResource g p) ∧
    ∀ (g : Group) (parent : ResourceId), '/' ∉ g.id.toList → parent.IsPlain →
      groupOf (groupResource g parent) = .ok ((groupResource g parent).parent, g.id) ∧
      ∀ (c : Client) (allowed : List String) (op : Operation), op.IsOn (groupResource g parent) →
        SeesTo c (.ofParent (groupResource g parent).parent) g.id (op.call c allowed) ∧
        c.SendsIn (· = .ofParent (some parent)) (op.call c allowed) := by
  refine ⟨ResourceId.ofPath_groupPath_iff, fun _ _ _ => ResourceId.groupPath_of_ofPath, ?_, ?_⟩
  · intro σ w c parent token st st' page hends listed hlisted
    exact mem_listGroups hends hlisted
  · intro g parent hid hparent
    have hgroup := groupOf_of_plain hid hparent
    refine ⟨hgroup, fun c allowed op hop => ?_⟩
    have hsees := hop.seesTo hgroup c allowed
    refine ⟨hsees, ?_⟩
    rw [parent_groupResource] at hsees
    exact hsees.scoped.sendsIn

/-- The engineers of a workspace are seen to in that workspace. -/
theorem group_paths_are_exact_in_workspace :
    let parent := ResourceId.ofType .workspace "w"
    let engineers := groupResource ⟨"4", "engineers", [], "WorkspaceGroup", [], ⟨[], []⟩⟩ parent
    ResourceId.ofPath "workspace/w/group/4" = .ok (some parent, .ofType .group "4") ∧
    ResourceId.groupPath "4" (some parent) = "workspace/w/group/4" ∧
    groupOf engineers = .ok (engineers.parent, "4") ∧
    SeesTo Client.plain (.workspace "w") "4" ((Operation.grants .group engineers "").call Client.plain []) := by
  intro parent engineers
  obtain ⟨hread, hwritten, -, hseen⟩ := group_paths_are_exact
  have hparent : parent.IsPlain := ⟨by decide, by decide⟩
  have hpath : ResourceId.ofPath (ResourceId.groupPath "4" (some parent)) = .ok (some parent, .ofType .group "4") :=
    (hread "4" (some parent)).2 ⟨by decide, by simpa using hparent⟩
  obtain ⟨hgroup, hoperations⟩ := hseen ⟨"4", "engineers", [], "WorkspaceGroup", [], ⟨[], []⟩⟩ parent (by decide) hparent
  refine ⟨hpath, hwritten _ _ _ hpath rfl, hgroup, ?_⟩
  exact (hoperations Client.plain [] _ (.grants "")).1

end AccessSync.Sync
