import AccessSync.Proofs.Rule.Grant
import AccessSync.Proofs.Rule.RoleMatch
import AccessSync.Proofs.Sync.Operations
/-!
# Which rules an adapter edits

An adapter that keeps something in rules looks for those of a role that matches the slug of it, and makes a rule
if there is none (`Seeks`). It looks in the same way when it grants and when it revokes, and edits no other
rules (`edits_seek`). Main statement: exact matching tells roles apart by their full names, and however an adapter
looks for rules, it finds the one that it has made (`roles_match_by_full_name`).
-/

namespace AccessSync

/-- Where no rule matches, the one that a grant makes is the only one that matches then. -/
theorem Rule.found_of_unmatched {m : RoleMatch} {newRole : String} (hnew : m.accepts newRole = true)
    {rules : List Rule} (h : ∀ r ∈ rules, m.accepts r.role = false) (p : PrincipalName) :
    (grant m newRole p rules).2.filter (fun r => m.accepts r.role) = [⟨[p.text], newRole⟩] := by
  have hnone : rules.filter (fun r => m.accepts r.role) = [] := by
    rw [List.filter_eq_nil_iff]
    intro r hr
    simp [h r hr]
  rw [grant_of_unmatched h, List.filter_append, hnone]
  simp [hnew]

namespace Sync

variable {c : Client} {E : (List Rule → Bool × List Rule) → Prop} {α : Type}

/-! ## Calls that edit rules -/

/-- The call is put together of pieces that read, that write a principal or an assignment, or that edit rules by
such an edit. -/
inductive EditsRules (c : Client) (E : (List Rule → Bool × List Rule) → Prop) : {α : Type} → Call α → Prop
  | rules {scope : Scope} {target : AccessTarget} {edit : List Rule → Bool × List Rule} :
      E edit → EditsRules c E (c.editRules scope target edit)
  | principal (scope : Scope) (p : Principal) : EditsRules c E (c.putPrincipal scope p)
  | assignment (workspace : Int64) (id : String) (body : Option Json) :
      EditsRules c E (c.putAssignment workspace id body)
  | reads {α : Type} {x : Call α} : c.OnlyReads x → EditsRules c E x
  | bind {α β : Type} {x : Call α} {f : α → Call β} :
      EditsRules c E x → (∀ a, EditsRules c E (f a)) → EditsRules c E (x >>= f)

theorem editsRules_pure (a : α) : EditsRules c E (pure a) := .reads (.pure a)

theorem editsRules_ofExcept {ε : Type} {error : ε → Error} {v : Except ε α} :
    EditsRules c E (Call.ofExcept error v) := .reads Client.consists_ofExcept

theorem editsRules_editGroup {scope : Scope} {groupId : String} {edit : Group → Bool × Group} :
    EditsRules c E (editGroup c scope groupId edit) := by
  refine .bind (.reads Client.reads_get) fun x => ?_
  dsimp only
  split
  · exact editsRules_pure _
  · rename_i group _
    exact .bind (.principal scope (.group group)) fun _ => editsRules_pure _

theorem editsRules_changeRole {principal : ResourceId} {role : Resource}
    {edit : Principal → PermissionKind → String → Bool × Principal} :
    EditsRules c E (changeRole c principal role edit) := by
  refine .bind editsRules_ofExcept fun _ => .bind editsRules_ofExcept fun _ => ?_
  refine .bind editsRules_ofExcept fun _ => .bind editsRules_ofExcept fun _ => ?_
  refine .bind (.reads Client.reads_getPrincipal) fun x => ?_
  dsimp only
  split
  · exact editsRules_pure _
  · exact .bind (.principal ..) fun _ => editsRules_pure _

/-! ## Adapters -/

/-- How the adapter for a type looks for the rules that a slug stands in, and the role of the rule that it makes if
there is none. -/
inductive Seeks : ResourceType → String → RoleMatch → String → Prop
  | account (slug : String) : Seeks .account slug (.containing slug) (RoleMatch.qualify slug)
  | group (slug : String) : Seeks .group slug (.exact slug) slug
  | servicePrincipal (slug : String) : Seeks .servicePrincipal slug (.exact slug) slug

theorem Seeks.accepts_newRole {t : ResourceType} {slug newRole : String} {m : RoleMatch}
    (h : Seeks t slug m newRole) : m.accepts newRole = true := by
  cases h with
  | account => exact RoleMatch.accepts_containing_qualify slug
  | group | servicePrincipal => exact RoleMatch.accepts_exact_self slug

/-- A grant or a revocation by an adapter edits no rules but those that it looks for by the slug. -/
theorem edits_seek (c : Client) (allowed : List String) (t : ResourceType) (x : Edit) :
    EditsRules c (fun edit => ∃ m newRole p, Seeks t x.entitlement.slug m newRole ∧ edit = x.ofRules m newRole p)
      (x.call (c.adapterOf allowed t)) := by
  cases t with
  | account =>
    rw [Client.adapterOf, Edit.call_account]
    refine .bind (.reads reads_nameOfResource) fun p => .bind (.rules ?_) fun _ => editsRules_pure _
    exact ⟨_, _, p, .account _, rfl⟩
  | workspace =>
    rw [Client.adapterOf, Edit.call_workspaces]
    refine .bind editsRules_ofExcept fun _ => .bind editsRules_ofExcept fun _ => ?_
    exact .bind editsRules_ofExcept fun _ => .bind (.assignment ..) fun _ => editsRules_pure _
  | user => cases x <;> exact .reads (.fail _)
  | group =>
    rw [Client.adapterOf, Edit.call_groups]
    refine .bind editsRules_ofExcept fun _ => .bind editsRules_ofExcept fun _ => ?_
    dsimp only
    split_ifs
    · exact .bind editsRules_ofExcept fun _ => editsRules_editGroup
    · refine .bind (.reads reads_nameOfResource) fun p => .bind (.rules ?_) fun _ => editsRules_pure _
      exact ⟨_, _, p, .group _, rfl⟩
  | servicePrincipal =>
    rw [Client.adapterOf, Edit.call_servicePrincipals]
    refine .bind editsRules_ofExcept fun _ => .bind editsRules_ofExcept fun _ => ?_
    refine .bind (.reads reads_nameOfResource) fun p => .bind (.rules ?_) fun _ => editsRules_pure _
    exact ⟨_, _, p, .servicePrincipal _, rfl⟩
  | role =>
    rw [Client.adapterOf, Edit.call_roles]
    exact editsRules_changeRole

/-- A name matches a role exactly if both have the same full name. So exact matching parts the names of roles into
classes, a full name is its own, and it is matched by the slug that it was made of, exactly and as a part. An
adapter edits only rules that it looks for by the slug, and the rule that it makes is the one that it then
finds. -/
theorem roles_match_by_full_name :
    (∀ a b : String, (RoleMatch.exact a).accepts b = true ↔ RoleMatch.qualify a = RoleMatch.qualify b) ∧
    (Equivalence fun a b : String => (RoleMatch.exact a).accepts b = true) ∧
    (∀ slug : String, RoleMatch.qualify (RoleMatch.qualify slug) = RoleMatch.qualify slug ∧
      (RoleMatch.exact slug).accepts (RoleMatch.qualify slug) = true ∧
      (RoleMatch.containing slug).accepts (RoleMatch.qualify slug) = true) ∧
    (∀ (c : Client) (allowed : List String) (t : ResourceType) (x : Edit),
      EditsRules c (fun edit => ∃ m newRole p, Seeks t x.entitlement.slug m newRole ∧ edit = x.ofRules m newRole p)
        (x.call (c.adapterOf allowed t))) ∧
    ∀ (t : ResourceType) (slug : String) (m : RoleMatch) (newRole : String), Seeks t slug m newRole →
      ∀ (p : PrincipalName) (rules : List Rule), (∀ r ∈ rules, m.accepts r.role = false) →
        (Rule.grant m newRole p rules).2.filter (fun r => m.accepts r.role) = [⟨[p.text], newRole⟩] := by
  refine ⟨fun a b => RoleMatch.accepts_exact_iff_qualify, RoleMatch.exact_equivalence, fun slug => ?_, edits_seek, ?_⟩
  · exact ⟨RoleMatch.qualify_qualify slug, RoleMatch.accepts_exact_qualify slug,
      RoleMatch.accepts_containing_qualify slug⟩
  · intro t slug m newRole hseeks p rules hrules
    exact Rule.found_of_unmatched hseeks.accepts_newRole hrules p

/-- The role of the marketplace's administration is granted on an account that has rules for other roles, and the
rule is found under the slug. -/
theorem roles_match_by_full_name_of_marketplace :
    let slug := marketplaceAdmin
    let others := [(⟨["users/bob"], "roles/group.manager"⟩ : Rule)]
    Seeks .account slug (.containing slug) "roles/marketplace.admin" ∧
    (∀ r ∈ others, (RoleMatch.containing slug).accepts r.role = false) ∧
    (Rule.grant (.containing slug) "roles/marketplace.admin" ⟨.user, "alice"⟩ others).2.filter
      (fun r => (RoleMatch.containing slug).accepts r.role) = [⟨["users/alice"], "roles/marketplace.admin"⟩] := by
  intro slug others
  have hqualify : RoleMatch.qualify slug = "roles/marketplace.admin" := by decide
  have hseeks : Seeks .account slug (.containing slug) "roles/marketplace.admin" := hqualify ▸ .account slug
  have hothers : ∀ r ∈ others, (RoleMatch.containing slug).accepts r.role = false := by decide
  obtain ⟨-, -, -, -, hfound⟩ := roles_match_by_full_name
  exact ⟨hseeks, hothers, hfound .account slug _ _ hseeks ⟨.user, "alice"⟩ others hothers⟩

end Sync

end AccessSync
