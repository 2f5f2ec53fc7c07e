import AccessSync.Proofs.Text.Cutting
import AccessSync.Sync.Roles
/-!
# Ids of grants and entitlements

An id is made of parts with colons between them, and a resource's own id, which is one of the parts, may hold
colons too, as those of a workspace's roles do. All other parts stand before it or behind it, so they are cut off
from the two ends of the text: where these hold no colon, the id tells what it was made of
(`Grant.ids_are_keys`).
-/

namespace AccessSync

/-! ## Texts around a colon -/

section Colons
variable {front front' back back' : String}

theorem eq_of_first_colon (h : ':' ∉ front.toList) (h' : ':' ∉ front'.toList)
    (heq : front ++ ":" ++ back = front' ++ ":" ++ back') : front = front' ∧ back = back' := by
  have hlist := congrArg String.toList heq
  simp only [String.toList_append, List.append_assoc] at hlist
  obtain ⟨hfront, hback⟩ := Text.eq_of_append_sep h h' hlist
  exact ⟨String.toList_inj.1 hfront, String.toList_inj.1 hback⟩

theorem eq_of_last_colon (h : ':' ∉ back.toList) (h' : ':' ∉ back'.toList)
    (heq : front ++ ":" ++ back = front' ++ ":" ++ back') : front = front' ∧ back = back' := by
  have hlist := congrArg String.toList heq
  simp only [String.toList_append, List.append_assoc] at hlist
  obtain ⟨hfront, hback⟩ := Text.eq_of_append_last_sep h h' hlist
  exact ⟨String.toList_inj.1 hfront, String.toList_inj.1 hback⟩

end Colons

/-! ## Ids of resources -/

theorem ResourceType.colon_notMem_id (t : ResourceType) : ':' ∉ t.id.toList := by
  cases t <;> decide

namespace ResourceId

variable {r r' : ResourceId}

/-- There is no colon in the type of the resource; its own id may hold any. -/
def IsTyped (r : ResourceId) : Prop := ':' ∉ r.resourceType.toList

/-- There is no colon in what the resource is named by. -/
structure IsColonFree (r : ResourceId) : Prop where
  typed : r.IsTyped
  id : ':' ∉ r.resource.toList

theorem isTyped_ofType (t : ResourceType) (id : String) : (ofType t id).IsTyped := t.colon_notMem_id

/-- The type of a resource ends at the first colon. -/
theorem eq_of_text (h : r.IsTyped) (h' : r'.IsTyped) (heq : r.text = r'.text) : r = r' := by
  obtain ⟨t, i⟩ := r
  obtain ⟨t', i'⟩ := r'
  obtain ⟨rfl, rfl⟩ := eq_of_first_colon h h' heq
  rfl

end ResourceId

/-! ## Ids of what is made of them -/

/-- Neither the type of the resource nor the slug holds a colon. -/
structure Entitlement.IsNamed (r : ResourceId) (slug : String) : Prop where
  typed : r.IsTyped
  slug : ':' ∉ slug.toList

namespace Entitlement

variable {r r' : ResourceId} {slug slug' : String}

/-- The slug begins behind the last colon. -/
theorem eq_of_idOf (h : IsNamed r slug) (h' : IsNamed r' slug') (heq : idOf r slug = idOf r' slug') :
    r = r' ∧ slug = slug' := by
  obtain ⟨htext, hslug⟩ := eq_of_last_colon h.slug h'.slug heq
  exact ⟨ResourceId.eq_of_text h.typed h'.typed htext, hslug⟩

end Entitlement

namespace Grant

variable {entitlement entitlement' : String} {p p' : ResourceId}

/-- Type and id of the principal stand behind the last two colons, whatever stands before them. -/
theorem eq_of_idOf (h : p.IsColonFree) (h' : p'.IsColonFree) (heq : idOf entitlement p = idOf entitlement' p') :
    entitlement = entitlement' ∧ p = p' := by
  obtain ⟨t, i⟩ := p
  obtain ⟨t', i'⟩ := p'
  simp only [idOf, ResourceId.text, ← String.append_assoc] at heq
  obtain ⟨htype, rfl⟩ := eq_of_last_colon h.id h'.id heq
  obtain ⟨hentitlement, rfl⟩ := eq_of_last_colon h.typed h'.typed htype
  exact ⟨hentitlement, rfl⟩

/-- Where neither types nor slugs hold a colon, entitlements have one id exactly if they have the resource and the
slug in common. If there is none in the ids of the principals either, grants have one id exactly if they have
the resource, the slug and the principal in common. -/
theorem ids_are_keys {resource resource' : Resource} {slug slug' : String}
    (h : Entitlement.IsNamed resource.id slug) (h' : Entitlement.IsNamed resource'.id slug') :
    (∀ purpose purpose', (Entitlement.ofPurpose purpose resource slug).id =
        (Entitlement.ofPurpose purpose' resource' slug').id ↔ resource.id = resource'.id ∧ slug = slug') ∧
    ∀ (principal principal' : ResourceId) (expandable expandable' : Option (List String)),
      principal.IsColonFree → principal'.IsColonFree →
        ((ofSlug resource slug principal expandable).id = (ofSlug resource' slug' principal' expandable').id ↔
          resource.id = resource'.id ∧ slug = slug' ∧ principal = principal') := by
  constructor
  · intro purpose purpose'
    constructor
    · exact Entitlement.eq_of_idOf h h'
    · rintro ⟨hresource, rfl⟩
      exact congrArg (Entitlement.idOf · slug) hresource
  · intro principal principal' _ _ hp hp'
    constructor
    · intro heq
      obtain ⟨hentitlement, hprincipal⟩ := eq_of_idOf hp hp' heq
      obtain ⟨hresource, hslug⟩ := Entitlement.eq_of_idOf h h' hentitlement
      exact ⟨hresource, hslug, hprincipal⟩
    · rintro ⟨hresource, rfl, rfl⟩
      exact congrArg (fun r => idOf (Entitlement.idOf r slug) principal) hresource

/-- The ids of a workspace's roles hold colons. Neither what is granted in two workspaces nor what two users are
granted has one id. -/
theorem ids_are_keys_of_workspace_roles :
    let role := Sync.roleResource "workspace-access" (.ofType .workspace "w:1")
    let other := Sync.roleResource "workspace-access" (.ofType .workspace "w:2")
    let alice := ResourceId.ofType .user "42"
    let bob := ResourceId.ofType .user "43"
    role.id.resource = "w:1:workspace-access" ∧
    Entitlement.IsNamed role.id Entitlement.member ∧ Entitlement.IsNamed other.id Entitlement.member ∧
    alice.IsColonFree ∧ bob.IsColonFree ∧
    (Entitlement.assignment role Entitlement.member).id ≠ (Entitlement.permission other Entitlement.member).id ∧
    (ofSlug role Entitlement.member alice none).id ≠ (ofSlug other Entitlement.member alice none).id ∧
    (ofSlug role Entitlement.member alice none).id ≠ (ofSlug role Entitlement.member bob none).id := by
  intro role other alice bob
  have hrole : Entitlement.IsNamed role.id Entitlement.member := ⟨ResourceId.isTyped_ofType .role _, by decide⟩
  have hother : Entitlement.IsNamed other.id Entitlement.member := ⟨ResourceId.isTyped_ofType .role _, by decide⟩
  have halice : alice.IsColonFree := ⟨ResourceId.isTyped_ofType .user _, by decide⟩
  have hbob : bob.IsColonFree := ⟨ResourceId.isTyped_ofType .user _, by decide⟩
  have hworkspaces : role.id ≠ other.id := by decide
  have husers : alice ≠ bob := by decide
  obtain ⟨hentitlements, hgrants⟩ := ids_are_keys hrole hother
  refine ⟨by decide, hrole, hother, halice, hbob, ?_, ?_, ?_⟩
  · intro heq
    exact hworkspaces ((hentitlements .assignment .permission).1 heq).1
  · intro heq
    exact hworkspaces ((hgrants alice alice none none halice halice).1 heq).1
  · intro heq
    exact husers (((ids_are_keys hrole hrole).2 alice bob none none halice hbob).1 heq).2.2

end Grant

/-- A slug with a colon is taken for the end of the resource's id. -/
example : Entitlement.idOf ⟨"role", "w"⟩ "a:member" = Entitlement.idOf ⟨"role", "w:a"⟩ "member" := by decide

end AccessSync
