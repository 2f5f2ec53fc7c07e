import AccessSync.Proofs.Principal.Grammar
import AccessSync.Proofs.Sync.Keeping
import AccessSync.Proofs.Text.Cutting
/-!
# Members of a group

The profile of a group keeps its members as one text, their references with commas between. When grants
are listed the text is split again, so what is listed are the pieces of all references
(`memberReferences_groupResource`) and not the references themselves. The two are the same exactly if every
reference is plain, neither empty nor with a comma in it: `members_are_listed`.
-/

namespace AccessSync

namespace Text

variable {sep : Char}

/-- A text that was put together of parts has the pieces of each. Where there are no parts there is still
one piece, which is empty. -/
theorem splitOn_intercalate (parts : List (List Char)) :
    (splitOn sep ([sep].intercalate parts)).filter (· ≠ []) =
      parts.flatMap fun part => (splitOn sep part).filter (· ≠ []) := by
  induction parts with
  | nil => rfl
  | cons part parts ih =>
    cases parts with
    | nil => simp
    | cons next parts =>
      rw [List.intercalate_cons_cons, List.append_assoc, List.singleton_append, splitOn_append_sep,
        List.filter_append, ih]
      simp only [List.flatMap_cons]

end Text

namespace Member

variable {m : Member} {members : List Member} {text : String} {kind : PrincipalKind} {id : String}
  {told : List (PrincipalKind × String)}

/-- What a text of references has between its commas. -/
def pieces (text : String) : List String :=
  ((Text.splitOn ',' text.toList).filter (· ≠ [])).map String.ofList

/-- The reference can stand among others with commas between. -/
def IsPlain (m : Member) : Prop := m.reference ≠ "" ∧ ',' ∉ m.reference.toList

instance (m : Member) : Decidable m.IsPlain := inferInstanceAs (Decidable (_ ∧ _))

theorem pieces_intercalate (references : List String) :
    pieces (String.intercalate "," references) = references.flatMap pieces := by
  have hsep : ",".toList = [','] := rfl
  unfold pieces
  rw [String.toList_intercalate, hsep, Text.splitOn_intercalate, List.map_flatMap, List.flatMap_map]

theorem IsPlain.pieces (h : m.IsPlain) : pieces m.reference = [m.reference] := by
  have hne : m.reference.toList ≠ [] := fun hnil => h.1 (String.toList_eq_nil_iff.1 hnil)
  unfold Member.pieces
  rw [Text.splitOn_eq_singleton h.2]
  simp [hne]

theorem comma_notMem_of_mem_pieces {piece : String} (h : piece ∈ Member.pieces text) : ',' ∉ piece.toList := by
  obtain ⟨cs, hcs, rfl⟩ := List.mem_map.1 h
  rw [String.toList_ofList]
  exact Text.notMem_of_mem_splitOn (List.mem_of_mem_filter hcs)

/-- The word for the kind is made of letters, so a reference has a comma only within the id. -/
theorem comma_mem_iff (h : readReference text = .ok (kind, id)) : ',' ∈ text.toList ↔ ',' ∈ id.toList := by
  obtain ⟨word, rfl, hword, -⟩ := PrincipalName.read_eq_ok_iff.1 h
  have hcomma : ',' ∉ word.toList := fun hmem =>
    absurd (PrincipalKind.isLower_of_toLower hword ',' hmem) (by decide)
  simp [hcomma]

theorem ne_empty_of_readReference (h : readReference text = .ok (kind, id)) : text ≠ "" := by
  rintro rfl
  cases h

/-- What the pieces of all references tell is what the references tell exactly if all are plain. -/
theorem tells_pieces_iff
    (h : List.Forall₂ (fun piece p => readReference piece = .ok p)
      (members.flatMap fun m => pieces m.reference) told) :
    (∀ m ∈ members, m.IsPlain) ↔ List.Forall₂ (fun m p => m.principal = .ok p) members told := by
  constructor
  · intro hplain
    have hpieces : (members.flatMap fun m => pieces m.reference) = members.map (·.reference) := by
      rw [← List.flatMap_singleton' (members.map (·.reference)), List.flatMap_map]
      exact List.flatMap_congr fun m hm => (hplain m hm).pieces
    rw [hpieces, List.forall₂_map_left_iff] at h
    exact h
  · intro hown
    induction hown with
    | nil => simp
    | @cons m p members told hm hown ih =>
      obtain ⟨kind, id⟩ := p
      -- The first of all pieces tells what the first reference does, and there is no comma in it.
      obtain ⟨piece, rest, hpiece, -, hall⟩ := List.forall₂_cons_right_iff.1 h
      have hin : piece ∈ (m :: members).flatMap fun m => pieces m.reference := by
        rw [hall]
        exact List.mem_cons_self
      obtain ⟨m', -, hin⟩ := List.mem_flatMap.1 hin
      have hplain : m.IsPlain := by
        refine ⟨ne_empty_of_readReference hm, ?_⟩
        rw [comma_mem_iff hm, ← comma_mem_iff hpiece]
        exact comma_notMem_of_mem_pieces hin
      rw [List.flatMap_cons, hplain.pieces, List.singleton_append, List.forall₂_cons] at h
      intro m'' hm''
      rcases List.mem_cons.1 hm'' with rfl | hm''
      · exact hplain
      · exact ih h.2 m'' hm''

end Member

/-- The resource is that of the principal of that kind and id. A group has it under some parent. -/
def ResourceId.Names (r : ResourceId) (kind : PrincipalKind) (id : String) : Prop :=
  match kind with
  | .user => r = .ofType .user id
  | .group => ∃ parent, r = .ofType .group (groupPath id (some parent))
  | .servicePrincipal => r = .ofType .servicePrincipal id

theorem Client.names_holderAmong {groups : Store Resource} (h : groups.Listed) (c : Client)
    (kind : PrincipalKind) (id : String) : (c.holderAmong groups kind id).resource.Names kind id := by
  cases kind with
  | user => exact rfl
  | group => exact resource_group h c id
  | servicePrincipal => exact rfl

namespace Sync

variable {σ : Type} {w : World σ} {c : Client} {g : Group} {parent : ResourceId} {resource : Resource}
  {st st' : Memory × σ}

/-- The profile of a group gives back the pieces of its members' references. -/
theorem memberReferences_groupResource (g : Group) (parent : ResourceId) :
    memberReferences (groupResource g parent) = g.members.flatMap fun m => Member.pieces m.reference := by
  have htold : ∀ r : Resource, r.profile.text? membersKey = none →
      (((r.withText "display_name" g.displayName).withText "group_id" g.id).keepPlace parent).profile.text?
        membersKey = none := by
    intro r hr
    rw [text?_keepPlace _ _ (by decide) (by decide), text?_withText, if_neg (by decide), text?_withText,
      if_neg (by decide), hr]
  unfold groupResource
  dsimp only
  split_ifs with hempty
  · rw [List.isEmpty_iff] at hempty
    rw [memberReferences, htold _ rfl, hempty]
    rfl
  · rw [memberReferences, text?_withText, if_pos rfl]
    dsimp only
    rw [← List.flatMap_map, ← Member.pieces_intercalate]
    rfl

/-- The grants of membership to principals of those kinds and ids. -/
def membershipOf (c : Client) (groups : Store Resource) (resource : Resource)
    (told : List (PrincipalKind × String)) : List Grant :=
  told.map fun p => (c.holderAmong groups p.1 p.2).grant resource Entitlement.member

/-- The grants of membership are those to whom the references in the profile tell, one by one. -/
theorem memberGrants_ok {grants : List Grant} (h : w.Ends (memberGrants c resource) st (.ok grants) st') :
    st' = st ∧ ∃ told, grants = membershipOf c st.1.groups resource told ∧
      List.Forall₂ (fun reference p => Member.readReference reference = .ok p)
        (memberReferences resource) told := by
  unfold memberGrants at h
  generalize memberReferences resource = references at h ⊢
  induction references generalizing grants st' with
  | nil =>
    obtain ⟨hgrants, rfl⟩ := World.ends_pure.1 h
    cases hgrants
    exact ⟨rfl, [], rfl, .nil⟩
  | cons reference references ih =>
    rw [List.mapM_cons] at h
    obtain ⟨grant, st₁, hgrant, h⟩ := World.ends_bind_ok.1 h
    obtain ⟨p, hread, hgrant⟩ := World.ends_ofExcept_bind_ok.1 hgrant
    rw [(Client.holder_ends c p.1 p.2 st).bind_iff] at hgrant
    obtain ⟨hgrant, rfl⟩ := World.ends_pure.1 hgrant
    cases hgrant
    obtain ⟨grants, st₂, hgrants, h⟩ := World.ends_bind_ok.1 h
    obtain ⟨rfl, told, rfl, hall⟩ := ih hgrants
    obtain ⟨hlist, rfl⟩ := World.ends_pure.1 h
    cases hlist
    exact ⟨rfl, p :: told, rfl, .cons hread hall⟩

/-- What is listed for a group begins with the grants of membership, one for each piece of the references
in their order, and goes on with what the rules keep. These are the grants that the members themselves
tell exactly if every reference is plain. -/
theorem members_are_listed {token : String} {page : SyncPage Grant}
    (h : w.Ends ((groups c).grants (groupResource g parent) token) st (.ok page) st') :
    ∃ told kept, page.items = membershipOf c st.1.groups (groupResource g parent) told ++ kept ∧
      List.Forall₂ (fun piece p => Member.readReference piece = .ok p)
        (g.members.flatMap fun m => Member.pieces m.reference) told ∧
      ((∀ m ∈ g.members, m.IsPlain) ↔ List.Forall₂ (fun m p => m.principal = .ok p) g.members told) ∧
      (st.1.groups.Listed → ∀ p ∈ told, (c.holderAmong st.1.groups p.1 p.2).resource.Names p.1 p.2) ∧
      ∃ rules rateLimit st₁,
        w.Ends (c.listRules (.ofParent (some parent)) (groupTarget g.id)) st (.ok (rules, rateLimit)) st₁ ∧
        w.Ends (c.entryGrants (.ofParent (some parent)) (groupResource g parent) (Rule.entries rules)) st₁
          (.ok kept) st' := by
  obtain ⟨found, hfound, h⟩ := World.ends_ofExcept_bind_ok.1 h
  obtain rfl := groupOf_groupResource hfound
  obtain ⟨members, st₁, hmembers, h⟩ := World.ends_bind_ok.1 h
  obtain ⟨rfl, told, rfl, htold⟩ := memberGrants_ok hmembers
  rw [memberReferences_groupResource] at htold
  obtain ⟨⟨rules, rateLimit⟩, st₂, hrules, h⟩ := World.ends_bind_ok.1 h
  obtain ⟨kept, st₃, hkept, h⟩ := World.ends_bind_ok.1 h
  obtain ⟨hpage, rfl⟩ := World.ends_pure.1 h
  cases hpage
  rw [parent_groupResource] at hrules hkept
  exact ⟨told, kept, rfl, htold, Member.tells_pieces_iff htold,
    fun hlisted p _ => Client.names_holderAmong hlisted c p.1 p.2, rules, rateLimit, st₂, hrules, hkept⟩

/-- Whatever is listed for the group begins with a grant of membership for each member, in their order, to
the principal that the member's own reference tells. -/
def ListsMembers (w : World σ) (c : Client) (g : Group) (parent : ResourceId) (st : Memory × σ) : Prop :=
  ∀ token page st', w.Ends ((groups c).grants (groupResource g parent) token) st (.ok page) st' →
    ∃ told kept, page.items = membershipOf c st.1.groups (groupResource g parent) told ++ kept ∧
      List.Forall₂ (fun m p => m.principal = .ok p) g.members told

/-! ## In a vacant account -/

/-- A peer that has no rules for anything. -/
def vacant : World Unit where
  now _ := ⟨0⟩
  answer _ _ := (some (Transport.replyOf "\x7b\"grant_rules\":[],\"etag\":\"e\"\x7d"), ())

def vacantAccount : ResourceId := .ofType .account "a"

/-- A group with those members. -/
def vacantOf (members : List Member) : Group := ⟨"1", "sales", members, "Group", [], .none⟩

/-- The same as a resource of the account. -/
def vacantGroup (members : List Member) : Resource := groupResource (vacantOf members) vacantAccount

def vacantGrants (members : List Member) : Call (SyncPage Grant) :=
  (groups Client.plain).grants (vacantGroup members) ""

/-- A user and a group, told by plain references. -/
def plainMembers : List Member := [⟨"7", "", "Users/7"⟩, ⟨"2", "", "Groups/2"⟩]

theorem members_are_listed_of_plain : ∃ page st',
    vacant.Ends (vacantGrants plainMembers) (Memory.fresh, ()) (.ok page) st' ∧
    ∃ told kept, page.items = membershipOf Client.plain .empty (vacantGroup plainMembers) told ++ kept ∧
      List.Forall₂ (fun m p => m.principal = .ok p) plainMembers told := by
  have hitems : (vacant.run (vacantGrants plainMembers).run (Memory.fresh, ())).1.toOption.map
      (fun page => page.items.map (·.principal)) =
        some [.ofType .user "7", .ofType .group "account/a/group/2"] := by decide +kernel
  obtain ⟨page, hends, -⟩ := World.ends_of_feature hitems
  obtain ⟨told, kept, hpage, -, hplain, -⟩ := members_are_listed hends
  exact ⟨page, _, hends, told, kept, hpage, hplain.1 (by decide +kernel)⟩

/-- A group whose one member has no reference that can be read is listed all the same, and so not by its
member. -/
theorem not_listsMembers {m : Member} (hm : m.principal.toOption = none)
    (hends : (vacant.run (vacantGrants [m]).run (Memory.fresh, ())).1.toOption.map (fun _ => ()) = some ()) :
    ¬ListsMembers vacant Client.plain (vacantOf [m]) vacantAccount (Memory.fresh, ()) := by
  intro hlists
  obtain ⟨page, hends, -⟩ := World.ends_of_feature hends
  obtain ⟨told, kept, -, hown⟩ := hlists _ _ _ hends
  obtain ⟨p, _, hp, -, -⟩ := List.forall₂_cons_left_iff.1 hown
  rw [hp] at hm
  cases hm

/-- A reference that names two users is listed as both, and a member without a reference is not listed. -/
theorem members_are_misread :
    ¬ListsMembers vacant Client.plain (vacantOf [⟨"7", "", "Users/1,Users/2"⟩]) vacantAccount
      (Memory.fresh, ()) ∧
    ¬ListsMembers vacant Client.plain (vacantOf [.ofId "7"]) vacantAccount (Memory.fresh, ()) := by
  constructor <;> exact not_listsMembers (by decide +kernel) (by decide +kernel)

end Sync

end AccessSync
