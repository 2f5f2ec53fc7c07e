import AccessSync.Proofs.Text.Cutting
import AccessSync.Proofs.Text.Encoding
import AccessSync.Sync.Holder
/-!
# Paths of groups

A path that was made of a group and its parent may be refused, if one of the ids holds a slash, but
it is never read as anything else (`ofPath_groupPath`). So the id that a group's resource leads to is
that of the group (`platformId_groupPath`). The path is read exactly if there are no slashes in the ids
(`ofPath_groupPath_iff`), and what is read as the path of a group is written as it was
(`groupPath_of_ofPath`).
-/

namespace AccessSync

namespace ResourceId

variable {parent : ResourceId} {groupId : String}

theorem splitOn_groupPath (parent : ResourceId) (groupId : String) :
    Text.splitOn '/' (groupPath groupId (some parent)).toList =
      Text.splitOn '/' parent.resourceType.toList ++ (Text.splitOn '/' parent.resource.toList ++
        ResourceType.group.id.toList :: Text.splitOn '/' groupId.toList) := by
  have hgroup : Text.splitOn '/' ResourceType.group.id.toList = [ResourceType.group.id.toList] := by
    decide
  have hpath : (groupPath groupId (some parent)).toList = parent.resourceType.toList ++
      '/' :: (parent.resource.toList ++ '/' :: (ResourceType.group.id.toList ++ '/' :: groupId.toList)) := by
    simp [groupPath, String.toList_append]
  rw [hpath, Text.splitOn_append_sep, Text.splitOn_append_sep, Text.splitOn_append_sep, hgroup]
  rfl

/-- A path that can be read has two or four pieces. -/
theorem pieces_of_ofPath {path : String} {found : Option ResourceId × ResourceId}
    (h : ofPath path = .ok found) :
    (∃ t r, Text.splitOn '/' path.toList = [t, r] ∧ found = (none, ⟨String.ofList t, String.ofList r⟩)) ∨
    ∃ pt p t r, Text.splitOn '/' path.toList = [pt, p, t, r] ∧
      found = (some ⟨String.ofList pt, String.ofList p⟩, ⟨String.ofList t, String.ofList r⟩) := by
  unfold ofPath at h
  generalize Text.splitOn '/' path.toList = pieces at h ⊢
  rcases pieces with _ | ⟨a, _ | ⟨b, _ | ⟨c, _ | ⟨d, _ | ⟨e, rest⟩⟩⟩⟩⟩
  · cases h
  · cases h
  · cases h
    exact .inl ⟨a, b, rfl, rfl⟩
  · cases h
  · cases h
    exact .inr ⟨a, b, c, d, rfl, rfl⟩
  · cases h

/-- If the path of a group can be read, it says of which group it was made. -/
theorem ofPath_groupPath {found : Option ResourceId × ResourceId}
    (h : ofPath (groupPath groupId (some parent)) = .ok found) :
    found = (some parent, .ofType .group groupId) := by
  have hpieces := splitOn_groupPath parent groupId
  obtain ⟨t, ts, ht⟩ := List.exists_cons_of_ne_nil (Text.splitOn_ne_nil '/' parent.resourceType.toList)
  obtain ⟨r, rs, hr⟩ := List.exists_cons_of_ne_nil (Text.splitOn_ne_nil '/' parent.resource.toList)
  obtain ⟨i, is, hi⟩ := List.exists_cons_of_ne_nil (Text.splitOn_ne_nil '/' groupId.toList)
  -- There are at least four pieces; if there are no more, each text is one.
  have hlength := congrArg List.length hpieces
  simp only [ht, hr, hi, List.length_append, List.length_cons] at hlength
  rcases pieces_of_ofPath h with ⟨a, b, htwo, -⟩ | ⟨a, b, c, d, hfour, rfl⟩
  · rw [htwo] at hlength
    simp only [List.length_cons, List.length_nil] at hlength
    omega
  · rw [hfour] at hlength
    simp only [List.length_cons, List.length_nil] at hlength
    obtain rfl : ts = [] := List.eq_nil_of_length_eq_zero (by omega)
    obtain rfl : rs = [] := List.eq_nil_of_length_eq_zero (by omega)
    obtain rfl : is = [] := List.eq_nil_of_length_eq_zero (by omega)
    rw [hfour, ht, hr, hi, Text.eq_of_splitOn_singleton ht, Text.eq_of_splitOn_singleton hr,
      Text.eq_of_splitOn_singleton hi] at hpieces
    simp only [List.cons_append, List.nil_append, List.cons.injEq, and_true] at hpieces
    obtain ⟨rfl, rfl, rfl, rfl⟩ := hpieces
    simp only [String.ofList_toList]
    rfl

/-- The id of a group's resource is looked for in its path. -/
theorem platformId_eq_ofPath : (ofType .group (groupPath groupId (some parent))).platformId =
    (ofPath (groupPath groupId (some parent))).map fun (_, group) => group.resource := by
  have hslash : '/' ∈ (groupPath groupId (some parent)).toList := by
    simp [groupPath, String.toList_append]
  have hisA : (ofType .group (groupPath groupId (some parent))).isA .group = true := by
    simp [isA, ofType]
  exact if_pos ⟨hisA, hslash⟩

theorem platformId_groupPath {id : String}
    (h : (ofType .group (groupPath groupId (some parent))).platformId = .ok id) : id = groupId := by
  rw [platformId_eq_ofPath] at h
  cases hread : ofPath (groupPath groupId (some parent)) with
  | error fault =>
    rw [hread] at h
    cases h
  | ok found =>
    rw [hread, ofPath_groupPath hread] at h
    cases h
    rfl

/-- The path of a group is read back if neither the group's id nor what its parent is named by holds a
slash. -/
theorem ofPath_groupPath_of_plain (htype : '/' ∉ parent.resourceType.toList)
    (hparent : '/' ∉ parent.resource.toList) (hid : '/' ∉ groupId.toList) :
    ofPath (groupPath groupId (some parent)) = .ok (some parent, .ofType .group groupId) := by
  unfold ofPath
  rw [splitOn_groupPath, Text.splitOn_eq_singleton htype, Text.splitOn_eq_singleton hparent,
    Text.splitOn_eq_singleton hid]
  simp only [List.cons_append, List.nil_append, List.map_cons, List.map_nil, String.ofList_toList]
  rfl

/-! ## Paths that are read -/

/-- There is no slash in what the resource is named by. -/
structure IsPlain (r : ResourceId) : Prop where
  type : '/' ∉ r.resourceType.toList
  id : '/' ∉ r.resource.toList

/-- What is read in a path holds no slash. -/
theorem plain_of_ofPath {path : String} {above : Option ResourceId} {r : ResourceId}
    (h : ofPath path = .ok (above, r)) : r.IsPlain ∧ ∀ p ∈ above, p.IsPlain := by
  have hpiece : ∀ {piece}, piece ∈ Text.splitOn '/' path.toList → '/' ∉ (String.ofList piece).toList := by
    intro piece hmem
    rw [String.toList_ofList]
    exact Text.notMem_of_mem_splitOn hmem
  rcases pieces_of_ofPath h with ⟨t, i, hsplit, hfound⟩ | ⟨pt, p, t, i, hsplit, hfound⟩ <;>
    cases hfound <;> rw [hsplit] at hpiece
  · exact ⟨⟨hpiece (by simp), hpiece (by simp)⟩, by simp⟩
  · refine ⟨⟨hpiece (by simp), hpiece (by simp)⟩, ?_⟩
    rintro _ ⟨⟩
    exact ⟨hpiece (by simp), hpiece (by simp)⟩

/-- The path of a group is read back exactly if neither the group's id nor what its parent is named by holds
a slash. -/
theorem ofPath_groupPath_iff (groupId : String) (above : Option ResourceId) :
    ofPath (groupPath groupId above) = .ok (above, .ofType .group groupId) ↔
      '/' ∉ groupId.toList ∧ ∀ p ∈ above, p.IsPlain := by
  constructor
  · intro h
    obtain ⟨hgroup, habove⟩ := plain_of_ofPath h
    exact ⟨hgroup.id, habove⟩
  rintro ⟨hid, habove⟩
  cases above with
  | some parent => exact ofPath_groupPath_of_plain (habove parent rfl).type (habove parent rfl).id hid
  | none =>
    have hgroup : Text.splitOn '/' ResourceType.group.id.toList = [ResourceType.group.id.toList] := by decide
    have hpath : (groupPath groupId none).toList = ResourceType.group.id.toList ++ '/' :: groupId.toList := by
      simp [groupPath, String.toList_append]
    unfold ofPath
    rw [hpath, Text.splitOn_append_sep, hgroup, Text.splitOn_eq_singleton hid]
    simp only [List.singleton_append, List.map_cons, List.map_nil, String.ofList_toList]
    rfl

/-- A path that is read as that of a group is written as it was. -/
theorem groupPath_of_ofPath {path : String} {above : Option ResourceId} {r : ResourceId}
    (h : ofPath path = .ok (above, r)) (hgroup : r.isA .group = true) : groupPath r.resource above = path := by
  have htype : r.resourceType = ResourceType.group.id := of_decide_eq_true hgroup
  have hjoin := Text.join_splitOn '/' path.toList
  rw [← String.toList_inj, ← hjoin]
  rcases pieces_of_ofPath h with ⟨t, i, hsplit, hfound⟩ | ⟨pt, p, t, i, hsplit, hfound⟩ <;>
    cases hfound <;> simp [hsplit, groupPath, Text.join, ← htype]

theorem platformId_groupPath_of_plain (htype : '/' ∉ parent.resourceType.toList)
    (hparent : '/' ∉ parent.resource.toList) (hid : '/' ∉ groupId.toList) :
    (ofType .group (groupPath groupId (some parent))).platformId = .ok groupId := by
  rw [platformId_eq_ofPath, ofPath_groupPath_of_plain htype hparent hid]
  rfl

end ResourceId

end AccessSync
