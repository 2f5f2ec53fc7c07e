import AccessSync.Json.Record
import AccessSync.Proofs.Json.Tokens
/-!
# Fields that are written and read

What is read item by item as it was written is read so as a list (`list?_ofList`), and a list of plain
values is plain. A record whose fields stand in their order, some left out, is read with all of them
(`select?_of_sublist`); a field that was left out because it was empty is read as empty (`field_list`,
`field_text`). What a record has under a name is what the object has there: `attribute?_of_select?`.
-/

namespace AccessSync.Json

variable {α : Type}

/-- Items that are read as they were written make a list that is. -/
theorem list?_ofList {read : Json → Option α} {write : α → Json} (h : ∀ a, read (write a) = some a)
    (items : List α) : list? read (ofList write items) = some items := by
  unfold list? ofList
  induction items with
  | nil => rfl
  | cons a items ih =>
    dsimp only at ih ⊢
    rw [List.map_cons, List.mapM_cons, h, ih]
    rfl

theorem isPlain_ofList {write : α → Json} (h : ∀ a, (write a).isPlain = true) (items : List α) :
    (ofList write items).isPlain = true := by
  change allPlain (items.map write) = true
  induction items with
  | nil => rfl
  | cons a items ih => rw [List.map_cons, allPlain, h, ih, Bool.and_self]

/-- The value of an attribute of an object, the last one of that name. -/
def attribute? (name : String) : Json → Option Json
  | .object fields => lastField? name fields
  | _ => none

theorem keys_listField (name : String) (write : α → Json) (items : List α) :
    ((listField name write items).map (·.1)).Sublist [name] := by
  unfold listField
  split_ifs <;> simp

theorem keys_textField (name value : String) : ((textField name value).map (·.1)).Sublist [name] := by
  unfold textField
  split_ifs <;> simp

end AccessSync.Json

namespace AccessSync.Record

variable {α : Type} {r : Record} {name : String} {names order : List String}
  {fields : List (String × Json)} {read : Json → Option α}

/-! ## What a record has under a name -/

@[simp]
theorem get?_nil (named : Bool) (name : String) : (⟨[], named⟩ : Record).get? name = none := rfl

@[simp]
theorem get?_cons (f : String × Json) (fields : List (String × Json)) (named : Bool) (name : String) :
    (⟨f :: fields, named⟩ : Record).get? name =
      if f.1 = name then some f.2 else (⟨fields, named⟩ : Record).get? name := by
  unfold get?
  rw [List.find?_cons]
  by_cases h : f.1 = name <;> simp [h]

@[simp]
theorem get?_append (fields fields' : List (String × Json)) (named : Bool) (name : String) :
    (⟨fields ++ fields', named⟩ : Record).get? name =
      ((⟨fields, named⟩ : Record).get? name).or ((⟨fields', named⟩ : Record).get? name) := by
  unfold get?
  rw [List.find?_append, Option.map_or]

@[simp]
theorem get?_listField (field : String) (write : α → Json) (items : List α) (named : Bool) (name : String) :
    (⟨Json.listField field write items, named⟩ : Record).get? name =
      if field = name ∧ items ≠ [] then some (Json.ofList write items) else none := by
  unfold Json.listField
  cases items with
  | nil => simp [get?_nil]
  | cons a items => simp [get?_cons, get?_nil]

@[simp]
theorem get?_textField (field value : String) (named : Bool) (name : String) :
    (⟨Json.textField field value, named⟩ : Record).get? name =
      if field = name ∧ value ≠ "" then some (.string value) else none := by
  unfold Json.textField
  by_cases hvalue : value = "" <;> simp [hvalue, get?_cons, get?_nil]

/-- If no name is repeated, the last field of a name is the first. -/
theorem find?_reverse (h : (fields.map (·.1)).Nodup) (name : String) :
    fields.reverse.find? (·.1 = name) = fields.find? (·.1 = name) := by
  induction fields with
  | nil => rfl
  | cons f fields ih =>
    obtain ⟨hnot, hrest⟩ := List.nodup_cons.1 h
    rw [List.reverse_cons, List.find?_append, ih hrest, List.find?_singleton, List.find?_cons]
    by_cases hf : f.1 = name
    · have hnone : fields.find? (·.1 = name) = none := by
        rw [List.find?_eq_none]
        intro g hg hsame
        have hg' : g.1 = name := by simpa using hsame
        exact hnot (List.mem_map.2 ⟨g, hg, hg'.trans hf.symm⟩)
      simp [hf, hnone]
    · simp [hf]

/-- What a record has under one of its names is the attribute of the object. -/
theorem attribute?_of_select? (h : select? names fields = some r) (hname : name ∈ names) :
    (Json.object fields).attribute? name = r.get? name := by
  unfold select? at h
  dsimp only at h
  split_ifs at h with hnodup
  cases h
  have hknown : ∀ f : String × Json, decide (f.1 ∈ names) = true ∧ decide (f.1 = name) = true ↔ f.1 = name := by
    intro f
    simp only [decide_eq_true_eq, and_iff_right_iff_imp]
    rintro rfl
    exact hname
  have hreverse := find?_reverse hnodup name
  rw [← List.filter_reverse, List.find?_filter] at hreverse
  simp only [hknown] at hreverse
  rw [Json.attribute?, Json.lastField?, get?, hreverse]

/-- Where no name is repeated, the attributes of an object are what its record has. -/
theorem attribute?_of_sublist (hsub : (fields.map (·.1)).Sublist order) (hnodup : order.Nodup)
    (name : String) : (Json.object fields).attribute? name = (⟨fields, true⟩ : Record).get? name := by
  rw [Json.attribute?, Json.lastField?, get?, find?_reverse (hsub.nodup hnodup)]

/-- Fields that stand in their order, each once and none but known ones, make up the record. -/
theorem select?_of_sublist (hsub : (fields.map (·.1)).Sublist order) (hnodup : order.Nodup)
    (hknown : ∀ n ∈ order, n ∈ names) : select? names fields = some ⟨fields, true⟩ := by
  have hall : fields.filter (fun f => f.1 ∈ names) = fields := by
    rw [List.filter_eq_self]
    intro f hf
    exact decide_eq_true (hknown _ (hsub.subset (List.mem_map_of_mem hf)))
  unfold select?
  dsimp only
  rw [hall, if_pos (hsub.nodup hnodup)]

/-- A record has a field under each name that it has something under. -/
theorem mem_keys (h : r.get? name ≠ none) : name ∈ r.entries.map (·.1) := by
  rw [get?, ne_eq, Option.map_eq_none_iff, List.find?_eq_none] at h
  push Not at h
  obtain ⟨f, hf, hname⟩ := h
  exact List.mem_map.2 ⟨f, hf, by simpa using hname⟩

/-! ## Reading fields -/

theorem field_of_get? {default a : α} (v : Json) (h : r.get? name = some v) (hread : read v = some a) :
    r.field name default read = some a := by
  rw [field, h]
  exact hread

/-- A list that was left out if it was empty is read. -/
theorem field_list (write : α → Json) {items : List α}
    (h : r.get? name = if items ≠ [] then some (Json.ofList write items) else none)
    (hread : ∀ a, read (write a) = some a) : r.field name [] (Json.list? read) = some items := by
  rw [field, h]
  split_ifs with hitems
  · exact Json.list?_ofList hread items
  · rw [not_not.1 hitems]

/-- A text that was left out if it was empty is read. -/
theorem field_text {value : String} (h : r.get? name = if value ≠ "" then some (.string value) else none) :
    r.field name "" Json.string? = some value := by
  rw [field, h]
  split_ifs with hvalue
  · rfl
  · rw [not_not.1 hvalue]

end AccessSync.Record
