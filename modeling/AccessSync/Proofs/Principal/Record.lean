import AccessSync.Principal.Basic
import AccessSync.Proofs.Json.Record
/-!
# Principals as records

Users, groups and service principals are read as they were written: `Principal.read_toJson`.
-/

namespace AccessSync

/-! ## Permissions -/

namespace Permissions

theorem readValue_writeValue (value : String) : readValue (writeValue value) = some value := by
  simp [readValue, writeValue, Json.record?, Record.select?, Record.required, Record.get?, Json.string?]

theorem keys_fields (p : Permissions) : (p.fields.map (·.1)).Sublist fieldNames := by
  unfold fields
  rw [List.map_append]
  exact (Json.keys_listField "roles" _ _).append (Json.keys_listField "entitlements" _ _)

/-- A record that has the fields of permissions has these permissions. -/
theorem ofRecord?_of_get? {r : Record} {p : Permissions}
    (hroles : r.get? "roles" = if p.roles ≠ [] then some (Json.ofList writeValue p.roles) else Option.none)
    (hentitlements : r.get? "entitlements" =
      if p.entitlements ≠ [] then some (Json.ofList writeValue p.entitlements) else Option.none) :
    ofRecord? r = some p := by
  unfold ofRecord?
  rw [Record.field_list _ hroles readValue_writeValue, Record.field_list _ hentitlements readValue_writeValue]
  rfl

/-- Permissions are written two levels deep. -/
theorem isWhole_list {enclosing : Nat} (h : enclosing + 2 ≤ Json.greatestHeight) (values : List String) :
    (Json.ofList writeValue values).isWhole enclosing = true := by
  have hreadable : Json.allReadable (values.map writeValue) = true := by
    induction values with
    | nil => rfl
    | cons value values ih => exact ih
  have hheight : Json.itemsHeight (values.map writeValue) ≤ 1 := by
    induction values with
    | nil => exact Nat.zero_le 1
    | cons value values ih => exact max_le le_rfl (ih hreadable)
  unfold Json.isWhole
  rw [Bool.and_eq_true, decide_eq_true_eq]
  refine ⟨hreadable, ?_⟩
  change enclosing + (Json.itemsHeight (values.map writeValue) + 1) ≤ _
  omega

theorem isWhole_fields {enclosing : Nat} (h : enclosing + 2 ≤ Json.greatestHeight) (p : Permissions) :
    ∀ f ∈ p.fields, f.2.isWhole enclosing = true := by
  intro f hf
  have hlist : ∀ name values, f ∈ Json.listField name writeValue values → f.2.isWhole enclosing = true := by
    intro name values hf
    unfold Json.listField at hf
    split_ifs at hf
    · cases hf
    · rw [List.mem_singleton.1 hf]
      exact isWhole_list h values
  rcases List.mem_append.1 hf with hf | hf
  · exact hlist _ _ hf
  · exact hlist _ _ hf

end Permissions

/-! ## Principals -/

theorem Email.read_toJson (e : Email) : read e.toJson = some e := by
  simp [read, toJson, Json.record?, Record.select?, Record.field, Record.get?, Json.bool?, Json.string?]

/-- An object of its own fields and those of permissions is opened as a record of all. -/
theorem openRecord?_of_sublist {own order : List String} {fields : List (String × Json)} {p : Permissions}
    {enclosing : Nat} (h : enclosing + 3 ≤ Json.greatestHeight)
    (hsub : ((fields ++ p.fields).map (·.1)).Sublist order) (hnodup : order.Nodup)
    (hown : ∀ f ∈ fields, f.1 ∈ own) (horder : ∀ n ∈ order, n ∈ own ++ Permissions.fieldNames) :
    (Json.object (fields ++ p.fields)).openRecord? own Permissions.fieldNames enclosing =
      some ⟨fields ++ p.fields, true⟩ := by
  have hall : ((fields ++ p.fields).all fun f => f.1 ∈ own || f.2.isWhole (enclosing + 1)) = true := by
    rw [List.all_eq_true]
    intro f hf
    rw [Bool.or_eq_true]
    rcases List.mem_append.1 hf with hf | hf
    · exact .inl (decide_eq_true (hown f hf))
    · exact .inr (p.isWhole_fields (by omega) f hf)
  unfold Json.openRecord?
  dsimp only
  rw [if_pos hall, Record.select?_of_sublist hsub hnodup horder]

/-- What a record of a principal has under a name is the attribute of the object. -/
theorem attribute?_of_openRecord? {own : List String} {enclosing : Nat} {v : Json} {r : Record}
    (h : v.openRecord? own Permissions.fieldNames enclosing = some r) {name : String}
    (hname : name ∈ own ++ Permissions.fieldNames) : v.attribute? name = r.get? name := by
  unfold Json.openRecord? at h
  split at h
  · split_ifs at h
    exact Record.attribute?_of_select? h hname
  · cases h

namespace User

/-- The fields of a user but its permissions. -/
def ownFields (u : User) : List (String × Json) :=
  ("id", .string u.id) :: Json.listField "schemas" .string u.schemas ++
    [("emails", Json.ofList Email.toJson u.emails), ("userName", .string u.userName),
     ("displayName", .string u.displayName), ("active", .bool u.active)]

/-- A user as a record. -/
def record (u : User) : Record := ⟨u.ownFields ++ u.permissions.fields, true⟩

theorem keys_ownFields (u : User) : (u.ownFields.map (·.1)).Sublist ownFieldNames := by
  unfold ownFields
  rw [List.map_append, List.map_cons]
  exact ((Json.keys_listField "schemas" _ _).cons_cons "id").append (List.Sublist.refl _)

theorem keys_record (u : User) :
    ((u.ownFields ++ u.permissions.fields).map (·.1)).Sublist (ownFieldNames ++ Permissions.fieldNames) := by
  rw [List.map_append]
  exact u.keys_ownFields.append u.permissions.keys_fields

theorem openRecord?_toJson {enclosing : Nat} (h : enclosing + 3 ≤ Json.greatestHeight) (u : User) :
    u.toJson.openRecord? ownFieldNames Permissions.fieldNames enclosing = some u.record := by
  have hown : ∀ f ∈ u.ownFields, f.1 ∈ ownFieldNames :=
    fun f hf => u.keys_ownFields.subset (List.mem_map_of_mem hf)
  exact openRecord?_of_sublist h u.keys_record (by decide) hown fun _ hn => hn

theorem attribute?_toJson (u : User) (name : String) : u.toJson.attribute? name = u.record.get? name :=
  Record.attribute?_of_sublist u.keys_record (by decide) name

theorem read_toJson {enclosing : Nat} (h : enclosing + 3 ≤ Json.greatestHeight) (u : User) :
    read enclosing u.toJson = some u := by
  have hid : u.record.field "id" "" readId = some u.id :=
    Record.field_of_get? (.string u.id) (by simp [record, ownFields]) rfl
  have hschemas : u.record.field "schemas" [] (Json.list? Json.string?) = some u.schemas :=
    Record.field_list .string (by simp [record, ownFields, Permissions.fields]) fun _ => rfl
  have hemails : u.record.field "emails" [] (Json.list? Email.read) = some u.emails :=
    Record.field_of_get? (Json.ofList Email.toJson u.emails) (by simp [record, ownFields])
      (Json.list?_ofList Email.read_toJson _)
  have huserName : u.record.field "userName" "" Json.string? = some u.userName :=
    Record.field_of_get? (.string u.userName) (by simp [record, ownFields]) rfl
  have hdisplayName : u.record.field "displayName" "" Json.string? = some u.displayName :=
    Record.field_of_get? (.string u.displayName) (by simp [record, ownFields]) rfl
  have hactive : u.record.field "active" false Json.bool? = some u.active :=
    Record.field_of_get? (.bool u.active) (by simp [record, ownFields]) rfl
  have hpermissions : Permissions.ofRecord? u.record = some u.permissions :=
    Permissions.ofRecord?_of_get? (by simp [record, ownFields, Permissions.fields])
      (by simp [record, ownFields, Permissions.fields])
  simp only [read, openRecord?_toJson h, Option.bind_eq_bind, Option.bind_some, hid, hschemas, hemails,
    huserName, hdisplayName, hactive, hpermissions]
  rfl

end User

namespace Member

/-- The fields of a member. -/
def fields (m : Member) : List (String × Json) :=
  ("value", .string m.id) :: Json.textField "display" m.displayName ++ Json.textField "$ref" m.reference

/-- A member as a record. -/
def record (m : Member) : Record := ⟨m.fields, true⟩

theorem record?_toJson (m : Member) : m.toJson.record? ["value", "display", "$ref"] = some m.record := by
  have hsub : (m.fields.map (·.1)).Sublist ["value", "display", "$ref"] := by
    unfold fields
    rw [List.map_append, List.map_cons]
    exact ((Json.keys_textField "display" _).cons_cons "value").append (Json.keys_textField "$ref" _)
  exact Record.select?_of_sublist hsub (by decide) fun _ hn => hn

theorem read_toJson (m : Member) : read m.toJson = some m := by
  have hid : m.record.field "value" "" Json.string? = some m.id :=
    Record.field_of_get? (.string m.id) (by simp [record, fields]) rfl
  have hdisplayName : m.record.field "display" "" Json.string? = some m.displayName :=
    Record.field_text (by simp [record, fields])
  have hreference : m.record.field "$ref" "" Json.string? = some m.reference :=
    Record.field_text (by simp [record, fields])
  simp only [read, record?_toJson, Option.bind_eq_bind, Option.bind_some, hid, hdisplayName, hreference]
  rfl

end Member

namespace Group

/-- The fields of a group but its permissions. -/
def ownFields (g : Group) : List (String × Json) :=
  [("id", .string g.id), ("displayName", .string g.displayName)] ++
    Json.listField "members" Member.toJson g.members ++ metaField g.resourceType ++
    Json.listField "schemas" .string g.schemas

/-- A group as a record. -/
def record (g : Group) : Record := ⟨g.ownFields ++ g.permissions.fields, true⟩

theorem keys_metaField (resourceType : String) : ((metaField resourceType).map (·.1)).Sublist ["meta"] := by
  unfold metaField
  split_ifs <;> simp

@[simp]
theorem get?_metaField (resourceType : String) (named : Bool) (name : String) :
    (⟨metaField resourceType, named⟩ : Record).get? name =
      if "meta" = name ∧ resourceType ≠ "" then
        some (.object [("resourceType", .string resourceType)]) else none := by
  unfold metaField
  by_cases h : resourceType = "" <;> simp [h]

theorem keys_ownFields (g : Group) : (g.ownFields.map (·.1)).Sublist ownFieldNames := by
  unfold ownFields
  rw [List.map_append, List.map_append, List.map_append]
  exact (((List.Sublist.refl ["id", "displayName"]).append (Json.keys_listField "members" _ _)).append
    (keys_metaField _)).append (Json.keys_listField "schemas" _ _)

theorem keys_record (g : Group) :
    ((g.ownFields ++ g.permissions.fields).map (·.1)).Sublist (ownFieldNames ++ Permissions.fieldNames) := by
  rw [List.map_append]
  exact g.keys_ownFields.append g.permissions.keys_fields

theorem openRecord?_toJson {enclosing : Nat} (h : enclosing + 3 ≤ Json.greatestHeight) (g : Group) :
    g.toJson.openRecord? ownFieldNames Permissions.fieldNames enclosing = some g.record := by
  have hown : ∀ f ∈ g.ownFields, f.1 ∈ ownFieldNames :=
    fun f hf => g.keys_ownFields.subset (List.mem_map_of_mem hf)
  exact openRecord?_of_sublist h g.keys_record (by decide) hown fun _ hn => hn

theorem attribute?_toJson (g : Group) (name : String) : g.toJson.attribute? name = g.record.get? name :=
  Record.attribute?_of_sublist g.keys_record (by decide) name

theorem read_toJson {enclosing : Nat} (h : enclosing + 3 ≤ Json.greatestHeight) (g : Group) :
    read enclosing g.toJson = some g := by
  have hid : g.record.field "id" "" readId = some g.id :=
    Record.field_of_get? (.string g.id) (by simp [record, ownFields]) rfl
  have hdisplayName : g.record.field "displayName" "" Json.string? = some g.displayName :=
    Record.field_of_get? (.string g.displayName) (by simp [record, ownFields]) rfl
  have hmembers : g.record.field "members" [] (Json.list? Member.read) = some g.members :=
    Record.field_list Member.toJson (by simp [record, ownFields, Permissions.fields]) Member.read_toJson
  have hmeta : g.record.field "meta" "" readMeta = some g.resourceType := by
    have hget : g.record.get? "meta" = if g.resourceType ≠ "" then
        some (.object [("resourceType", .string g.resourceType)]) else none := by
      simp [record, ownFields, Permissions.fields]
    rw [Record.field, hget]
    split_ifs with hempty
    · simp [readMeta, Json.record?, Record.select?, Record.field, Json.string?]
    · rw [not_not.1 hempty]
  have hschemas : g.record.field "schemas" [] (Json.list? Json.string?) = some g.schemas :=
    Record.field_list .string (by simp [record, ownFields, Permissions.fields]) fun _ => rfl
  have hpermissions : Permissions.ofRecord? g.record = some g.permissions :=
    Permissions.ofRecord?_of_get? (by simp [record, ownFields, Permissions.fields])
      (by simp [record, ownFields, Permissions.fields])
  simp only [read, openRecord?_toJson h, Option.bind_eq_bind, Option.bind_some, hid, hdisplayName, hmembers,
    hmeta, hschemas, hpermissions]
  rfl

end Group

namespace ServicePrincipal

/-- The fields of a service principal but its permissions. -/
def ownFields (s : ServicePrincipal) : List (String × Json) :=
  [("id", .string s.id), ("displayName", .string s.displayName), ("active", .bool s.active),
    ("applicationId", .string s.applicationId)]

/-- A service principal as a record. -/
def record (s : ServicePrincipal) : Record := ⟨s.ownFields ++ s.permissions.fields, true⟩

theorem keys_record (s : ServicePrincipal) :
    ((s.ownFields ++ s.permissions.fields).map (·.1)).Sublist (ownFieldNames ++ Permissions.fieldNames) := by
  rw [List.map_append]
  exact (List.Sublist.refl ownFieldNames).append s.permissions.keys_fields

theorem openRecord?_toJson {enclosing : Nat} (h : enclosing + 3 ≤ Json.greatestHeight)
    (s : ServicePrincipal) :
    s.toJson.openRecord? ownFieldNames Permissions.fieldNames enclosing = some s.record := by
  have hown : ∀ f ∈ s.ownFields, f.1 ∈ ownFieldNames :=
    fun f hf => (List.mem_map_of_mem hf : f.1 ∈ s.ownFields.map (·.1))
  exact openRecord?_of_sublist h s.keys_record (by decide) hown fun _ hn => hn

theorem attribute?_toJson (s : ServicePrincipal) (name : String) :
    s.toJson.attribute? name = s.record.get? name :=
  Record.attribute?_of_sublist s.keys_record (by decide) name

theorem read_toJson {enclosing : Nat} (h : enclosing + 3 ≤ Json.greatestHeight) (s : ServicePrincipal) :
    read enclosing s.toJson = some s := by
  have hid : s.record.field "id" "" readId = some s.id :=
    Record.field_of_get? (.string s.id) (by simp [record, ownFields]) rfl
  have hdisplayName : s.record.field "displayName" "" Json.string? = some s.displayName :=
    Record.field_of_get? (.string s.displayName) (by simp [record, ownFields]) rfl
  have hactive : s.record.field "active" false Json.bool? = some s.active :=
    Record.field_of_get? (.bool s.active) (by simp [record, ownFields]) rfl
  have happlicationId : s.record.field "applicationId" "" Json.string? = some s.applicationId :=
    Record.field_of_get? (.string s.applicationId) (by simp [record, ownFields]) rfl
  have hpermissions : Permissions.ofRecord? s.record = some s.permissions :=
    Permissions.ofRecord?_of_get? (by simp [record, ownFields, Permissions.fields])
      (by simp [record, ownFields, Permissions.fields])
  simp only [read, openRecord?_toJson h, Option.bind_eq_bind, Option.bind_some, hid, hdisplayName, hactive,
    happlicationId, hpermissions]
  rfl

end ServicePrincipal

/-- A principal is read as it was written. -/
theorem Principal.read_toJson (p : Principal) : read p.toJson p.kind = some p := by
  have h : 0 + 3 ≤ Json.greatestHeight := by decide
  cases p with
  | user u => exact congrArg (Option.map user) (User.read_toJson h u)
  | group g => exact congrArg (Option.map group) (Group.read_toJson h g)
  | servicePrincipal s => exact congrArg (Option.map servicePrincipal) (ServicePrincipal.read_toJson h s)

end AccessSync
