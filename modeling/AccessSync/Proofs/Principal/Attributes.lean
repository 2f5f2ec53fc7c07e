import AccessSync.Proofs.Principal.Record
/-!
# Attributes of principals

A principal is read and written attribute by attribute. `Attribute` says how one of them is read, what
stands for it if it is missing, and what is written, if anything; `Described` says that objects of a
kind are read and written by their attributes. So an object that was read and is written back gets no
attribute but those that are always written (`Principal.attribute_added`), and an attribute that had
been written the same way comes back unchanged (`Principal.attribute_kept`).
-/

namespace AccessSync

/-- One attribute of objects of a kind. -/
structure Attribute (α : Type) where
  name : String
  Value : Type
  value : α → Value
  /-- Stands for an attribute that is missing. -/
  default : Value
  read : Json → Option Value
  /-- What is written, if it is. -/
  write : Value → Option Json
  read_write : ∀ {a v}, write a = some v → read v = some a

namespace Attribute

variable {α β : Type}

/-- An attribute that is always written. -/
def always (name : String) (value : α → β) (default : β) (read : Json → Option β) (write : β → Json)
    (h : ∀ a, read (write a) = some a) : Attribute α :=
  ⟨name, β, value, default, read, fun a => some (write a), fun {a _} hw => Option.some.inj hw ▸ h a⟩

/-- A list that is left out if it is empty. -/
def list (name : String) (value : α → List β) (read : Json → Option β) (write : β → Json)
    (h : ∀ a, read (write a) = some a) : Attribute α where
  name := name
  Value := List β
  value := value
  default := []
  read := Json.list? read
  write items := if items ≠ [] then some (Json.ofList write items) else none
  read_write := by
    intro items v hw
    split_ifs at hw
    cases hw
    exact Json.list?_ofList h items

/-- What was read of the attribute in a value is what the object says. -/
def ReadIn (a : Attribute α) (v : Json) (o : α) : Prop :=
  (match v.attribute? a.name with
    | some x => a.read x
    | none => some a.default) = some (a.value o)

/-- The attributes of permissions. -/
def permissions (value : α → Permissions) : List (Attribute α) :=
  [list "roles" (fun o => (value o).roles) Permissions.readValue Permissions.writeValue
      Permissions.readValue_writeValue,
   list "entitlements" (fun o => (value o).entitlements) Permissions.readValue Permissions.writeValue
      Permissions.readValue_writeValue]

/-- Where the group belongs, left out if that is not known. -/
def resourceType : Attribute Group where
  name := "meta"
  Value := String
  value := Group.resourceType
  default := ""
  read := Group.readMeta
  write s := if s ≠ "" then some (.object [("resourceType", .string s)]) else none
  read_write := by
    intro s v hw
    split_ifs at hw
    cases hw
    simp [Group.readMeta, Json.record?, Record.select?, Record.field, Json.string?]

end Attribute

/-! ## Objects that are described by their attributes -/

/-- Objects are read and written by these attributes, of which `required` are always written. -/
structure Described {α : Type} (read : Json → Option α) (write : α → Json)
    (attributes : List (Attribute α)) (required : List String) : Prop where
  readIn : ∀ {v o}, read v = some o → ∀ a ∈ attributes, a.ReadIn v o
  written : ∀ o, ∀ a ∈ attributes, (write o).attribute? a.name = a.write (a.value o)
  complete : ∀ o name, (write o).attribute? name ≠ none → ∃ a ∈ attributes, a.name = name
  required : ∀ a ∈ attributes, a.write a.default ≠ none → a.name ∈ required

namespace Described

variable {α : Type} {read : Json → Option α} {write : α → Json} {attributes : List (Attribute α)}
  {required : List String} {v x : Json} {o : α} {name : String}

/-- An attribute that is written was read, unless it is always written. -/
theorem added (h : Described read write attributes required) (ho : read v = some o)
    (hx : (write o).attribute? name ≠ none) : v.attribute? name ≠ none ∨ name ∈ required := by
  obtain ⟨a, ha, rfl⟩ := h.complete o name hx
  by_cases hv : v.attribute? a.name = none
  · right
    have hread := h.readIn ho a ha
    rw [Attribute.ReadIn, hv] at hread
    rw [h.written o a ha, ← Option.some.inj hread] at hx
    exact h.required a ha hx
  · exact .inl hv

/-- An attribute that was read as another object would write it is written so. -/
theorem kept (h : Described read write attributes required) (ho : read v = some o) {o' : α}
    (hx : (write o').attribute? name = some x) (hv : v.attribute? name = some x) :
    (write o).attribute? name = some x := by
  obtain ⟨a, ha, rfl⟩ := h.complete o' name (by simp [hx])
  have hread := h.readIn ho a ha
  rw [Attribute.ReadIn, hv] at hread
  rw [h.written o' a ha] at hx
  have hsame : a.value o' = a.value o := Option.some.inj ((a.read_write hx).symm.trans hread)
  rw [h.written o a ha, ← hsame, hx]

end Described

/-! ## Users, groups and service principals -/

/-- What was read of a field in a record is what the object says. -/
def Attribute.FieldOf {α : Type} (a : Attribute α) (r : Record) (o : α) : Prop :=
  r.field a.name a.default a.read = some (a.value o)

/-- What was read from a record was read in the object that the record was opened from. -/
theorem Attribute.FieldOf.readIn {α : Type} {own : List String} {enclosing : Nat} {v : Json} {r : Record}
    {a : Attribute α} {o : α} (h : a.FieldOf r o)
    (hr : v.openRecord? own Permissions.fieldNames enclosing = some r)
    (hname : a.name ∈ own ++ Permissions.fieldNames) : a.ReadIn v o := by
  rw [ReadIn, attribute?_of_openRecord? hr hname]
  exact h

theorem Attribute.fieldOf_permissions {α : Type} {r : Record} {value : α → Permissions} {o : α}
    (h : Permissions.ofRecord? r = some (value o)) : ∀ a ∈ permissions value, a.FieldOf r o := by
  simp only [Permissions.ofRecord?, Option.bind_eq_bind, Option.bind_eq_some_iff] at h
  obtain ⟨roles, hroles, entitlements, hentitlements, heq⟩ := h
  have hvalue : ⟨roles, entitlements⟩ = value o := Option.some.inj heq
  simp only [permissions, List.forall_mem_cons, FieldOf, list, ← hvalue]
  exact ⟨hroles, hentitlements, by simp⟩

/-- Objects whose records hold just these attributes are described by them. -/
theorem Described.ofRecord {α : Type} {own required : List String} {read : Json → Option α} {write : α → Json}
    {attributes : List (Attribute α)} {record : α → Record}
    (hnames : attributes.map (·.name) = own ++ Permissions.fieldNames)
    (hread : ∀ {v o}, read v = some o → ∃ r, v.openRecord? own Permissions.fieldNames 0 = some r ∧
      ∀ a ∈ attributes, a.FieldOf r o)
    (hrecord : ∀ o name, (write o).attribute? name = (record o).get? name)
    (hkeys : ∀ o, ((record o).entries.map (·.1)).Sublist (own ++ Permissions.fieldNames))
    (hwritten : ∀ o, ∀ a ∈ attributes, (record o).get? a.name = a.write (a.value o))
    (hrequired : ∀ a ∈ attributes, a.write a.default ≠ none → a.name ∈ required) :
    Described read write attributes required where
  readIn := by
    intro v o h a ha
    obtain ⟨r, hr, hfields⟩ := hread h
    exact (hfields a ha).readIn hr (hnames ▸ List.mem_map_of_mem ha)
  written o a ha := (hrecord o a.name).trans (hwritten o a ha)
  complete := by
    intro o name hname
    rw [hrecord] at hname
    exact List.mem_map.1 (hnames ▸ (hkeys o).subset (Record.mem_keys hname))
  required := hrequired

namespace User

def attributes : List (Attribute User) :=
  [.always "id" User.id "" readId .string fun _ => rfl,
   .list "schemas" User.schemas Json.string? .string fun _ => rfl,
   .always "emails" User.emails [] (Json.list? Email.read) (Json.ofList Email.toJson)
    (Json.list?_ofList Email.read_toJson),
   .always "userName" User.userName "" Json.string? .string fun _ => rfl,
   .always "displayName" User.displayName "" Json.string? .string fun _ => rfl,
   .always "active" User.active false Json.bool? .bool fun _ => rfl] ++
  Attribute.permissions User.permissions

/-- The attributes that every user is written with. -/
def required : List String := ["id", "emails", "userName", "displayName", "active"]

theorem names_attributes : attributes.map (·.name) = ownFieldNames ++ Permissions.fieldNames := rfl

theorem fieldOf_of_read {enclosing : Nat} {v : Json} {u : User} (h : read enclosing v = some u) :
    ∃ r, v.openRecord? ownFieldNames Permissions.fieldNames enclosing = some r ∧
      ∀ a ∈ attributes, a.FieldOf r u := by
  simp only [read, Option.bind_eq_bind, Option.bind_eq_some_iff] at h
  obtain ⟨r, hr, id, hid, schemas, hschemas, emails, hemails, userName, huserName, displayName,
    hdisplayName, active, hactive, permissions, hpermissions, heq⟩ := h
  cases Option.some.inj heq
  refine ⟨r, hr, List.forall_mem_append.2 ⟨?_, Attribute.fieldOf_permissions hpermissions⟩⟩
  simp only [List.forall_mem_cons]
  exact ⟨hid, hschemas, hemails, huserName, hdisplayName, hactive, by simp⟩

theorem described : Described (read 0) toJson attributes required :=
  Described.ofRecord names_attributes fieldOf_of_read attribute?_toJson keys_record
    (by simp [attributes, Attribute.always, Attribute.list, Attribute.permissions, record, ownFields,
      Permissions.fields])
    (by simp [attributes, Attribute.always, Attribute.list, Attribute.permissions, required])

end User

namespace Group

def attributes : List (Attribute Group) :=
  [.always "id" Group.id "" readId .string fun _ => rfl,
   .always "displayName" Group.displayName "" Json.string? .string fun _ => rfl,
   .list "members" Group.members Member.read Member.toJson Member.read_toJson,
   .resourceType,
   .list "schemas" Group.schemas Json.string? .string fun _ => rfl] ++
  Attribute.permissions Group.permissions

/-- The attributes that every group is written with. -/
def required : List String := ["id", "displayName"]

theorem names_attributes : attributes.map (·.name) = ownFieldNames ++ Permissions.fieldNames := rfl

theorem fieldOf_of_read {enclosing : Nat} {v : Json} {g : Group} (h : read enclosing v = some g) :
    ∃ r, v.openRecord? ownFieldNames Permissions.fieldNames enclosing = some r ∧
      ∀ a ∈ attributes, a.FieldOf r g := by
  simp only [read, Option.bind_eq_bind, Option.bind_eq_some_iff] at h
  obtain ⟨r, hr, id, hid, displayName, hdisplayName, members, hmembers, resourceType, hresourceType,
    schemas, hschemas, permissions, hpermissions, heq⟩ := h
  cases Option.some.inj heq
  refine ⟨r, hr, List.forall_mem_append.2 ⟨?_, Attribute.fieldOf_permissions hpermissions⟩⟩
  simp only [List.forall_mem_cons]
  exact ⟨hid, hdisplayName, hmembers, hresourceType, hschemas, by simp⟩

theorem described : Described (read 0) toJson attributes required :=
  Described.ofRecord names_attributes fieldOf_of_read attribute?_toJson keys_record
    (by simp [attributes, Attribute.always, Attribute.list, Attribute.permissions, Attribute.resourceType,
      record, ownFields, Permissions.fields])
    (by simp [attributes, Attribute.always, Attribute.list, Attribute.permissions, Attribute.resourceType,
      required])

end Group

namespace ServicePrincipal

def attributes : List (Attribute ServicePrincipal) :=
  [.always "id" ServicePrincipal.id "" readId .string fun _ => rfl,
   .always "displayName" ServicePrincipal.displayName "" Json.string? .string fun _ => rfl,
   .always "active" ServicePrincipal.active false Json.bool? .bool fun _ => rfl,
   .always "applicationId" ServicePrincipal.applicationId "" Json.string? .string fun _ => rfl] ++
  Attribute.permissions ServicePrincipal.permissions

/-- The attributes that every service principal is written with. -/
def required : List String := ["id", "displayName", "active", "applicationId"]

theorem names_attributes : attributes.map (·.name) = ownFieldNames ++ Permissions.fieldNames := rfl

theorem fieldOf_of_read {enclosing : Nat} {v : Json} {s : ServicePrincipal}
    (h : read enclosing v = some s) :
    ∃ r, v.openRecord? ownFieldNames Permissions.fieldNames enclosing = some r ∧
      ∀ a ∈ attributes, a.FieldOf r s := by
  simp only [read, Option.bind_eq_bind, Option.bind_eq_some_iff] at h
  obtain ⟨r, hr, id, hid, displayName, hdisplayName, active, hactive, applicationId, happlicationId,
    permissions, hpermissions, heq⟩ := h
  cases Option.some.inj heq
  refine ⟨r, hr, List.forall_mem_append.2 ⟨?_, Attribute.fieldOf_permissions hpermissions⟩⟩
  simp only [List.forall_mem_cons]
  exact ⟨hid, hdisplayName, hactive, happlicationId, by simp⟩

theorem described : Described (read 0) toJson attributes required :=
  Described.ofRecord names_attributes fieldOf_of_read attribute?_toJson keys_record
    (by simp [attributes, Attribute.always, Attribute.list, Attribute.permissions, record, ownFields,
      Permissions.fields])
    (by simp [attributes, Attribute.always, Attribute.list, Attribute.permissions, required])

end ServicePrincipal

namespace Principal

variable {kind : PrincipalKind} {p : Principal} {v x : Json} {name : String}

/-- The attributes that every principal of that kind is written with. -/
def required : PrincipalKind → List String
  | .user => User.required
  | .group => Group.required
  | .servicePrincipal => ServicePrincipal.required

theorem kind_of_read (h : read v kind = some p) : p.kind = kind := by
  cases kind <;> (obtain ⟨_, -, rfl⟩ := Option.map_eq_some_iff.1 h; rfl)

/-- What is written of a principal that was read was read, but for what is always written. -/
theorem attribute_added (h : read v kind = some p) (hx : p.toJson.attribute? name ≠ none) :
    v.attribute? name ≠ none ∨ name ∈ required kind := by
  cases kind with
  | user =>
    obtain ⟨u, hu, rfl⟩ := Option.map_eq_some_iff.1 h
    exact User.described.added hu hx
  | group =>
    obtain ⟨g, hg, rfl⟩ := Option.map_eq_some_iff.1 h
    exact Group.described.added hg hx
  | servicePrincipal =>
    obtain ⟨s, hs, rfl⟩ := Option.map_eq_some_iff.1 h
    exact ServicePrincipal.described.added hs hx

/-- The attribute is written as `x` of some principal of that kind. -/
def Writes (kind : PrincipalKind) (name : String) (x : Json) : Prop :=
  ∃ q : Principal, q.kind = kind ∧ q.toJson.attribute? name = some x

/-- An attribute that was read as it is written of some principal is written as it was read. -/
theorem attribute_kept (h : read v kind = some p) (hwrites : Writes kind name x)
    (hv : v.attribute? name = some x) : p.toJson.attribute? name = some x := by
  obtain ⟨q, rfl, hx⟩ := hwrites
  cases q with
  | user u' =>
    obtain ⟨u, hu, rfl⟩ := Option.map_eq_some_iff.1 h
    exact User.described.kept hu hx hv
  | group g' =>
    obtain ⟨g, hg, rfl⟩ := Option.map_eq_some_iff.1 h
    exact Group.described.kept hg hx hv
  | servicePrincipal s' =>
    obtain ⟨s, hs, rfl⟩ := Option.map_eq_some_iff.1 h
    exact ServicePrincipal.described.kept hs hx hv

end Principal

end AccessSync
