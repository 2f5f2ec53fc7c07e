import AccessSync.Principal.NewUser
import AccessSync.Proofs.Json.Rereading
import AccessSync.Proofs.Principal.Record
import AccessSync.Proofs.RuleSet.Serving
import AccessSync.Proofs.Text.Encoding
import AccessSync.Workspace
/-!
# What is written is read again

Whatever is kept as JSON is read again from its text as what it was, and so it is from the bytes of the
text (`Json.Survives`), though its text has only some of the fields (`Json.Shows`): `wire_survives`. A
value survives if it is plain and is read as it was written (`Json.survives_of_read`).
-/

namespace AccessSync

namespace Json

variable {α : Type} {read : Json → Option α} {write : α → Json}

/-- The text that is written for a value, and the bytes of that text, are read as the value. -/
def Survives (read : Json → Option α) (write : α → Json) (a : α) : Prop :=
  (ofText (write a).toText).bind read = some a ∧
    (ofBytes (Utf8.encode (write a).toText.toList)).bind read = some a

/-- The names of an object's fields, in their order. -/
def names? : Json → Option (List String)
  | .object fields => some (fields.map (·.1))
  | _ => none

/-- Those of the names that are marked. -/
def marked (fields : List (String × Bool)) : List String := (fields.filter (·.2)).map (·.1)

/-- The text of the value is an object that has the marked fields and no other. -/
def Shows (v : Json) (fields : List (String × Bool)) : Prop :=
  (ofText v.toText).bind names? = some (marked fields)

theorem survives_of_read {a : α} (hplain : (write a).isPlain = true) (hread : read (write a) = some a) :
    Survives read write a := by
  have htext : (ofText (write a).toText).bind read = some a := by
    rw [ofText_toText hplain, Option.bind_some, hread]
  refine ⟨htext, ?_⟩
  rw [ofBytes, Utf8.symbols_encode]
  exact htext

theorem shows_of_names {fields : List (String × Json)} {shown : List (String × Bool)}
    (hplain : fieldsPlain fields = true) (hnames : fields.map (·.1) = marked shown) :
    (object fields).Shows shown := by
  have htext : ofText (object fields).toText = some (object fields) := ofText_toText hplain
  rw [Shows, htext, Option.bind_some, names?, hnames]

@[simp]
theorem marked_eq_flatMap (fields : List (String × Bool)) :
    marked fields = fields.flatMap fun f => if f.2 then [f.1] else [] := by
  unfold marked
  induction fields with
  | nil => rfl
  | cons f fields ih =>
    rw [List.filter_cons, List.flatMap_cons, ← ih]
    split_ifs <;> rfl

/-! ## Fields that are left out -/

@[simp]
theorem names_listField (name : String) (write : α → Json) (items : List α) :
    (listField name write items).map (·.1) = if items = [] then [] else [name] := by
  cases items <;> rfl

@[simp]
theorem names_textField (name value : String) :
    (textField name value).map (·.1) = if value = "" then [] else [name] := by
  unfold textField
  split_ifs <;> rfl

@[simp]
theorem fieldsPlain_append (fields fields' : List (String × Json)) :
    fieldsPlain (fields ++ fields') = (fieldsPlain fields && fieldsPlain fields') := by
  induction fields with
  | nil => rfl
  | cons f fields ih => rw [List.cons_append, fieldsPlain, fieldsPlain, ih, Bool.and_assoc]

theorem fieldsPlain_listField (h : ∀ a, (write a).isPlain = true) (name : String) (items : List α) :
    fieldsPlain (listField name write items) = true := by
  unfold listField
  split_ifs
  · rfl
  · rw [fieldsPlain, isPlain_ofList h, fieldsPlain, Bool.and_self]

@[simp]
theorem fieldsPlain_textField (name value : String) : fieldsPlain (textField name value) = true := by
  unfold textField
  split_ifs <;> rfl

/-! ## Integers -/

/-- A signed integer of 64 bits is read as it was written. -/
@[simp]
theorem int64?_ofInt (n : Int64) : (ofInt n.toInt).int64? = some n := by
  have hleast : -(Nat.pow 2 63) ≤ n.toInt := n.le_toInt
  have hgreatest : n.toInt < Nat.pow 2 63 := n.toInt_lt
  simp only [int64?, integer?, ofInt]
  rw [if_pos ⟨hleast, hgreatest⟩, Int64.ofInt_toInt]

@[simp]
theorem isPlain_ofInt64 (n : Int64) : (ofInt n.toInt).isPlain = true := by
  have hleast : -(Nat.pow 2 63) ≤ n.toInt := n.le_toInt
  have hgreatest : n.toInt ≤ greatest64 := n.toInt_lt.le.trans (by decide)
  exact decide_eq_true ⟨hleast, hgreatest⟩

end Json

/-! ## Principals -/

namespace Permissions

theorem fieldsPlain_fields (p : Permissions) : Json.fieldsPlain p.fields = true := by
  have hlist : ∀ name values, Json.fieldsPlain (Json.listField name writeValue values) = true :=
    fun name values => Json.fieldsPlain_listField (fun _ => rfl) name values
  rw [fields, Json.fieldsPlain_append, hlist, hlist, Bool.and_self]

end Permissions

namespace User

theorem fieldsPlain_record (u : User) : Json.fieldsPlain u.record.entries = true := by
  have hschemas : Json.fieldsPlain (Json.listField "schemas" Json.string u.schemas) = true :=
    Json.fieldsPlain_listField (fun _ => rfl) _ _
  have hemails : (Json.ofList Email.toJson u.emails).isPlain = true := Json.isPlain_ofList (fun _ => rfl) _
  simp [record, ownFields, Json.isPlain, Json.fieldsPlain, hschemas, hemails, Permissions.fieldsPlain_fields]

theorem survives (u : User) : Json.Survives (read 0) toJson u :=
  Json.survives_of_read u.fieldsPlain_record (read_toJson (by decide) u)

theorem shows_toJson (u : User) :
    u.toJson.Shows [("id", true), ("schemas", u.schemas ≠ []), ("emails", true), ("userName", true),
      ("displayName", true), ("active", true), ("roles", u.permissions.roles ≠ []),
      ("entitlements", u.permissions.entitlements ≠ [])] := by
  refine Json.shows_of_names u.fieldsPlain_record ?_
  simp [Permissions.fields]

end User

namespace Member

theorem fieldsPlain_fields (m : Member) : Json.fieldsPlain m.fields = true := by
  simp [fields, Json.isPlain, Json.fieldsPlain]

theorem survives (m : Member) : Json.Survives read toJson m :=
  Json.survives_of_read m.fieldsPlain_fields m.read_toJson

theorem shows_toJson (m : Member) :
    m.toJson.Shows [("value", true), ("display", m.displayName ≠ ""), ("$ref", m.reference ≠ "")] := by
  refine Json.shows_of_names m.fieldsPlain_fields ?_
  simp

end Member

namespace Group

theorem fieldsPlain_metaField (resourceType : String) : Json.fieldsPlain (metaField resourceType) = true := by
  unfold metaField
  split_ifs <;> rfl

theorem names_metaField (resourceType : String) :
    (metaField resourceType).map (·.1) = if resourceType = "" then [] else ["meta"] := by
  unfold metaField
  split_ifs <;> rfl

theorem fieldsPlain_record (g : Group) : Json.fieldsPlain g.record.entries = true := by
  have hmembers : Json.fieldsPlain (Json.listField "members" Member.toJson g.members) = true :=
    Json.fieldsPlain_listField Member.fieldsPlain_fields _ _
  have hschemas : Json.fieldsPlain (Json.listField "schemas" Json.string g.schemas) = true :=
    Json.fieldsPlain_listField (fun _ => rfl) _ _
  simp [record, ownFields, Json.isPlain, Json.fieldsPlain, hmembers, hschemas, fieldsPlain_metaField,
    Permissions.fieldsPlain_fields]

theorem survives (g : Group) : Json.Survives (read 0) toJson g :=
  Json.survives_of_read g.fieldsPlain_record (read_toJson (by decide) g)

theorem shows_toJson (g : Group) :
    g.toJson.Shows [("id", true), ("displayName", true), ("members", g.members ≠ []),
      ("meta", g.resourceType ≠ ""), ("schemas", g.schemas ≠ []), ("roles", g.permissions.roles ≠ []),
      ("entitlements", g.permissions.entitlements ≠ [])] := by
  refine Json.shows_of_names g.fieldsPlain_record ?_
  simp [Permissions.fields, names_metaField]

end Group

namespace ServicePrincipal

theorem fieldsPlain_record (s : ServicePrincipal) : Json.fieldsPlain s.record.entries = true := by
  simp [record, ownFields, Json.isPlain, Json.fieldsPlain, Permissions.fieldsPlain_fields]

theorem survives (s : ServicePrincipal) : Json.Survives (read 0) toJson s :=
  Json.survives_of_read s.fieldsPlain_record (read_toJson (by decide) s)

theorem shows_toJson (s : ServicePrincipal) :
    s.toJson.Shows [("id", true), ("displayName", true), ("active", true), ("applicationId", true),
      ("roles", s.permissions.roles ≠ []), ("entitlements", s.permissions.entitlements ≠ [])] := by
  refine Json.shows_of_names s.fieldsPlain_record ?_
  simp [Permissions.fields]

end ServicePrincipal

/-! ## Rules, workspaces and new users -/

theorem Rule.survives (r : Rule) : Json.Survives read toJson r := by
  have hprincipals : (Json.ofList Json.string r.principals).isPlain = true :=
    Json.isPlain_ofList (fun _ => rfl) _
  refine Json.survives_of_read ?_ r.read_toJson
  simp [toJson, Json.isPlain, Json.fieldsPlain, hprincipals]

theorem Workspace.survives (w : Workspace) : Json.Survives read toJson w := by
  refine Json.survives_of_read ?_ ?_
  · simp [toJson, Json.isPlain, Json.fieldsPlain]
  · simp [read, toJson, Json.record?, Record.select?, Record.field, Json.string?]

namespace Assignee

theorem isPlain_toJson (a : Assignee) : a.toJson.isPlain = true := by
  simp [toJson, Json.isPlain, Json.fieldsPlain]

theorem read_toJson (a : Assignee) : read a.toJson = some a := by
  simp [read, toJson, Json.record?, Record.select?, Record.field, Json.string?]

end Assignee

theorem Assignment.survives (a : Assignment) : Json.Survives read toJson a := by
  have hplain : (Json.ofOption Assignee.toJson a.principal).isPlain = true := by
    cases a.principal with
    | none => rfl
    | some assignee => exact assignee.isPlain_toJson
  have hprincipal : Json.nullable? Assignee.read (Json.ofOption Assignee.toJson a.principal) =
      some a.principal := by
    cases a.principal with
    | none => rfl
    | some assignee => exact congrArg (Option.map some) assignee.read_toJson
  have hallowed : (Json.ofList Json.string a.permissions).isPlain = true :=
    Json.isPlain_ofList (fun _ => rfl) _
  have hpermissions : Json.list? Json.string? (Json.ofList Json.string a.permissions) = some a.permissions :=
    Json.list?_ofList (fun _ : String => rfl) _
  refine Json.survives_of_read ?_ ?_
  · simp [toJson, Json.isPlain, Json.fieldsPlain, hplain, hallowed]
  · simp [read, toJson, Json.record?, Record.select?, Record.field, hprincipal, hpermissions]

namespace PersonName

/-- The fields of a name. -/
def fields (n : PersonName) : List (String × Json) :=
  Json.textField "givenName" n.given ++ Json.textField "familyName" n.family

/-- A name as a record. -/
def record (n : PersonName) : Record := ⟨n.fields, true⟩

theorem fieldsPlain_fields (n : PersonName) : Json.fieldsPlain n.fields = true := by
  simp [fields]

theorem record?_toJson (n : PersonName) : n.toJson.record? ["givenName", "familyName"] = some n.record := by
  have hsub : (n.fields.map (·.1)).Sublist ["givenName", "familyName"] := by
    unfold fields
    rw [List.map_append]
    exact (Json.keys_textField "givenName" _).append (Json.keys_textField "familyName" _)
  exact Record.select?_of_sublist hsub (by decide) fun _ hn => hn

theorem read_toJson (n : PersonName) : read n.toJson = some n := by
  have hgiven : n.record.field "givenName" "" Json.string? = some n.given :=
    Record.field_text (by simp [record, fields])
  have hfamily : n.record.field "familyName" "" Json.string? = some n.family :=
    Record.field_text (by simp [record, fields])
  simp only [read, record?_toJson, Option.bind_eq_bind, Option.bind_some, hgiven, hfamily]
  rfl

theorem shows_toJson (n : PersonName) :
    n.toJson.Shows [("givenName", n.given ≠ ""), ("familyName", n.family ≠ "")] := by
  refine Json.shows_of_names n.fieldsPlain_fields ?_
  simp

end PersonName

theorem NewUser.survives (u : NewUser) : Json.Survives read toJson u := by
  have hname : u.name.toJson.isPlain = true := u.name.fieldsPlain_fields
  refine Json.survives_of_read ?_ ?_
  · simp [toJson, Json.isPlain, Json.fieldsPlain, hname]
  · simp [read, toJson, Json.record?, Record.select?, Record.field, Record.required, Json.string?, Json.bool?,
      PersonName.read_toJson]

/-- All that is kept as JSON is read again from its text, which leaves out what is empty: schemas, members
and permissions, the metadata of a group, what a member is called and refers to, and parts of a name. -/
theorem wire_survives :
    (∀ u : User, Json.Survives (User.read 0) User.toJson u ∧
      u.toJson.Shows [("id", true), ("schemas", u.schemas ≠ []), ("emails", true), ("userName", true),
        ("displayName", true), ("active", true), ("roles", u.permissions.roles ≠ []),
        ("entitlements", u.permissions.entitlements ≠ [])]) ∧
    (∀ g : Group, Json.Survives (Group.read 0) Group.toJson g ∧
      g.toJson.Shows [("id", true), ("displayName", true), ("members", g.members ≠ []),
        ("meta", g.resourceType ≠ ""), ("schemas", g.schemas ≠ []), ("roles", g.permissions.roles ≠ []),
        ("entitlements", g.permissions.entitlements ≠ [])]) ∧
    (∀ s : ServicePrincipal, Json.Survives (ServicePrincipal.read 0) ServicePrincipal.toJson s ∧
      s.toJson.Shows [("id", true), ("displayName", true), ("active", true), ("applicationId", true),
        ("roles", s.permissions.roles ≠ []), ("entitlements", s.permissions.entitlements ≠ [])]) ∧
    (∀ m : Member, Json.Survives Member.read Member.toJson m ∧
      m.toJson.Shows [("value", true), ("display", m.displayName ≠ ""), ("$ref", m.reference ≠ "")]) ∧
    (∀ r : Rule, Json.Survives Rule.read Rule.toJson r) ∧
    (∀ w : Workspace, Json.Survives Workspace.read Workspace.toJson w) ∧
    (∀ a : Assignment, Json.Survives Assignment.read Assignment.toJson a) ∧
    (∀ u : NewUser, Json.Survives NewUser.read NewUser.toJson u ∧
      u.name.toJson.Shows [("givenName", u.name.given ≠ ""), ("familyName", u.name.family ≠ "")]) :=
  ⟨fun u => ⟨u.survives, u.shows_toJson⟩, fun g => ⟨g.survives, g.shows_toJson⟩,
    fun s => ⟨s.survives, s.shows_toJson⟩, fun m => ⟨m.survives, m.shows_toJson⟩, Rule.survives,
    Workspace.survives, Assignment.survives, fun u => ⟨u.survives, u.name.shows_toJson⟩⟩

end AccessSync
