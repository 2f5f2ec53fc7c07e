import AccessSync.Proofs.Client.Directory
import AccessSync.Proofs.RuleSet.Granting
import AccessSync.Proofs.Sync.Keeping
/-!
# What is granted is listed

A grant goes from the id of a principal to its natural key and to an entry of a rule, a listing goes
back from the entry and the role to id and slug. `granted_is_listed` says where they meet: if the name
can be read again, the next listing has the grant, under the slug that the rule's role is listed as;
if it cannot, there is no next listing of the resource at all.
-/

namespace AccessSync

/-- The page has a grant of the entitlement with that id to that principal. -/
def SyncPage.Has (page : SyncPage Grant) (entitlementId : String) (principal : ResourceId) : Prop :=
  ∃ g ∈ page.items, g.entitlement.id = entitlementId ∧ g.principal = principal

/-- The entitlement is that of the slug on the resource. -/
structure Entitlement.IsOf (e : Entitlement) (resource : Resource) (slug : String) : Prop where
  resource_eq : e.resource = resource
  slug_eq : e.slug = slug
  id_eq : e.id = Entitlement.idOf resource.id slug

namespace Sync

variable {σ : Type} {w : World σ} {c : Client} {adapter : Adapter} {resource : Resource} {slug : String}
  {k : Keeping} {e : Entitlement} {stored : σ → List Rule} {roster : Roster} {principal : ResourceId}
  {token : String} {p : PrincipalName} {st st' : Memory × σ}

/-! ## After a grant -/

/-- The name is that of the principal in the roster. -/
def NamedBy (roster : Roster) (principal : ResourceId) (p : PrincipalName) : Prop :=
  principal.principalKind? = some p.kind ∧
    ∃ id, principal.platformId = .ok id ∧ roster.keyOf p.kind id = some p.key

/-- What a grant of an entitlement that is kept in rules leaves. -/
structure Granted (k : Keeping) (stored : σ → List Rule) (roster : Roster) (principal : ResourceId)
    (p : PrincipalName) (st st' : Memory × σ) : Prop where
  stores : World.Stores stored (Rule.grant k.role k.newRole p (stored st.2)).2 st st'
  named : NamedBy roster principal p

theorem granted_of_grantsBy (hknows : w.Knows c k.scope stored roster)
    (hrules : w.KeepsRules c k.scope k.target stored) (h : GrantsBy w c k principal st st') :
    ∃ p, Granted k stored roster principal p st st' := by
  obtain ⟨p, st₁, b, hname, hgrant⟩ := h
  obtain ⟨hkeeps, hnamed⟩ := Client.nameOfResource_ok hknows hname
  have hsame : ∀ rules, (Rule.grant k.role k.newRole p rules).1 = false →
      (Rule.grant k.role k.newRole p rules).2 = rules := by
    intro rules hfalse
    rw [Rule.grant_of_fst_eq_false hfalse]
  have hstores := Client.editRules_ok hrules hsame hgrant
  rw [hkeeps.stored] at hstores
  exact ⟨p, hkeeps.trans_stores hstores, hnamed⟩

/-- The entries of the new rules name principals that there are, but for that of the grant. -/
theorem Granted.known_or (h : Granted k stored roster principal p st st')
    (hstored : ∀ r ∈ stored st.2, ∀ entry ∈ r.principals, roster.Knows entry) {x : String × String}
    (hx : x ∈ k.entries (stored st'.2)) : roster.Knows x.2 ∨ x.2 = p.text := by
  obtain ⟨r, hr, -, -, hentry⟩ := Keeping.mem_entries.1 hx
  rw [h.stores.stored] at hr
  rcases Rule.entry_of_mem_grant hr hentry with ⟨s, hs, hentry⟩ | htext
  · exact .inl (hstored s hs x.2 hentry)
  · exact .inr htext

/-- The name leads to the principal again, as the client presents it. -/
theorem Granted.idOf (h : Granted k stored roster principal p st st') (c : Client)
    (groups : Store Resource) : ∃ id, roster.idOf p = some id ∧
      c.presented groups principal = (c.holderAmong groups p.kind id).resource := by
  obtain ⟨hkind, id, hid, hkey⟩ := h.named
  exact ⟨id, Roster.idOf_of_keyOf hkey, Client.presented_eq hkind hid⟩

/-- If the name can be read, every rule that holds the principal shows it. -/
theorem Granted.listed (h : Granted k stored roster principal p st st')
    (hknows : w.Knows c k.scope stored roster)
    (hstored : ∀ r ∈ stored st.2, ∀ entry ∈ r.principals, roster.Knows entry)
    (hshown : ∀ role, k.role.accepts role = true → k.isShown role = true)
    (hrules : w.KeepsRules c k.scope k.target stored) (hlists : ListsBy w c k adapter resource token st')
    (hp : p.Readable) :
    ∃ page st'', w.Ends (adapter.grants resource token) st' (.ok page) st'' ∧
      ∀ r ∈ stored st'.2, r.grants k.role p = true →
        page.Has (Entitlement.idOf resource.id (k.slugOf r.role)) (c.presented st.1.groups principal) := by
  obtain ⟨st₁, hkeeps, hok, -⟩ := hlists.of_entries hrules
  obtain ⟨id, hid, hpresented⟩ := h.idOf c st.1.groups
  have hknown : ∀ x ∈ k.entries (stored st'.2), roster.Knows x.2 := by
    intro x hx
    rcases h.known_or hstored hx with hknown | htext
    · exact hknown
    · rw [htext]
      exact ⟨p, id, PrincipalName.parse_text hp, hid⟩
  obtain ⟨gs, st'', hends, -, hall⟩ := Client.entryGrants_ends hknows hknown st₁
  obtain ⟨page, hpage, hitems⟩ := hok gs st'' hends
  refine ⟨page, st'', hpage, ?_⟩
  intro r hr hheld
  rw [Rule.grants, Bool.and_eq_true, Rule.holds, List.any_eq_true] at hheld
  obtain ⟨haccepts, entry, hentry, hnames⟩ := hheld
  have hmem : (k.slugOf r.role, entry) ∈ k.entries (stored st'.2) :=
    Keeping.mem_entries.2 ⟨r, hr, hshown r.role haccepts, rfl, hentry⟩
  have hg := hall _ hmem p id (Rule.names_iff.1 hnames) hid
  rw [hkeeps.groups, h.stores.groups] at hg
  rw [hpresented]
  exact ⟨_, hitems _ hg, rfl, rfl⟩

/-- If the name cannot be read, nothing is listed any more. -/
theorem Granted.unlisted (h : Granted k stored roster principal p st st')
    (hknows : w.Knows c k.scope stored roster)
    (hstored : ∀ r ∈ stored st.2, ∀ entry ∈ r.principals, roster.Knows entry)
    (hnew : k.role.accepts k.newRole = true)
    (hshown : ∀ role, k.role.accepts role = true → k.isShown role = true)
    (hrules : w.KeepsRules c k.scope k.target stored) (hlists : ListsBy w c k adapter resource token st')
    (hp : ¬p.Readable) :
    ∃ st'', w.Ends (adapter.grants resource token) st'
      (.error (.error (.principal (.malformedName p.text)))) st'' := by
  obtain ⟨st₁, -, -, herror⟩ := hlists.of_entries hrules
  have hparse := PrincipalName.parse_text_of_not hp
  have hknown : ∀ x ∈ k.entries (stored st'.2),
      roster.Knows x.2 ∨ PrincipalName.parse x.2 = .error (.malformedName p.text) := by
    intro x hx
    rcases h.known_or hstored hx with hknown | htext
    · exact .inl hknown
    · rw [htext]
      exact .inr hparse
  -- Nobody is found under such a name, so the grant has written it.
  have hwritten : (Rule.grant k.role k.newRole p (stored st.2)).1 = true :=
    Rule.grant_fst_eq_true_iff.2 fun r _ => Rule.grants_of_not_readable hp r
  obtain ⟨r, hr, haccepts, htext⟩ := Rule.exists_text_of_grant hnew hwritten
  rw [← h.stores.stored] at hr
  have hmem : (k.slugOf r.role, p.text) ∈ k.entries (stored st'.2) :=
    Keeping.mem_entries.2 ⟨r, hr, hshown r.role haccepts, rfl, htext⟩
  obtain ⟨st'', hends⟩ := Client.entryGrants_fails hknows hknown ⟨_, hmem, hparse⟩ st₁
  exact ⟨st'', herror _ st'' hends⟩

/-! ## All three adapters -/

theorem KeptBy.grant_ok (h : KeptBy c st.1.availability adapter resource slug k)
    (he : e.IsOf resource slug) (hgrant : w.Ends (adapter.grant principal e) st (.ok ()) st') :
    GrantsBy w c k principal st st' ∧
    ∀ token, st'.1.availability = st.1.availability → ListsBy w c k adapter resource token st' := by
  obtain ⟨hresource, hslug, -⟩ := he
  cases h with
  | account havailable =>
    refine ⟨account_grant_ok hslug hgrant, ?_⟩
    intro token hsame
    exact account_lists (hsame ▸ havailable) token
  | group hne hmembers =>
    subst hslug
    obtain ⟨hgroup, hgrants⟩ := groups_grant_ok hne hresource hgrant
    exact ⟨hgrants, fun token _ => groups_lists hgroup hmembers _ token st'⟩
  | servicePrincipal =>
    subst hslug
    exact ⟨servicePrincipals_grant_ok hresource hgrant,
      fun token _ => servicePrincipals_lists _ _ _ token st'⟩

/-- After a successful grant the principal is listed with it if its name can be read: under a role that
is the one asked for, and under the entitlement itself unless a rule of that role is listed under
another slug. A name that cannot be read makes every listing of the resource fail. -/
theorem granted_is_listed (hkept : KeptBy c st.1.availability adapter resource slug k)
    (hknows : w.Knows c k.scope stored roster) (hrules : w.KeepsRules c k.scope k.target stored)
    (hstored : ∀ r ∈ stored st.2, ∀ entry ∈ r.principals, roster.Knows entry)
    (he : e.IsOf resource slug) (hgrant : w.Ends (adapter.grant principal e) st (.ok ()) st')
    (token : String) :
    ∃ p, NamedBy roster principal p ∧
      (p.Readable → ∃ page st'', w.Ends (adapter.grants resource token) st' (.ok page) st'' ∧
        (∃ role, k.role.accepts role = true ∧
          page.Has (Entitlement.idOf resource.id (k.slugOf role)) (c.presented st.1.groups principal)) ∧
        ((∀ r ∈ stored st.2, k.role.accepts r.role = true → k.slugOf r.role = slug) →
          page.Has e.id (c.presented st.1.groups principal))) ∧
      (¬p.Readable → ∃ st'', w.Ends (adapter.grants resource token) st'
        (.error (.error (.principal (.malformedName p.text)))) st'') ∧
      (st.1.groups.Listed → c.Presents st.1.groups principal →
        c.presented st.1.groups principal = principal) := by
  obtain ⟨hgrants, hlists⟩ := hkept.grant_ok he hgrant
  obtain ⟨p, h⟩ := granted_of_grantsBy hknows hrules hgrants
  have hshown : ∀ role, k.role.accepts role = true → k.isShown role = true :=
    fun role hrole => hkept.isShown_of_accepts hrole
  refine ⟨p, h.named, ?_, ?_, fun hlisted hpresents => hpresents.presented_eq hlisted⟩
  · intro hp
    obtain ⟨page, st'', hends, hall⟩ := h.listed hknows hstored hshown hrules
      (hlists token h.stores.availability) hp
    obtain ⟨r, hr, hheld⟩ := Rule.exists_grants_grant (stored st.2) hp hkept.accepts_newRole
    have haccepts : k.role.accepts r.role = true := by
      rw [Rule.grants, Bool.and_eq_true] at hheld
      exact hheld.1
    have hhas := hall r (h.stores.stored ▸ hr) hheld
    refine ⟨page, st'', hends, ⟨r.role, haccepts, hhas⟩, ?_⟩
    intro hspelled
    -- The rule that holds the principal has a role from before or the one that the grant makes.
    have hslug : k.slugOf r.role = slug := by
      rcases Rule.role_of_mem_grant hr with ⟨s, hs, hrole⟩ | hrole
      · rw [← hrole] at haccepts ⊢
        exact hspelled s hs haccepts
      · rw [hrole]
        exact hkept.slugOf_newRole
    rw [he.id_eq, ← hslug]
    exact hhas
  · intro hp
    exact h.unlisted hknows hstored hkept.accepts_newRole hshown hrules
      (hlists token h.stores.availability) hp

/-! ## An office -/

/-- Who administers the marketplace. -/
inductive Chair where
  | nobody
  | alice
  | sales
  deriving DecidableEq

namespace Chair

def rules : Chair → List Rule
  | .nobody => []
  | .alice => [⟨["users/alice"], "roles/marketplace.admin"⟩]
  | .sales => [⟨["groups/sales/emea"], "roles/marketplace.admin"⟩]

def text : Chair → String
  | .nobody => "\x7b\x7d"
  | .alice => "\x7b\"grant_rules\":[\x7b\"role\":\"roles/marketplace.admin\",\"principals\":[\"users/alice\"]\x7d]\x7d"
  | .sales =>
    "\x7b\"grant_rules\":[\x7b\"role\":\"roles/marketplace.admin\",\"principals\":[\"groups/sales/emea\"]\x7d]\x7d"

theorem read_text (chair : Chair) :
    (Transport.readBody (Utf8.encode chair.text.toList)).bind Client.readRuleSet = some (chair.rules, "") := by
  cases chair <;> decide +kernel

def ofRules? (rules : List Rule) : Option Chair := [nobody, alice, sales].find? (·.rules = rules)

theorem rules_of_ofRules? {rules : List Rule} {chair : Chair} (h : ofRules? rules = some chair) :
    chair.rules = rules := by
  simpa using List.find?_some h

end Chair

/-- The objects of one kind, of which there is one. -/
structure Shelf where
  endpoint : Endpoint
  id : String
  field : String
  key : String
  text : String
  deriving DecidableEq

/-- A user, a group and a service principal. -/
def shelves : List Shelf :=
  [⟨.users, "1", "userName", "alice",
      "\x7b\"Resources\":[\x7b\"id\":\"1\",\"userName\":\"alice\"\x7d],\"totalResults\":1\x7d"⟩,
   ⟨.groups, "2", "displayName", "sales/emea",
      "\x7b\"Resources\":[\x7b\"id\":\"2\",\"displayName\":\"sales/emea\"\x7d],\"totalResults\":1\x7d"⟩,
   ⟨.servicePrincipals, "3", "applicationId", "app",
      "\x7b\"Resources\":[\x7b\"id\":\"3\",\"applicationId\":\"app\"\x7d],\"totalResults\":1\x7d"⟩]

def lookup (field value : String) : List (String × String) :=
  (Query.ofTerms [Query.Term.single, Query.Term.equals field value]).pairs

/-- The parameters ask for the object by its id or by its natural key. -/
def Shelf.finds (shelf : Shelf) (asked : List (String × String)) : Prop :=
  asked = lookup "id" shelf.id ∨ asked = lookup shelf.field shelf.key

instance (shelf : Shelf) (asked : List (String × String)) : Decidable (shelf.finds asked) :=
  inferInstanceAs (Decidable (_ ∨ _))

def Shelf.answer (shelf : Shelf) (request : Http.Request) : String :=
  if shelf.finds request.parameters then shelf.text else "\x7b\x7d"

/-- A peer that has one object of each kind and stores who administers the marketplace. -/
def office : World Chair where
  now _ := ⟨0⟩
  answer request chair :=
    match request.method with
    | .get =>
      match shelves.find? fun shelf => request.url.path = (directoryUrl shelf.endpoint).path with
      | some shelf => (some (Transport.replyOf (shelf.answer request)), chair)
      | none => (some (Transport.replyOf chair.text), chair)
    | .put =>
      match request.body.rules?.bind Chair.ofRules? with
      | some chair => (some (Transport.replyOf "\x7b\x7d"), chair)
      | none => (none, chair)
    | _ => (none, chair)

section Office
variable {shelf : Shelf}

theorem lookup_injective {field value value' : String} (h : lookup field value = lookup field value') :
    value = value' := by
  unfold lookup at h
  rw [Query.ofTerms_equals, Query.ofTerms_equals] at h
  simp only [List.cons.injEq, Prod.mk.injEq, and_true, true_and] at h
  exact (String.append_right_inj _).1 ((String.append_left_inj _).1 h)

/-- Requests for ids and for natural keys differ. -/
theorem lookup_id_ne {field : String} (hfirst : ∃ c cs, field.toList = c :: cs ∧ c ≠ 'i')
    (value value' : String) : lookup "id" value ≠ lookup field value' := by
  intro h
  unfold lookup at h
  rw [Query.ofTerms_equals, Query.ofTerms_equals] at h
  simp only [List.cons.injEq, Prod.mk.injEq, and_true, true_and] at h
  obtain ⟨c, cs, hfield, hc⟩ := hfirst
  have := congrArg String.toList h
  simp only [String.toList_append, hfield] at this
  exact hc (List.cons.inj this).1.symm

theorem finds_id_iff (hfirst : ∃ c cs, shelf.field.toList = c :: cs ∧ c ≠ 'i') (value : String) :
    shelf.finds (lookup "id" value) ↔ value = shelf.id := by
  constructor
  · rintro (hid | hkey)
    · exact lookup_injective hid
    · exact absurd hkey (lookup_id_ne hfirst _ _)
  · rintro rfl
    exact .inl rfl

theorem finds_key_iff (hfirst : ∃ c cs, shelf.field.toList = c :: cs ∧ c ≠ 'i') (value : String) :
    shelf.finds (lookup shelf.field value) ↔ value = shelf.key := by
  constructor
  · rintro (hid | hkey)
    · exact absurd hid.symm (lookup_id_ne hfirst _ _)
    · exact lookup_injective hkey
  · rintro rfl
    exact .inr rfl

theorem answer_of_finds_iff {request : Http.Request} {found : Prop} [Decidable found]
    (h : shelf.finds request.parameters ↔ found) :
    shelf.answer request = if found then shelf.text else "\x7b\x7d" := by
  simp only [Shelf.answer, h]

/-- What the office has of one kind is found by its id and by its natural key. -/
theorem office_lists (shelf : Shelf) {α : Type} {d : Directory α} {roll : Roll d} {a : α} (hobjects : roll.objects = [a])
    (he : d.endpoint ∈ [Endpoint.users, .groups, .servicePrincipals])
    (hshelf : shelves.find? (fun s => (directoryUrl d.endpoint).path = (directoryUrl s.endpoint).path) = some shelf)
    (hid : d.id a = shelf.id) (hfield : d.keyField = shelf.field) (hkey : d.key a = shelf.key)
    (hfirst : ∃ c cs, shelf.field.toList = c :: cs ∧ c ≠ 'i')
    (htext : (Transport.readBody (Utf8.encode shelf.text.toList)).bind (Listing.read (d.read Listing.depth)) =
      some ([a], 1))
    (hnone : (Transport.readBody (Utf8.encode "\x7b\x7d".toList)).bind (Listing.read (d.read Listing.depth)) =
      some ([], 0)) :
    office.Lists Client.plain .account Chair.rules roll := by
  obtain ⟨hresolve, hreach⟩ := directory_reachable he
  have hanswers : ∀ (field wanted : String) (p : α → Bool),
      (∀ value, shelf.finds (lookup field value) ↔ value = wanted) →
      ∀ value, p a = decide (value = wanted) →
      Transport.Answers office Chair.rules
        (Transport.Asks .get (directoryUrl d.endpoint) none [Query.Term.single, Query.Term.equals field value])
        (Listing.read (d.read Listing.depth)) fun _ found => found.1 = (roll.objects.filter p).take 1 := by
    intro field wanted p hfinds value hp request chair hasks
    have hpath := hasks.path hreach (Query.equals_ne_empty field value)
    have hasked : request.parameters = lookup field value :=
      hasks.parameters (Query.equals_ne_empty field value)
    have hgiven := answer_of_finds_iff (hasked ▸ hfinds value)
    have hreply : office.answer request chair = (some (Transport.replyOf (shelf.answer request)), chair) := by
      unfold office
      simp only [hasks.method, hpath, hshelf]
    rw [hgiven] at hreply
    by_cases hvalue : value = wanted
    · rw [if_pos hvalue] at hreply
      refine ⟨_, chair, _, hreply, rfl, tells_text htext, ?_⟩
      simp [hobjects, hp, hvalue]
    · rw [if_neg hvalue] at hreply
      refine ⟨_, chair, _, hreply, rfl, tells_text hnone, ?_⟩
      simp [hobjects, hp, hvalue]
  refine ⟨⟨_, _, hresolve, hreach⟩, ?_, ?_⟩
  · intro url id hurl
    rw [hresolve] at hurl
    cases hurl
    refine hanswers "id" shelf.id _ (finds_id_iff hfirst) id ?_
    simp only [hid, eq_comm]
  · intro url key hurl
    rw [hresolve] at hurl
    cases hurl
    rw [hfield]
    refine hanswers shelf.field shelf.key _ (finds_key_iff hfirst) key ?_
    simp only [hkey, eq_comm]

def officeRoster : Roster where
  users := ⟨[⟨"1", [], [], "alice", "", false, .none⟩], by simp⟩
  groups := ⟨[⟨"2", "sales/emea", [], "", [], .none⟩], by simp⟩
  servicePrincipals := ⟨[⟨"3", "", false, "app", .none⟩], by simp⟩

theorem office_signs : office.Signs Client.plain.credentials .account Chair.rules := by
  refine ⟨fun st => ⟨none, st, rfl, rfl⟩, ?_⟩
  intro request chair hmethod
  unfold office
  simp only [hmethod]

theorem office_knows : office.Knows Client.plain .account Chair.rules officeRoster where
  signs := office_signs
  users := office_lists shelves[0] rfl (by decide) (by decide +kernel) rfl rfl rfl
    ⟨'u', _, rfl, by decide⟩ (by decide +kernel) (by decide +kernel)
  groups := office_lists shelves[1] rfl (by decide) (by decide +kernel) rfl rfl rfl
    ⟨'d', _, rfl, by decide⟩ (by decide +kernel) (by decide +kernel)
  servicePrincipals := office_lists shelves[2] rfl (by decide) (by decide +kernel) rfl rfl rfl
    ⟨'a', _, rfl, by decide⟩ (by decide +kernel) (by decide +kernel)

theorem office_keeps : office.KeepsRules Client.plain .account .account Chair.rules := by
  have hresolve := Client.plain_reaches.resolved
  have hsendable := Client.plain_reaches.sendable
  have hreach : Transport.Reachable Client.plainUrl Client.plainUrl :=
    ⟨hsendable.prepared, hsendable.destination, by simpa using hsendable.headers⟩
  refine ⟨office_signs, ⟨_, _, hresolve, hreach⟩, ?_, ?_⟩
  · intro url etag hurl request chair hasks
    rw [hresolve] at hurl
    cases hurl
    have hpath := hasks.path hreach (Client.ruleSet_ne_empty Client.plain .account etag)
    have hshelf : shelves.find? (fun s => Client.plainUrl.path = (directoryUrl s.endpoint).path) = none := by
      decide +kernel
    refine ⟨_, chair, _, ?_, rfl, tells_text chair.read_text, rfl⟩
    unfold office
    simp only [hasks.method, hpath, hshelf]
  · intro url etag rules request chair reply chair' _ hasks hanswer _
    have hbody : request.body.rules? = some rules := by
      rw [hasks.body]
      exact Http.Body.rules?_ruleSetToJson _ etag rules
    unfold office at hanswer
    simp only [hasks.method, hbody, Option.bind_some] at hanswer
    cases hchair : Chair.ofRules? rules with
    | none =>
      rw [hchair] at hanswer
      cases hanswer
    | some seated =>
      rw [hchair] at hanswer
      cases hanswer
      exact Chair.rules_of_ofRules? hchair

/-- That the marketplace is administered. -/
def officeEntitlement : Entitlement := .permission (accountResource "a" true) marketplaceAdmin

/-- A grant of it to a principal of the office. -/
def officeGrant (kind : PrincipalKind) (id : String) : Call Unit :=
  (account Client.plain).grant (Client.plain.holderAmong Store.empty kind id).resource officeEntitlement

def officeStart : Memory × Chair := (Memory.fresh, .nobody)

theorem ends_of_isOk (w : World σ) (c : Call Unit) (st : Memory × σ) (h : (w.run c.run st).1.isOk = true) :
    w.Ends c st (.ok ()) (w.run c.run st).2 := by
  unfold World.Ends
  generalize w.run c.run st = ended at h
  obtain ⟨e | u, st'⟩ := ended
  · cases h
  · rfl

end Office

theorem granted_is_listed_in_office : ∃ st' page st'',
    office.Ends (officeGrant .user "1") officeStart (.ok ()) st' ∧
    office.Ends ((account Client.plain).grants (accountResource "a" true) "") st' (.ok page) st'' ∧
    page.Has "account:a:marketplace.admin" (.ofType .user "1") := by
  have hgrant := ends_of_isOk office (officeGrant .user "1") officeStart (by decide +kernel)
  have hkept : KeptBy Client.plain officeStart.1.availability (account Client.plain)
    (accountResource "a" true) marketplaceAdmin .ofAccount := .account rfl
  have hnobody : Chair.rules officeStart.2 = [] := rfl
  have he : officeEntitlement.IsOf (accountResource "a" true) marketplaceAdmin := ⟨rfl, rfl, rfl⟩
  obtain ⟨p, ⟨hkind, id, hid, hkey⟩, hlisted, -, -⟩ :=
    granted_is_listed hkept office_knows office_keeps (by simp [hnobody]) he hgrant ""
  -- The name is that of alice, which can be read.
  have halice : p.Readable := by
    obtain ⟨kind, key⟩ := p
    cases hkind
    cases hid
    cases hkey
    exact ⟨by decide, by decide⟩
  obtain ⟨page, st'', hends, -, hhas⟩ := hlisted halice
  exact ⟨_, page, st'', hgrant, hends, hhas (by simp [hnobody])⟩

/-- A group whose name holds a slash is granted, and then nothing is listed. -/
theorem grant_is_not_listed : ¬∀ kind id st', office.Ends (officeGrant kind id) officeStart (.ok ()) st' →
    ∃ page st'', office.Ends ((account Client.plain).grants (accountResource "a" true) "") st' (.ok page) st'' ∧
      page.Has officeEntitlement.id (Client.plain.holderAmong Store.empty kind id).resource := by
  intro h
  have hgrant := ends_of_isOk office (officeGrant .group "2") officeStart (by decide +kernel)
  have hfails : (office.run ((account Client.plain).grants (accountResource "a" true) "").run
      (office.run (officeGrant .group "2").run officeStart).2).1.isOk = false := by
    decide +kernel
  obtain ⟨page, st'', hends, -⟩ := h .group "2" _ hgrant
  rw [hends] at hfails
  cases hfails

end Sync

end AccessSync
