import AccessSync.Client.Principals
import AccessSync.Proofs.Transport.Serving
import Mathlib.Data.List.Nodup
/-!
# Looking up principals

Users, groups and service principals are known by an id and by a natural key. A `Roster` has those
that there are, and where a peer answers lookups from it (`Lists`), the calls that go from one to
the other say what the roster says: `nameOfId_ends`, `idOfName_ends`. An id and a natural key lead to
each other (`Roster.idOf_of_keyOf`).
-/

namespace AccessSync

/-- The objects of one kind that there are, no two of them with the same natural key. -/
structure Roll {α : Type} (d : Directory α) where
  objects : List α
  keys_nodup : (objects.map d.key).Nodup

namespace Roll

variable {α : Type} {d : Directory α} {roll : Roll d} {id key : String}

/-- The natural key of the object with that id. -/
def keyOf (roll : Roll d) (id : String) : Option String := (roll.objects.find? (d.id · = id)).map d.key

/-- The id of the object with that natural key. -/
def idOf (roll : Roll d) (key : String) : Option String := (roll.objects.find? (d.key · = key)).map d.id

theorem idOf_of_keyOf (h : roll.keyOf id = some key) : roll.idOf key = some id := by
  obtain ⟨a, ha, hkey⟩ := Option.map_eq_some_iff.1 h
  have hid : d.id a = id := by simpa using List.find?_some ha
  have hmem := List.mem_of_find?_eq_some ha
  -- Whatever the natural key leads to has it too, so it is the same object.
  have hfound : (roll.objects.find? (d.key · = key)).isSome = true := by
    rw [List.find?_isSome]
    exact ⟨a, hmem, by simpa using hkey⟩
  obtain ⟨b, hb⟩ := Option.isSome_iff_exists.1 hfound
  have hbkey : d.key b = d.key a := by
    rw [hkey]
    simpa using List.find?_some hb
  obtain rfl : b = a := List.inj_on_of_nodup_map roll.keys_nodup (List.mem_of_find?_eq_some hb) hmem hbkey
  unfold idOf
  rw [hb, Option.map_some, hid]

end Roll

/-- All principals that there are. -/
structure Roster where
  users : Roll Directory.users
  groups : Roll Directory.groups
  servicePrincipals : Roll Directory.servicePrincipals

namespace Roster

variable {roster : Roster}

def keyOf (roster : Roster) (kind : PrincipalKind) (id : String) : Option String :=
  match kind with
  | .user => roster.users.keyOf id
  | .group => roster.groups.keyOf id
  | .servicePrincipal => roster.servicePrincipals.keyOf id

def idOf (roster : Roster) (p : PrincipalName) : Option String :=
  match p.kind with
  | .user => roster.users.idOf p.key
  | .group => roster.groups.idOf p.key
  | .servicePrincipal => roster.servicePrincipals.idOf p.key

theorem idOf_of_keyOf {kind : PrincipalKind} {id key : String} (h : roster.keyOf kind id = some key) :
    roster.idOf ⟨kind, key⟩ = some id := by
  cases kind <;> exact Roll.idOf_of_keyOf h

/-- The entry of a rule names one of them. -/
def Knows (roster : Roster) (entry : String) : Prop :=
  ∃ p id, PrincipalName.parse entry = .ok p ∧ roster.idOf p = some id

end Roster

/-! ## Requests for one object -/

namespace Query

theorem ofTerms_equals (field value : String) :
    (ofTerms [Term.single, Term.equals field value]).pairs =
      [("count", "1"), ("filter", field ++ " eq '" ++ value ++ "'")] := by
  have hcondition : field ++ " eq '" ++ value ++ "'" ≠ "" := by
    intro h
    have := congrArg String.toList h
    simp at this
  have hone : Text.ofNat 1 = "1" := by decide +kernel
  simp [ofTerms, Term.apply, Term.single, Term.equals, addPositive, addNonempty, empty, add, hcondition, hone]

theorem equals_ne_empty (field value : String) :
    (ofTerms [Term.single, Term.equals field value]).isEmpty = false := by
  rw [isEmpty, ofTerms_equals]
  rfl

end Query

/-! ## Lookups that are answered -/

section Lookups
variable {α β σ : Type} {w : World σ} {c : Client} {scope : Scope} {stored : σ → β}
  {st st' : Memory × σ}

/-- The peer answers requests for the objects with some id or natural key from the roll; they ask for
one at most. -/
structure World.Lists (w : World σ) (c : Client) (scope : Scope) (stored : σ → β) {d : Directory α}
    (roll : Roll d) : Prop where
  reachable : ∃ url base, c.resolver.resolve d.endpoint scope = .ok url ∧ Transport.Reachable url base
  byId : ∀ url id, c.resolver.resolve d.endpoint scope = .ok url →
    Transport.Answers w stored
      (Transport.Asks .get url none [Query.Term.single, Query.Term.equals "id" id])
      (Listing.read (d.read Listing.depth))
      fun _ found => found.1 = (roll.objects.filter (d.id · = id)).take 1
  byKey : ∀ url key, c.resolver.resolve d.endpoint scope = .ok url →
    Transport.Answers w stored
      (Transport.Asks .get url none [Query.Term.single, Query.Term.equals d.keyField key])
      (Listing.read (d.read Listing.depth))
      fun _ found => found.1 = (roll.objects.filter (d.key · = key)).take 1

namespace Client

/-- The first object whose field has some value is found, if requests for it are answered so. -/
theorem findFirst_ends {d : Directory α} {field value : String} {url base : Url} {objects : List α}
    {p : α → Bool} (hsigns : w.Signs c.credentials scope stored)
    (hurl : c.resolver.resolve d.endpoint scope = .ok url) (hreach : Transport.Reachable url base)
    (hanswers : Transport.Answers w stored
      (Transport.Asks .get url none [Query.Term.single, Query.Term.equals field value])
      (Listing.read (d.read Listing.depth)) fun _ found => found.1 = (objects.filter p).take 1)
    (st : Memory × σ) :
    ∃ st', w.Ends (c.findFirst d scope field value) st (.ok (objects.find? p)) st' ∧
      World.Keeps stored st st' := by
  obtain ⟨⟨items, total⟩, rateLimit, st', hends, hkeeps, rfl⟩ :=
    hanswers.exchange hsigns hreach (Query.equals_ne_empty field value) st
  refine ⟨st', ?_, hkeeps⟩
  have hlist : w.Ends (c.list d scope [Query.Term.single, Query.Term.equals field value]) st
      (.ok ⟨(objects.filter p).take 1, total, rateLimit⟩) st' := by
    unfold list
    rw [exchange_ok c _ _ scope hurl]
    exact hends.bind_iff.2 (World.ends_pure.2 ⟨rfl, rfl⟩)
  refine hlist.bind_iff.2 (World.ends_pure.2 ⟨?_, rfl⟩)
  rw [List.head?_take, if_neg (by decide), List.head?_filter]

theorem findKey_ends {d : Directory α} {roll : Roll d} (hsigns : w.Signs c.credentials scope stored)
    (hlists : w.Lists c scope stored roll) (id : String) (st : Memory × σ) :
    ∃ st', w.Ends (c.findKey d scope id) st (.ok (roll.keyOf id)) st' ∧ World.Keeps stored st st' := by
  obtain ⟨url, base, hurl, hreach⟩ := hlists.reachable
  obtain ⟨st', hends, hkeeps⟩ := findFirst_ends hsigns hurl hreach (hlists.byId url id hurl) st
  exact ⟨st', hends.bind_iff.2 (World.ends_pure.2 ⟨rfl, rfl⟩), hkeeps⟩

theorem findId_ends {d : Directory α} {roll : Roll d} (hsigns : w.Signs c.credentials scope stored)
    (hlists : w.Lists c scope stored roll) (key : String) (st : Memory × σ) :
    ∃ st', w.Ends (c.findId d scope key) st (.ok (roll.idOf key)) st' ∧ World.Keeps stored st st' := by
  obtain ⟨url, base, hurl, hreach⟩ := hlists.reachable
  obtain ⟨st', hends, hkeeps⟩ := findFirst_ends hsigns hurl hreach (hlists.byKey url key hurl) st
  exact ⟨st', hends.bind_iff.2 (World.ends_pure.2 ⟨rfl, rfl⟩), hkeeps⟩

end Client

/-- The peer answers lookups of principals in that scope from the roster. -/
structure World.Knows (w : World σ) (c : Client) (scope : Scope) (stored : σ → β) (roster : Roster) :
    Prop where
  signs : w.Signs c.credentials scope stored
  users : w.Lists c scope stored roster.users
  groups : w.Lists c scope stored roster.groups
  servicePrincipals : w.Lists c scope stored roster.servicePrincipals

namespace Client

variable {roster : Roster}

theorem nameOfId_ends (h : w.Knows c scope stored roster) (kind : PrincipalKind) (id : String)
    (st : Memory × σ) :
    ∃ st', World.Keeps stored st st' ∧ w.Ends (c.nameOfId scope kind id) st
      (match roster.keyOf kind id with
        | some key => .ok ⟨kind, key⟩
        | none => .error (.error (.principal (.noSuchId kind id)))) st' := by
  have hfound : ∃ st', w.Ends (c.findPrincipalKey scope kind id) st (.ok (roster.keyOf kind id)) st' ∧
      World.Keeps stored st st' := by
    cases kind with
    | user => exact findKey_ends h.signs h.users id st
    | group => exact findKey_ends h.signs h.groups id st
    | servicePrincipal => exact findKey_ends h.signs h.servicePrincipals id st
  obtain ⟨st', hends, hkeeps⟩ := hfound
  refine ⟨st', hkeeps, hends.bind_iff.2 ?_⟩
  cases roster.keyOf kind id with
  | some key => exact World.ends_pure.2 ⟨rfl, rfl⟩
  | none => exact World.ends_fail.2 ⟨rfl, rfl⟩

theorem idOfName_ends (h : w.Knows c scope stored roster) (p : PrincipalName) (st : Memory × σ) :
    ∃ st', World.Keeps stored st st' ∧ w.Ends (c.idOfName scope p) st
      (match roster.idOf p with
        | some id => .ok id
        | none => .error (.error (.principal (.noSuchName p.text)))) st' := by
  have hfound : ∃ st', w.Ends (c.findPrincipalId scope p.kind p.key) st (.ok (roster.idOf p)) st' ∧
      World.Keeps stored st st' := by
    obtain ⟨kind, key⟩ := p
    cases kind with
    | user => exact findId_ends h.signs h.users key st
    | group => exact findId_ends h.signs h.groups key st
    | servicePrincipal => exact findId_ends h.signs h.servicePrincipals key st
  obtain ⟨st', hends, hkeeps⟩ := hfound
  refine ⟨st', hkeeps, hends.bind_iff.2 ?_⟩
  cases roster.idOf p with
  | some id => exact World.ends_pure.2 ⟨rfl, rfl⟩
  | none => exact World.ends_fail.2 ⟨rfl, rfl⟩

end Client

end Lookups

end AccessSync
