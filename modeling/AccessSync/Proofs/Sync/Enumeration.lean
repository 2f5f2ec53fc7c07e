import AccessSync.Proofs.Sync.Holders
import AccessSync.Proofs.Sync.Paging
import AccessSync.Sync.Groups
import AccessSync.Sync.ServicePrincipals
import AccessSync.Sync.Users
/-!
# Listings are complete

Users, groups and service principals are listed from a collection that a peer serves page by page. The
walk through such a listing ends and has the resource of each object once and in order, however long
the pages are; and what is remembered of the groups is then what the walk returned last under each id:
`listing_is_complete`.
-/

namespace AccessSync.Sync

variable {α β σ : Type} {w : World σ} {c : Client} {parent : ResourceId} {stored : σ → β}
  {adapter : Adapter} {d : Directory α} {attributes : List String} {present : α → ResourceId → Resource}
  {st st₁ : Memory × σ}

/-! ## One page of a listing -/

/-- Other groups are remembered. -/
def mapGroups (f : Store Resource → Store Resource) (st : Memory × σ) : Memory × σ :=
  ({ st.1 with groups := f st.1.groups }, st.2)

/-- What a listing remembers: how it begins and what it does with each object. -/
structure Recall (α : Type) where
  begin : Store Resource → Store Resource
  note : Store Resource → α → Store Resource

namespace Recall

/-- Nothing is remembered. -/
def nothing : Recall α := ⟨id, fun groups _ => groups⟩

/-- The groups of this listing are remembered and no others. -/
def listed (parent : ResourceId) : Recall Group :=
  ⟨fun _ => .empty, fun groups g => groups.put g.id (groupResource g parent)⟩

/-- What is remembered when a page is about to be fetched. -/
def entered (memo : Recall α) (token : String) (groups : Store Resource) : Store Resource :=
  if token = "" then memo.begin groups else groups

theorem foldl_nothing (xs : List α) (groups : Store Resource) :
    xs.foldl (nothing : Recall α).note groups = groups := by
  induction xs with
  | nil => rfl
  | cons a xs ih => exact ih

theorem entered_nothing (token : String) (groups : Store Resource) :
    (nothing : Recall α).entered token groups = groups := by
  unfold entered
  split_ifs <;> rfl

end Recall

/-- A page of the listing is a page of the directory, of which each object becomes a resource. -/
def ListsPages (w : World σ) (c : Client) (adapter : Adapter) (t : ResourceType) (d : Directory α)
    (attributes : List String) (present : α → ResourceId → Resource) (parent : ResourceId)
    (memo : Recall α) : Prop :=
  ∀ token stack start st listing st₁ next, PageStack.resume token t.id = .ok (stack, start) →
    w.Ends (c.list d (.ofParent (some parent)) (windowTerms start attributes))
      (mapGroups (memo.entered token) st) (.ok listing) st₁ →
    stack.nextToken (nextOf start listing) = .ok next →
    w.Ends (adapter.list (some parent) token) st
      (.ok ⟨listing.items.map (present · parent), next, some listing.rateLimit⟩)
      (mapGroups (listing.items.foldl memo.note) st₁)

theorem foldl_mapGroups (note : Store Resource → α → Store Resource) (xs : List α) (st : Memory × σ) :
    xs.foldl (fun st a => mapGroups (note · a) st) st = mapGroups (xs.foldl note) st := by
  induction xs generalizing st with
  | nil => rfl
  | cons a xs ih => exact ih _

theorem resume_ends {token : String} {t : ResourceType} {stack : PageStack} {start : UInt32}
    (h : PageStack.resume token t.id = .ok (stack, start)) (st : Memory × σ) :
    w.Ends (resume token t) st (.ok ⟨stack, start⟩) st := by
  refine World.ends_ofExcept_ok.2 ⟨?_, rfl⟩
  rw [h]
  rfl

theorem listPage_ends {place : Place} {visit : α → Resource → Call Unit} {listing : Listing α}
    {note : Store Resource → α → Store Resource} {next : String}
    (hvisit : ∀ a st, w.Ends (visit a (present a parent)) st (.ok ()) (mapGroups (note · a) st))
    (hlist : w.Ends (c.list d (.ofParent (some parent)) (windowTerms place.start attributes)) st
      (.ok listing) st₁)
    (hnext : place.stack.nextToken (nextOf place.start listing) = .ok next) :
    w.Ends (listPage c d attributes present parent place visit) st
      (.ok ⟨listing.items.map (present · parent), next, some listing.rateLimit⟩)
      (mapGroups (listing.items.foldl note) st₁) := by
  have hvisits := World.ends_forM hvisit listing.items st₁
  rw [foldl_mapGroups] at hvisits
  have htoken : w.Ends (Call.ofExcept Error.pageToken (place.stack.nextToken (nextOf place.start listing)))
      (mapGroups (listing.items.foldl note) st₁) (.ok next) (mapGroups (listing.items.foldl note) st₁) :=
    World.ends_ofExcept_ok.2 ⟨hnext, rfl⟩
  exact hlist.bind_iff.2 (hvisits.bind_iff.2 (htoken.bind_iff.2 (World.ends_pure.2 ⟨rfl, rfl⟩)))

theorem mapGroups_nothing (token : String) (st : Memory × σ) :
    mapGroups ((Recall.nothing : Recall α).entered token) st = st := by
  unfold mapGroups
  rw [Recall.entered_nothing]

theorem users_listsPages : ListsPages w c (users c) .user .users Query.userAttributes userResource parent
    .nothing := by
  intro token stack start st listing st₁ next hresume hlist hnext
  rw [mapGroups_nothing] at hlist
  refine (resume_ends hresume st).bind_iff.2 (listPage_ends (fun _ st => ?_) hlist hnext)
  exact World.ends_pure.2 ⟨rfl, rfl⟩

theorem servicePrincipals_listsPages : ListsPages w c (servicePrincipals c) .servicePrincipal
    .servicePrincipals Query.servicePrincipalAttributes servicePrincipalResource parent .nothing := by
  intro token stack start st listing st₁ next hresume hlist hnext
  rw [mapGroups_nothing] at hlist
  refine (resume_ends hresume st).bind_iff.2 (listPage_ends (fun _ st => ?_) hlist hnext)
  exact World.ends_pure.2 ⟨rfl, rfl⟩

theorem groups_listsPages : ListsPages w c (groups c) .group .groups Query.groupAttributes groupResource
    parent (.listed parent) := by
  intro token stack start st listing st₁ next hresume hlist hnext
  have hpage : ∀ st, w.Ends (c.list .groups (.ofParent (some parent)) (windowTerms start Query.groupAttributes))
      st (.ok listing) st₁ → w.Ends (listPage c .groups Query.groupAttributes groupResource parent
        ⟨stack, start⟩ fun g r => Call.perform (.writeGroup g.id r)) st
      (.ok ⟨listing.items.map (groupResource · parent), next, some listing.rateLimit⟩)
      (mapGroups (listing.items.foldl (Recall.listed parent).note) st₁) :=
    fun st hlist => listPage_ends (fun _ _ => rfl) hlist hnext
  refine (resume_ends hresume st).bind_iff.2 ?_
  dsimp only
  unfold Recall.entered at hlist
  split_ifs with htoken
  · simp only [if_pos htoken] at hlist
    exact World.ends_perform_bind.2 (hpage _ hlist)
  · simp only [if_neg htoken] at hlist
    exact hpage _ hlist

/-! ## The whole listing -/

section Walk
variable {t : ResourceType} {memo : Recall α} {objects : β → List α} {begun : Memory × σ}
  {rest : List α} {token : String}

/-- The page of the token begins with the rest of the collection, and all before it was noted. -/
def Underway (t : ResourceType) (memo : Recall α) (stored : σ → β) (objects : β → List α)
    (begun : Memory × σ) (rest : List α) (token : String) (st : Memory × σ) : Prop :=
  stored st.2 = stored begun.2 ∧ ∃ before, objects (stored begun.2) = before ++ rest ∧
    PageStack.LeadsTo token t.id t.id [] (before.length + 1) ∧
    memo.entered token st.1.groups = before.foldl memo.note (memo.begin begun.1.groups)

/-- Every object was noted, one after the other. -/
def Listed (memo : Recall α) (stored : σ → β) (objects : β → List α) (begun st : Memory × σ) : Prop :=
  stored st.2 = stored begun.2 ∧
    st.1.groups = (objects (stored begun.2)).foldl memo.note (memo.begin begun.1.groups)

/-- A page has the first resources of the rest and leads to those behind it, if there are any. -/
theorem ListsPages.step (h : ListsPages w c adapter t d attributes present parent memo)
    (hsigns : w.Signs c.credentials (.ofParent (some parent)) stored)
    (hpages : w.Pages c (.ofParent (some parent)) stored d attributes objects)
    (hfew : (objects (stored begun.2)).length < Nat.pow 2 32 - 1)
    (hunderway : Underway t memo stored objects begun rest token st) :
    ∃ now later page st', rest = now ++ later ∧
      w.Ends (adapter.list (some parent) token) st (.ok page) st' ∧
      page.items = now.map (present · parent) ∧
        (later = [] ∧ page.nextToken = "" ∧ Listed memo stored objects begun st' ∨
          now ≠ [] ∧ page.nextToken ≠ "" ∧
            Underway t memo stored objects begun later page.nextToken st') := by
  obtain ⟨hstored, before, hall, ⟨text, hresume⟩, hnoted⟩ := hunderway
  have hentered : stored (mapGroups (memo.entered token) st).2 = stored begun.2 := hstored
  obtain ⟨now, later, listing, st₁, rfl, hends, hkeeps, hitems, hnext⟩ :=
    Client.page_ends hsigns hpages (hentered ▸ hall) (hentered ▸ hfew)
  have htoken := PageStack.nextToken_cons (nextOf (UInt32.ofNat (before.length + 1)) listing)
    ⟨text, t.id, ""⟩ []
  have hfetched := h token _ _ st listing st₁ _ hresume hends htoken
  have hleft : stored (mapGroups (listing.items.foldl memo.note) st₁).2 = stored begun.2 :=
    hkeeps.stored.trans hentered
  have hgroups : (mapGroups (listing.items.foldl memo.note) st₁).1.groups =
      (before ++ now).foldl memo.note (memo.begin begun.1.groups) := by
    rw [List.foldl_append, ← hnoted, hitems]
    exact congrArg (now.foldl memo.note) hkeeps.groups
  refine ⟨now, later, _, _, rfl, hfetched, by rw [hitems], ?_⟩
  rw [← List.append_assoc] at hall
  dsimp only
  rcases hnext with ⟨rfl, hnext⟩ | ⟨hnow, hposition, hnext⟩
  · rw [hnext]
    refine .inl ⟨rfl, rfl, hleft, ?_⟩
    rw [hgroups, hall, List.append_nil]
  · have hmore := PageStack.token_advanceHead_ne_empty ((before ++ now).length + 1) ⟨text, t.id, ""⟩ []
    rw [hnext]
    refine .inr ⟨hnow, hmore, hleft, before ++ now, hall, ?_, ?_⟩
    · exact PageStack.leadsTo_advanceHead hposition text t.id t.id []
    · rw [Recall.entered, if_neg hmore, hgroups]

/-- A walk through the pages of a collection has a resource for each object, and every object is noted
once after the beginning. -/
theorem ListsPages.walk (h : ListsPages w c adapter t d attributes present parent memo)
    (hsigns : w.Signs c.credentials (.ofParent (some parent)) stored)
    (hpages : w.Pages c (.ofParent (some parent)) stored d attributes objects) (st : Memory × σ)
    (hfew : (objects (stored st.2)).length < Nat.pow 2 32 - 1) :
    ∃ st', w.Walks (adapter.list (some parent)) "" st
        ((objects (stored st.2)).map (present · parent)) st' ∧
      Listed memo stored objects st st' := by
  have hbegin : Underway t memo stored objects st (objects (stored st.2)) "" st :=
    ⟨rfl, [], rfl, PageStack.leadsTo_empty t.id, rfl⟩
  have hdone : ∀ st₁, Listed memo stored objects st st₁ →
      ∃ st', w.GoesOn (adapter.list (some parent)) "" st₁ [] st' ∧ Listed memo stored objects st st' :=
    fun st₁ hlisted => ⟨st₁, .inl ⟨rfl, rfl, rfl⟩, hlisted⟩
  obtain ⟨st', hwalks, hlisted⟩ := World.walks_pages (fun xs => xs.map (present · parent))
    (fun _ _ => List.map_append) (fun _ _ _ => h.step hsigns hpages hfew) hdone hbegin
  rw [List.append_nil] at hwalks
  exact ⟨st', hwalks, hlisted⟩

end Walk

/-! ## All three adapters -/

/-- The adapter lists the objects of that directory, each as that resource. -/
inductive ListsObjects (c : Client) : {α : Type} → Adapter → Directory α → List String →
    (α → ResourceId → Resource) → Prop
  | users : ListsObjects c (users c) .users Query.userAttributes userResource
  | groups : ListsObjects c (groups c) .groups Query.groupAttributes groupResource
  | servicePrincipals : ListsObjects c (servicePrincipals c) .servicePrincipals
    Query.servicePrincipalAttributes servicePrincipalResource

/-- However the peer divides a collection into pages, the walk through the listing under a parent ends
and has the resource of every object, once and in order. Groups are remembered after it just if they
were listed, each as the walk returned it last; other listings leave them alone. -/
theorem listing_is_complete {objects : β → List α} (h : ListsObjects c adapter d attributes present)
    (parent : ResourceId) (hsigns : w.Signs c.credentials (.ofParent (some parent)) stored)
    (hpages : w.Pages c (.ofParent (some parent)) stored d attributes objects) (st : Memory × σ)
    (hfew : (objects (stored st.2)).length < Nat.pow 2 32 - 1) :
    ∃ st', w.Walks (adapter.list (some parent)) "" st
        ((objects (stored st.2)).map (present · parent)) st' ∧
      stored st'.2 = stored st.2 ∧
      (adapter.resourceType = .group → ∀ id, st'.1.groups.get? id =
        ((objects (stored st.2)).reverse.find? (d.id · = id)).map (present · parent)) ∧
      (adapter.resourceType ≠ .group → st'.1.groups = st.1.groups) := by
  cases h with
  | users =>
    obtain ⟨st', hwalks, hstored, hgroups⟩ := users_listsPages.walk hsigns hpages st hfew
    rw [Recall.foldl_nothing] at hgroups
    exact ⟨st', hwalks, hstored, by rintro ⟨⟩, fun _ => hgroups⟩
  | groups =>
    obtain ⟨st', hwalks, hstored, hgroups⟩ := groups_listsPages.walk hsigns hpages st hfew
    refine ⟨st', hwalks, hstored, fun _ id => ?_, fun htype => absurd rfl htype⟩
    rw [hgroups]
    exact (Store.get?_foldl_put _ _ id).trans (Option.or_none)
  | servicePrincipals =>
    obtain ⟨st', hwalks, hstored, hgroups⟩ := servicePrincipals_listsPages.walk hsigns hpages st hfew
    rw [Recall.foldl_nothing] at hgroups
    exact ⟨st', hwalks, hstored, by rintro ⟨⟩, fun _ => hgroups⟩

/-- Three groups on a page each, listed by a client that remembers a group from before. -/
theorem listing_is_complete_in_library :
    let account := ResourceId.ofType .account "a"
    let stale := Store.empty.put "9" (groupResource ⟨"9", "gone", [], "", [], .none⟩ account)
    ∃ st', library.Walks ((groups Client.plain).list (some account)) "" ({ Memory.fresh with groups := stale }, ())
        (boundGroups.map (groupResource · account)) st' ∧
      st'.1.groups.get? "9" = none ∧ (st'.1.groups.get? "3").map (·.displayName) = some "new" := by
  intro account stale
  obtain ⟨st', hwalks, -, hgroups, -⟩ := listing_is_complete (.groups) account library_signs
    (library_groups _) ({ Memory.fresh with groups := stale }, ()) (by decide)
  refine ⟨st', hwalks, ?_, ?_⟩
  · rw [hgroups rfl]
    decide +kernel
  · rw [hgroups rfl]
    decide +kernel

end AccessSync.Sync
