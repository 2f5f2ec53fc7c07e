import AccessSync.Proofs.Client.Directory
import AccessSync.Proofs.Page.Window
import AccessSync.Proofs.Transport.Parameters
import AccessSync.Sync.Listing
/-!
# Walking through pages

A peer that serves a collection page by page (`World.Pages`) answers with some of the objects from the
position asked for on, at least one if there are any left, and with how many there are. `Walks` is what
the host does: it calls with a token, then with the token that came back, until that is empty.

Main statements: `Client.page_ends` says what one page of such a collection is, and `walks_pages` that a
call which hands out the rest page by page hands out all of it.
-/

namespace AccessSync

namespace Query

/-- A request for a window asks for its beginning, its size and the attributes. -/
theorem pairs_window {start : UInt32} (h : start ≠ 0) (names : List String) :
    (ofTerms (Sync.windowTerms start names)).pairs =
      [("startIndex", Text.ofNat start.toNat), ("count", "50")] ++
        names.map fun name => ("attributes", name) := by
  have hsize : pageSize ≠ 0 := by decide
  have hcount : Text.ofNat pageSize.toNat = "50" := by decide +kernel
  rw [pairs_ofTerms]
  simp [Sync.windowTerms, collected, before, Term.version?, Term.own, parameter, h, hsize, hcount]

theorem window_ne_empty {start : UInt32} (h : start ≠ 0) (names : List String) :
    (ofTerms (Sync.windowTerms start names)).isEmpty = false := by
  rw [isEmpty, pairs_window h]
  rfl

end Query

namespace World

variable {α β γ σ : Type} {w : World σ} {stored : σ → β} {st st₁ st' : Memory × σ}

/-- The peer serves a collection, which is a part of what it has, page by page. A page holds some of the
objects from a position on, at least one if there are any, and tells how many there are in all. -/
structure Pages (w : World σ) (c : Client) (scope : Scope) (stored : σ → β) (d : Directory α)
    (attributes : List String) (objects : β → List α) : Prop where
  reachable : ∃ url base, c.resolver.resolve d.endpoint scope = .ok url ∧ Transport.Reachable url base
  answers : ∀ url start, c.resolver.resolve d.endpoint scope = .ok url → start ≠ 0 →
    Transport.Answers w stored (Transport.Asks .get url none (Sync.windowTerms start attributes))
      (Listing.read (d.read Listing.depth)) fun has found =>
        found.2.toNat = (objects has).length ∧
          ∃ size, 0 < size ∧ found.1 = ((objects has).drop (start.toNat - 1)).take size

/-! ## Walks -/

/-- Called with the token, and from then on with each token that it returns until that is empty, the
call has those items on its pages. -/
inductive Walks (w : World σ) (fetch : String → Call (SyncPage γ)) :
    String → Memory × σ → List γ → Memory × σ → Prop
  | last {token : String} {st st' : Memory × σ} {page : SyncPage γ}
    (hpage : w.Ends (fetch token) st (.ok page) st') (hnext : page.nextToken = "") :
    Walks w fetch token st page.items st'
  | more {token : String} {st st₁ st' : Memory × σ} {page : SyncPage γ} {items : List γ}
    (hpage : w.Ends (fetch token) st (.ok page) st₁) (hnext : page.nextToken ≠ "")
    (hrest : Walks w fetch page.nextToken st₁ items st') :
    Walks w fetch token st (page.items ++ items) st'

/-- After a page with this token the walk is over, or it goes on with those items. -/
def GoesOn (w : World σ) (fetch : String → Call (SyncPage γ)) (token : String) (st : Memory × σ)
    (items : List γ) (st' : Memory × σ) : Prop :=
  token = "" ∧ items = [] ∧ st' = st ∨ token ≠ "" ∧ w.Walks fetch token st items st'

theorem Walks.of_page {fetch : String → Call (SyncPage γ)} {token : String} {page : SyncPage γ}
    {items : List γ} (hpage : w.Ends (fetch token) st (.ok page) st₁)
    (h : w.GoesOn fetch page.nextToken st₁ items st') :
    w.Walks fetch token st (page.items ++ items) st' := by
  rcases h with ⟨hnext, rfl, rfl⟩ | ⟨hnext, hrest⟩
  · rw [List.append_nil]
    exact .last hpage hnext
  · exact .more hpage hnext hrest

/-- A call that hands out the first part of what is left, unless that is nothing, and comes to a certain
token when there is no more, hands out everything before that token. -/
theorem walks_pages {fetch : String → Call (SyncPage γ)} (emit : List α → List γ)
    (hemit : ∀ xs ys, emit (xs ++ ys) = emit xs ++ emit ys)
    {Before : List α → String → Memory × σ → Prop} {After Final : Memory × σ → Prop} {done : String}
    (hpage : ∀ rest token st, Before rest token st → ∃ now later page st', rest = now ++ later ∧
      w.Ends (fetch token) st (.ok page) st' ∧ page.items = emit now ∧
        (later = [] ∧ page.nextToken = done ∧ After st' ∨
          now ≠ [] ∧ page.nextToken ≠ "" ∧ Before later page.nextToken st'))
    {items : List γ} (hdone : ∀ st, After st → ∃ st', w.GoesOn fetch done st items st' ∧ Final st')
    {rest : List α} {token : String} (hbefore : Before rest token st) :
    ∃ st', w.Walks fetch token st (emit rest ++ items) st' ∧ Final st' := by
  -- Every page but the last takes something from the rest.
  induction hlength : rest.length using Nat.strong_induction_on generalizing rest token st with
  | _ length ih =>
    obtain ⟨now, later, page, st₁, rfl, hends, hitems, hnext⟩ := hpage rest token st hbefore
    rcases hnext with ⟨rfl, hnext, hafter⟩ | ⟨hnow, hnext, hbefore'⟩
    · obtain ⟨st', hgoes, hfinal⟩ := hdone st₁ hafter
      rw [← hnext] at hgoes
      rw [List.append_nil, ← hitems]
      exact ⟨st', .of_page hends hgoes, hfinal⟩
    · have hshorter : later.length < length := by
        have := List.length_pos_of_ne_nil hnow
        rw [← hlength, List.length_append]
        omega
      obtain ⟨st', hwalks, hfinal⟩ := ih later.length hshorter hbefore' rfl
      rw [hemit, List.append_assoc, ← hitems]
      exact ⟨st', .more hends hnext hwalks, hfinal⟩

end World

/-! ## One page -/

section Page
variable {α β σ : Type} {w : World σ} {stored : σ → β} {c : Client} {scope : Scope} {d : Directory α}
  {attributes : List String} {objects : β → List α}

/-- After a page that holds the first of the rest, the listing goes on behind it if there are more. -/
theorem Sync.nextOf_take {before rest : List α} {size : Nat} {start total : UInt32} (rateLimit : Http.RateLimit)
    (hsize : 0 < size) (hstart : start.toNat = before.length + 1)
    (htotal : total.toNat = before.length + rest.length) (hfew : total.toNat < Nat.pow 2 32 - 1) :
    rest.drop size = [] ∧ nextOf start ⟨rest.take size, total, rateLimit⟩ = "" ∨
      rest.take size ≠ [] ∧ (before ++ rest.take size).length + 1 ≤ Nat.pow 2 32 - 1 ∧
        nextOf start ⟨rest.take size, total, rateLimit⟩ =
          Text.ofNat ((before ++ rest.take size).length + 1) := by
  have htaken : (rest.take size).length + (rest.drop size).length = rest.length := by
    rw [← List.length_append, List.take_append_drop]
  -- A page is empty only if nothing is left.
  have hempty : (rest.take size).length = 0 → rest.length = 0 := by
    rw [List.length_take]
    omega
  have hlast : before.length + (rest.take size).length = total.toNat ↔ (rest.drop size).length = 0 := by
    omega
  have hnext := nextStart_eq hstart (by omega : before.length + (rest.take size).length ≤ total.toNat) hfew
    (by omega)
  simp only [nextOf, hnext, hlast, List.length_append]
  by_cases hlater : (rest.drop size).length = 0
  · exact .inl ⟨List.length_eq_zero_iff.1 hlater, if_pos hlater⟩
  · refine .inr ⟨fun hnil => ?_, by omega, if_neg hlater⟩
    have := hempty (by rw [hnil]; rfl)
    omega

/-- Behind those that were read, a page holds the first of the rest and says where to go on, if there are
more. -/
theorem Client.page_ends (hsigns : w.Signs c.credentials scope stored)
    (hpages : w.Pages c scope stored d attributes objects) {before rest : List α} {st : Memory × σ}
    (hall : objects (stored st.2) = before ++ rest)
    (hfew : (objects (stored st.2)).length < Nat.pow 2 32 - 1) :
    ∃ now later listing st', rest = now ++ later ∧
      w.Ends (c.list d scope (Sync.windowTerms (UInt32.ofNat (before.length + 1)) attributes)) st
        (.ok listing) st' ∧
      World.Keeps stored st st' ∧ listing.items = now ∧
      (later = [] ∧ Sync.nextOf (UInt32.ofNat (before.length + 1)) listing = "" ∨
        now ≠ [] ∧ (before ++ now).length + 1 ≤ Nat.pow 2 32 - 1 ∧
          Sync.nextOf (UInt32.ofNat (before.length + 1)) listing =
            Text.ofNat ((before ++ now).length + 1)) := by
  have hlength : (objects (stored st.2)).length = before.length + rest.length := by
    rw [hall, List.length_append]
  have hstart : (UInt32.ofNat (before.length + 1)).toNat = before.length + 1 := by
    rw [UInt32.toNat_ofNat']
    simp only [Nat.pow_eq] at hfew
    omega
  have hne : UInt32.ofNat (before.length + 1) ≠ 0 := by
    intro hzero
    rw [hzero] at hstart
    cases hstart
  obtain ⟨url, base, hurl, hreach⟩ := hpages.reachable
  obtain ⟨⟨items, total⟩, rateLimit, st', hends, hkeeps, htotal, size, hsize, hitems⟩ :=
    (hpages.answers url _ hurl hne).exchange hsigns hreach (Query.window_ne_empty hne attributes) st
  dsimp only at htotal hitems
  obtain rfl : items = rest.take size := by
    rw [hitems, hstart, hall, Nat.add_sub_cancel, List.drop_left]
  refine ⟨rest.take size, rest.drop size, ⟨rest.take size, total, rateLimit⟩, st',
    (List.take_append_drop size rest).symm, ?_, hkeeps, rfl, ?_⟩
  · unfold list
    rw [exchange_ok c _ _ scope hurl]
    exact hends.bind_iff.2 (World.ends_pure.2 ⟨rfl, rfl⟩)
  · exact Sync.nextOf_take rateLimit hsize hstart (htotal.trans hlength) (htotal ▸ hfew)

end Page

/-! ## A peer with a page for each object -/

namespace Sync

/-- The pages of one kind of objects, an object on each. -/
structure Binder where
  endpoint : Endpoint
  pages : List String
  /-- The page behind the last object. -/
  blank : String
  deriving DecidableEq

/-- Two users, three groups, two of which have one id, and a service principal. -/
def binders : List Binder :=
  [⟨.users,
      ["\x7b\"Resources\":[\x7b\"id\":\"1\",\"roles\":[\x7b\"value\":\"account_admin\"\x7d]\x7d],\"totalResults\":2\x7d",
       "\x7b\"Resources\":[\x7b\"id\":\"2\"\x7d],\"totalResults\":2\x7d"],
      "\x7b\"totalResults\":2\x7d"⟩,
   ⟨.groups,
      ["\x7b\"Resources\":[\x7b\"id\":\"3\",\"displayName\":\"old\"\x7d],\"totalResults\":3\x7d",
       "\x7b\"Resources\":[\x7b\"id\":\"4\",\"roles\":[\x7b\"value\":\"account_admin\"\x7d],\"meta\":\x7b\"resourceType\":\"Group\"\x7d\x7d],\"totalResults\":3\x7d",
       "\x7b\"Resources\":[\x7b\"id\":\"3\",\"displayName\":\"new\"\x7d],\"totalResults\":3\x7d"],
      "\x7b\"totalResults\":3\x7d"⟩,
   ⟨.servicePrincipals,
      ["\x7b\"Resources\":[\x7b\"id\":\"5\",\"roles\":[\x7b\"value\":\"account_admin\"\x7d]\x7d],\"totalResults\":1\x7d"],
      "\x7b\"totalResults\":1\x7d"⟩]

/-- The users of the binders. -/
def boundUsers : List User :=
  [⟨"1", [], [], "", "", false, ⟨["account_admin"], []⟩⟩, ⟨"2", [], [], "", "", false, .none⟩]

def boundGroups : List Group :=
  [⟨"3", "old", [], "", [], .none⟩, ⟨"4", "", [], "Group", [], ⟨["account_admin"], []⟩⟩,
   ⟨"3", "new", [], "", [], .none⟩]

def boundServicePrincipals : List ServicePrincipal := [⟨"5", "", false, "", ⟨["account_admin"], []⟩⟩]

/-- The page from a position on, counted from one. -/
def Binder.page (b : Binder) (position : Nat) : String := (b.pages[position - 1]?).getD b.blank

/-- The page that the parameters ask for. -/
def Binder.answer (b : Binder) (asked : List (String × String)) : String :=
  match asked.find? (·.1 = "startIndex") with
  | some (_, text) =>
    match Text.readNat (Nat.pow 2 32 - 1) text.toList with
    | .ok position => b.page position
    | .error _ => b.blank
  | none => b.blank

/-- A peer that serves the binders and nothing else. -/
def library : World Unit where
  now _ := ⟨0⟩
  answer request _ :=
    match request.method with
    | .get =>
      match binders.find? fun b => request.url.path = (directoryUrl b.endpoint).path with
      | some b => (some (Transport.replyOf (b.answer request.parameters)), ())
      | none => (none, ())
    | _ => (none, ())

theorem library_signs : library.Signs Client.plain.credentials .account id :=
  ⟨fun st => ⟨none, st, rfl, rfl⟩, fun _ _ _ => rfl⟩

theorem answer_window (b : Binder) {start : UInt32} (h : start ≠ 0) (names : List String) :
    b.answer (Query.ofTerms (windowTerms start names)).pairs = b.page start.toNat := by
  have hle : start.toNat ≤ Nat.pow 2 32 - 1 := by
    have := start.toNat_lt
    simp only [Nat.pow_eq]
    omega
  rw [Query.pairs_window h]
  unfold Binder.answer
  have hfind : ([("startIndex", Text.ofNat start.toNat), ("count", "50")] ++
      names.map fun name => ("attributes", name)).find? (·.1 = "startIndex") =
      some ("startIndex", Text.ofNat start.toNat) := rfl
  simp only [hfind, Text.readNat_ofNat hle]

/-- A binder whose pages hold the objects one by one is served page by page. -/
theorem library_pages (b : Binder) (total : UInt32) {α : Type} {d : Directory α} {objects : List α}
    (he : d.endpoint ∈ [Endpoint.users, .groups, .servicePrincipals])
    (hbinder : binders.find? (fun b => (directoryUrl d.endpoint).path = (directoryUrl b.endpoint).path) = some b)
    (htotal : total.toNat = objects.length)
    (hpage : ∀ position ≤ objects.length + 1,
      (Transport.readBody (Utf8.encode (b.page position).toList)).bind (Listing.read (d.read Listing.depth)) =
        some ((objects.drop (position - 1)).take 1, total))
    (hlength : b.pages.length = objects.length) (attributes : List String) :
    library.Pages Client.plain .account id d attributes fun _ => objects := by
  obtain ⟨hresolve, hreach⟩ := directory_reachable he
  refine ⟨⟨_, _, hresolve, hreach⟩, ?_⟩
  intro url start hurl hstart request s hasks
  rw [hresolve] at hurl
  cases hurl
  have hne := Query.window_ne_empty hstart attributes
  have hpath := hasks.path hreach hne
  have htext : (Transport.readBody (Utf8.encode (b.page start.toNat).toList)).bind
      (Listing.read (d.read Listing.depth)) = some ((objects.drop (start.toNat - 1)).take 1, total) := by
    by_cases hle : start.toNat ≤ objects.length + 1
    · exact hpage _ hle
    · -- Behind the last object every page is like the first one there.
      have hblank : b.page start.toNat = b.page (objects.length + 1) := by
        unfold Binder.page
        rw [List.getElem?_eq_none (by omega), List.getElem?_eq_none (by omega)]
      have hdrop : objects.drop (start.toNat - 1) = objects.drop (objects.length + 1 - 1) := by
        rw [List.drop_eq_nil_of_le (by omega), List.drop_eq_nil_of_le (by omega)]
      rw [hblank, hdrop]
      exact hpage _ le_rfl
  refine ⟨Transport.replyOf (b.page start.toNat), (), _, ?_, rfl, tells_text htext, htotal, 1, by decide, rfl⟩
  unfold library
  simp only [hasks.method, hpath, hbinder, hasks.parameters hne, answer_window b hstart]

theorem library_users (attributes : List String) :
    library.Pages Client.plain .account id .users attributes fun _ => boundUsers := by
  refine library_pages binders[0] 2 ?_ ?_ ?_ ?_ ?_ attributes <;> decide +kernel

theorem library_groups (attributes : List String) :
    library.Pages Client.plain .account id .groups attributes fun _ => boundGroups := by
  refine library_pages binders[1] 3 ?_ ?_ ?_ ?_ ?_ attributes <;> decide +kernel

theorem library_servicePrincipals (attributes : List String) :
    library.Pages Client.plain .account id .servicePrincipals attributes fun _ => boundServicePrincipals := by
  refine library_pages binders[2] 1 ?_ ?_ ?_ ?_ ?_ attributes <;> decide +kernel

end Sync

end AccessSync
