import AccessSync.Client.Basic
import AccessSync.Page.Window
import AccessSync.Sync.Adapter
import AccessSync.Sync.Place
/-!
# Listings as pages

Users, groups and service principals are listed page by page under a parent. A page token says where
a listing goes on; the next one is made from how many objects the page held and how many there are.
-/

namespace AccessSync.Sync

/-- Where a listing goes on: the frames of its token and the position in the top one. -/
structure Place where
  stack : PageStack
  start : UInt32
  deriving DecidableEq, Repr

/-- The place that a token names; the empty token is the beginning. -/
def resume (token : String) (t : ResourceType) : Call Place :=
  Call.ofExcept .pageToken ((PageStack.resume token t.id).map fun (stack, start) => ⟨stack, start⟩)

/-- Without a parent there is nothing to list. -/
def under (parent : Option ResourceId) (list : ResourceId → Call (SyncPage Resource)) :
    Call (SyncPage Resource) :=
  match parent with
  | none => pure .empty
  | some parent => list parent

variable {α : Type}

/-- The window of a listing that starts at a position. -/
def windowTerms (start : UInt32) (attributes : List String) : List Query.Term :=
  [.window start pageSize, .attributes attributes]

/-- Where a listing starts next, as text. -/
def nextOf (start : UInt32) (listing : Listing α) : String :=
  nextStart start listing.items.length listing.total

/-- One page of a listing as resources. `visit` sees each object with its resource. -/
def listPage (c : Client) (d : Directory α) (attributes : List String)
    (present : α → ResourceId → Resource) (parent : ResourceId) (place : Place)
    (visit : α → Resource → Call Unit) : Call (SyncPage Resource) := do
  let listing ← c.list d (.ofParent (some parent)) (windowTerms place.start attributes)
  listing.items.forM fun a => visit a (present a parent)
  let next ← Call.ofExcept .pageToken (place.stack.nextToken (nextOf place.start listing))
  return ⟨listing.items.map fun a => present a parent, next, some listing.rateLimit⟩

end AccessSync.Sync
