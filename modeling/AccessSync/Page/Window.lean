import AccessSync.Page.Stack
/-!
# Pages of a listing

A listing is fetched in windows of at most `pageSize` objects. Positions count from one and fit into
32 bits; `nextStart` gives the position after a page, if there is anything left.
-/

namespace AccessSync

/-- The most objects asked for at once. -/
def pageSize : UInt32 := 50

namespace PageStack

/-- The position that the next page starts at. -/
def start (s : PageStack) : Except PageFault UInt32 :=
  if s.pageToken = "" then .ok 1
  else
    match Text.readNat (Nat.pow 2 32 - 1) s.pageToken.toList with
    | .ok n => .ok (UInt32.ofNat n)
    | .error fault => .error (.badStart s.pageToken fault)

/-- The stack of a token and the position that it goes on from. A stack without a top frame begins
to list objects of type `resourceType`. -/
def resume (token resourceType : String) : Except PageFault (PageStack × UInt32) := do
  let s ← ofToken token
  let s := if s.current.isSome then s else s.push (.ofType resourceType)
  return (s, ← s.start)

end PageStack

/-- The position after a page of `returned` objects that began at `start`; positions stop at the
largest of 32 bits. -/
def after (start : UInt32) (returned : Nat) : UInt32 :=
  UInt32.ofNat (min (Nat.pow 2 32 - 1) (start.toNat + min (Nat.pow 2 32 - 1) returned))

/-- Where the next page starts, as text; empty if a page was empty or there are no more than
`total` objects. -/
def nextStart (start : UInt32) (returned : Nat) (total : UInt32) : String :=
  if returned = 0 ∨ total < after start returned then "" else Text.ofNat (after start returned).toNat

end AccessSync
