import AccessSync.Http.Message
import AccessSync.Text.Blank
import AccessSync.Time
/-!
# Rate limits

A reply may say how many requests are allowed, how many are left and when to come back. Nothing is
delayed or repeated here; the facts are handed on to the caller. Main definition: `ofReply?`.
-/

namespace AccessSync.Http

/-- How the caller stands with its quota. -/
inductive Quota where
  /-- The reply did not say. -/
  | unknown
  | ok
  | overlimit
  deriving DecidableEq, Repr

def Quota.name : Quota → String
  | .unknown => "unknown"
  | .ok => "ok"
  | .overlimit => "overlimit"

/-- What a reply says about the quota. -/
structure RateLimit where
  quota : Quota
  /-- Requests allowed in the current window. -/
  limit : Option UInt64
  /-- Requests left in the current window. -/
  remaining : Option UInt64
  /-- When the caller may come back. -/
  resetAt : Option Instant
  deriving DecidableEq, Repr

namespace RateLimit

def isOverlimit (r : RateLimit) : Bool := r.quota = .overlimit

/-- A header that counts something. -/
def count? (headers : Headers) (name : String) : Option Nat :=
  (headers.plain? name).bind fun v =>
    (Text.readNat (Nat.pow 2 64 - 1) (Text.trim Text.isBlank v.toList)).toOption

/-- The seconds to wait, where they are given as a number. -/
def retryAfter? (headers : Headers) : Option Int :=
  (headers.plain? "retry-after").bind fun v =>
    match Text.readInt64 (Text.trim Text.isBlank v.toList) with
    | .ok seconds => if 0 ≤ seconds then some seconds else none
    | .error _ => none

/-- The seconds until the window ends. -/
def reset? (headers : Headers) : Option Int :=
  (count? headers "x-ratelimit-reset").bind fun n => if n < Nat.pow 2 63 then some n else none

/-- A span that may be absent; nothing if it is one that cannot be counted. -/
def spanOf? : Option Int → Option (Option Int)
  | none => some none
  | some seconds => (Instant.span? seconds).map some

/-- What a reply received at `now` says; nothing if it names a time beyond the calendar. The time
to wait counts before the end of the window. -/
def ofReply? (now : Instant) (status : Status) (headers : Headers) : Option RateLimit := do
  let limit := count? headers "x-ratelimit-limit"
  let remaining := count? headers "x-ratelimit-remaining"
  let retry ← spanOf? (retryAfter? headers)
  let reset ← spanOf? (reset? headers)
  let resetAt ← match retry.or reset with
    | none => some none
    | some span => (now.later? span).map some
  let quota :=
    if status = .tooManyRequests ∨ remaining = some 0 then .overlimit
    else if limit.isSome ∨ remaining.isSome ∨ resetAt.isSome then .ok
    else .unknown
  return ⟨quota, limit.map UInt64.ofNat, remaining.map UInt64.ofNat, resetAt⟩

end RateLimit

end AccessSync.Http
