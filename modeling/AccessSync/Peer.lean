import AccessSync.Program
/-!
# Scripted peers

A peer that answers from a list: each request that reaches it takes the next reply, and it keeps a
log of what it was asked. Requests to a place that cannot be reached are neither logged nor
answered.
-/

namespace AccessSync

/-- What a peer does with one request. -/
inductive Turn where
  | answer (reply : Http.Reply)
  /-- It ends the connection. -/
  | drop

structure Peer where
  /-- What it does with the requests to come. -/
  turns : List Turn
  /-- The requests that reached it, last first. -/
  log : List Http.Request

namespace Peer

def ofTurns (turns : List Turn) : Peer := ⟨turns, []⟩

/-- The reply to a request that nothing was planned for. -/
def unplanned : Http.Reply :=
  ⟨.notFound, [], some (Utf8.encode
    (Json.object [("message", .string "no scripted response")]).print)⟩

/-- The reply as it arrives: a status that has no body comes without one. -/
def deliver (reply : Http.Reply) : Http.Reply :=
  if reply.status.isBodiless then { reply with body := some [] } else reply

/-- Takes a request in. -/
def take (request : Http.Request) (p : Peer) : Option Http.Reply × Peer :=
  match p.turns with
  | [] => (some unplanned, { p with log := request :: p.log })
  | .drop :: turns => (none, ⟨turns, request :: p.log⟩)
  | .answer reply :: turns => (some (deliver reply), ⟨turns, request :: p.log⟩)

/-- The world of a peer at one instant. `reaches` tells the places that can be reached. -/
def world (reaches : Url → Bool) (now : Instant) : World Peer where
  now _ := now
  answer request p := if reaches request.url then p.take request else (none, p)

end Peer

end AccessSync
