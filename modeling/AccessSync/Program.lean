import AccessSync.Error
import AccessSync.Resource.Basic
/-!
# Programs

What a call does is data: a `Program` names one effect after the other and goes on with the answer
to each. Effects reach the peer, the clock and what the client remembers. `run` carries a program
out in a world that answers requests; statements about all worlds are statements about programs.
-/

namespace AccessSync

/-- A token that the issuer gave out. -/
structure AccessToken where
  text : String
  /-- When it stops being valid, if it does. -/
  expiresAt : Option Instant
  deriving DecidableEq, Repr

/-- Which APIs accept the credentials. -/
structure Availability where
  account : Bool
  workspace : Bool
  deriving DecidableEq, Repr

/-- Something that a program asks for. -/
inductive Effect where
  | send (request : Http.Request)
  | now
  | readToken
  | writeToken (token : Option AccessToken)
  | readEtag (ruleSet : String)
  | writeEtag (ruleSet etag : String)
  | readAvailability
  | writeAvailability (availability : Availability)
  | readGroup (id : String)
  | writeGroup (id : String) (group : Resource)
  | clearGroups

/-- What an effect answers. -/
abbrev Effect.Answer : Effect → Type
  | .send _ => Option Http.Reply
  | .now => Instant
  | .readToken => Option AccessToken
  | .readEtag _ => Option String
  | .readAvailability => Availability
  | .readGroup _ => Option Resource
  | .writeToken _ | .writeEtag _ _ | .writeAvailability _ | .writeGroup _ _ | .clearGroups => Unit

/-- A sequence of effects that ends in a value. -/
inductive Program (α : Type) where
  | done (a : α)
  | perform (e : Effect) (next : e.Answer → Program α)

namespace Program

variable {α β : Type}

def bind : Program α → (α → Program β) → Program β
  | .done a, f => f a
  | .perform e next, f => .perform e fun answer => (next answer).bind f

instance : Monad Program where
  pure := .done
  bind := bind

/-- The program of one effect. -/
def ofEffect (e : Effect) : Program e.Answer := .perform e .done

end Program

/-- A program that may end without a value. -/
abbrev Call := ExceptT Halt Program

namespace Call

variable {α : Type}

def perform (e : Effect) : Call e.Answer := ExceptT.lift (Program.ofEffect e)

def fail (e : Error) : Call α := throw (.error e)

/-- The value, or the error that stands for its fault. -/
def ofExcept {ε : Type} (error : ε → Error) : Except ε α → Call α
  | .ok a => pure a
  | .error fault => fail (error fault)

/-- The call with its error as a value. -/
def attempt (c : Call α) : Call (Except Error α) :=
  ExceptT.mk (do
    match ← c.run with
    | .ok a => return .ok (.ok a)
    | .error (.error e) => return .ok (.error e)
    | .error .beyondCalendar => return .error .beyondCalendar)

end Call

/-! ## Running programs -/

/-- What a client remembers from one call to the next. -/
structure Memory where
  token : Option AccessToken
  /-- The version last seen of each rule set. -/
  etags : Store String
  availability : Availability
  /-- The groups that were listed, by the id that the platform gave them. -/
  groups : Store Resource

namespace Memory

/-- Nothing is known, and both APIs are taken to be there. -/
def fresh : Memory := ⟨none, .empty, ⟨true, true⟩, .empty⟩

end Memory

/-- Who answers requests, and the time. -/
structure World (σ : Type) where
  now : σ → Instant
  answer : Http.Request → σ → Option Http.Reply × σ

namespace World

variable {α σ : Type}

/-- The answer to an effect and what changes with it. -/
def act (w : World σ) : (e : Effect) → Memory × σ → e.Answer × (Memory × σ)
  | .send request, (m, s) =>
    let (reply, s) := w.answer request s
    (reply, m, s)
  | .now, (m, s) => (w.now s, m, s)
  | .readToken, (m, s) => (m.token, m, s)
  | .writeToken token, (m, s) => ((), { m with token }, s)
  | .readEtag ruleSet, (m, s) => (m.etags.get? ruleSet, m, s)
  | .writeEtag ruleSet etag, (m, s) => ((), { m with etags := m.etags.put ruleSet etag }, s)
  | .readAvailability, (m, s) => (m.availability, m, s)
  | .writeAvailability availability, (m, s) => ((), { m with availability }, s)
  | .readGroup id, (m, s) => (m.groups.get? id, m, s)
  | .writeGroup id group, (m, s) => ((), { m with groups := m.groups.put id group }, s)
  | .clearGroups, (m, s) => ((), { m with groups := .empty }, s)

/-- The value of a program, and what is remembered and left outside after it. -/
def run (w : World σ) : Program α → Memory × σ → α × (Memory × σ)
  | .done a, state => (a, state)
  | .perform e next, state =>
    let (answer, state) := w.act e state
    w.run (next answer) state

end World

end AccessSync
