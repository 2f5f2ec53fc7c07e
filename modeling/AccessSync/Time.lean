/-!
# Time

An instant is a number of whole seconds since 1970; fractions of a second are left out. The calendar ends,
and so does the range of spans that can be counted: `span?` and `later?` say where a number of seconds
leaves them.
-/

namespace AccessSync

/-- A number of seconds since the beginning of 1970. -/
structure Instant where
  seconds : Int
  deriving DecidableEq, Repr

namespace Instant

/-- The first second of the year -262143. -/
def earliest : Int := -8334601228800

/-- The last second of the year 262142. -/
def latest : Int := 8210266876799

/-- The most seconds that a span counts, as its milliseconds fit into 64 bits. -/
def longestSpan : Int := 9223372036854775

/-- The seconds, if they are a span. -/
def span? (seconds : Int) : Option Int :=
  if -longestSpan ≤ seconds ∧ seconds ≤ longestSpan then some seconds else none

/-- The instant a span later, if the calendar has it. -/
def later? (start : Instant) (span : Int) : Option Instant :=
  if earliest ≤ start.seconds + span ∧ start.seconds + span ≤ latest then
    some ⟨start.seconds + span⟩
  else none

end Instant

end AccessSync
