import AccessSync.Text.Split
/-!
# Punycode

A label outside ASCII is written with its ASCII characters first, then a hyphen if there are any,
and then the places of all other characters as numbers. The numbers are written to base 36, lowest
digit first; a digit below a threshold ends its number, and the threshold adapts to the sizes met so
far. Characters are inserted in the order of their codes, so each number counts how far the next
insertion is from the last one.
-/

namespace AccessSync.Punycode

/-- The largest code that an insertion is counted to. -/
def greatestCode : Nat := 0x10FFFF

/-- A digit below 36, letters first. -/
def digit (n : Nat) : Char :=
  if n < 26 then Char.ofNat ('a'.toNat + n) else Char.ofNat ('0'.toNat + (n - 26))

def digitValue? (c : Char) : Option Nat :=
  if 'a' ≤ c ∧ c ≤ 'z' then some (c.toNat - 'a'.toNat)
  else if 'A' ≤ c ∧ c ≤ 'Z' then some (c.toNat - 'A'.toNat)
  else if '0' ≤ c ∧ c ≤ '9' then some (c.toNat - '0'.toNat + 26)
  else none

/-- Digits below this one end a number; `position` is 36 for the first digit, 72 for the next. -/
def threshold (position bias : Nat) : Nat := max 1 (min 26 (position - bias))

/-- Divides by 35 while the step is large, counting 36 each time. -/
def shrink (step counted : Nat) : Nat × Nat :=
  if 455 < step then shrink (step / 35) (counted + 36) else (step, counted)
termination_by step
decreasing_by omega

/-- The bias after a step, for a text that now has so many characters. -/
def adapt (step count : Nat) (first : Bool) : Nat :=
  let step := if first then step / 700 else step / 2
  let (step, counted) := shrink (step + step / count) 0
  counted + 36 * step / (step + 38)

/-- A number as digits. -/
def number (bias position n : Nat) : List Char :=
  let t := threshold position bias
  if n < t then [digit n]
  else digit (t + (n - t) % (36 - t)) :: number bias (position + 36) ((n - t) / (36 - t))
termination_by n
decreasing_by
  have h : 1 ≤ threshold position bias := Nat.le_max_left _ _
  have : (n - threshold position bias) / (36 - threshold position bias)
      ≤ n - threshold position bias := Nat.div_le_self _ _
  omega

/-- What is known while the insertions are written. -/
structure Progress where
  /-- How far the next insertion is from the last one. -/
  step : Nat
  bias : Nat
  /-- Characters inserted or ASCII so far. -/
  count : Nat
  first : Bool

/-- Goes past one character of the text while those with this code are inserted. -/
def pass (code : Nat) (c : Char) (p : Progress) : Progress × List Char :=
  if c.toNat < code then ({ p with step := p.step + 1 }, [])
  else if c.toNat = code then
    (⟨0, adapt p.step (p.count + 1) p.first, p.count + 1, false⟩, number p.bias 36 p.step)
  else (p, [])

def passAll (code : Nat) : List Char → Progress → Progress × List Char
  | [], p => (p, [])
  | c :: cs, p =>
    let (p, out) := pass code c p
    let (p, more) := passAll code cs p
    (p, out ++ more)

/-- Inserts the characters of the codes given in ascending order, from `reached` on. -/
def insertAll (text : List Char) : List Nat → Nat → Progress → List Char
  | [], _, _ => []
  | code :: codes, reached, p =>
    let p := { p with step := p.step + (code - reached) * (p.count + 1) }
    let (p, out) := passAll code text p
    out ++ insertAll text codes (code + 1) { p with step := p.step + 1 }

def encode (text : List Char) : List Char :=
  let plain := text.filter fun c => c.toNat < 0x80
  let codes := ((text.filter fun c => 0x80 ≤ c.toNat).map Char.toNat).eraseDups.mergeSort
  let start := if plain = [] then [] else plain ++ ['-']
  start ++ insertAll text codes 0x80 ⟨0, 72, plain.length, true⟩

/-- Numbers from here on are too large to stand for a place. -/
def tooLarge : Nat := Nat.pow 2 32

/-- The number at the front, added to `acc`, and what follows it. -/
def readNumber (bias position weight acc : Nat) : List Char → Option (Nat × List Char)
  | [] => none
  | c :: cs =>
    match digitValue? c with
    | none => none
    | some d =>
      let t := threshold position bias
      if tooLarge ≤ acc + d * weight then none
      else if d < t then some (acc + d * weight, cs)
      else if tooLarge ≤ weight * (36 - t) then none
      else readNumber bias (position + 36) (weight * (36 - t)) (acc + d * weight) cs

theorem readNumber_length {cs rest : List Char} {bias position weight acc n : Nat}
    (h : readNumber bias position weight acc cs = some (n, rest)) : rest.length < cs.length := by
  fun_induction readNumber bias position weight acc cs with
  | case1 => simp at h
  | case2 => simp at h
  | case3 => simp at h
  | case4 => simp at h; simp [h.2]
  | case5 => simp at h
  | case6 => rename_i ih; have := ih h; simp only [List.length_cons]; omega

/-- Reads the insertions into `text`; `place` counts places over all codes from `code` on. -/
def readAll (text : List Char) (code place bias : Nat) (first : Bool) (cs : List Char) :
    Option (List Char) :=
  if cs = [] then some text
  else
    match _h : readNumber bias 36 1 place cs with
    | none => none
    | some (n, rest) =>
      let count := text.length + 1
      let code := code + n / count
      if greatestCode < code ∨ (0xD800 ≤ code ∧ code ≤ 0xDFFF) then none
      else
        readAll (text.insertIdx (n % count) (Char.ofNat code)) code (n % count + 1)
          (adapt (n - place) count first) false rest
termination_by cs.length
decreasing_by exact readNumber_length _h

/-- The text before the last hyphen and the one after it. A hyphen with nothing before it ends
nothing. -/
def cutLast (cs : List Char) : List Char × List Char :=
  match Text.cut? '-' cs.reverse with
  | some (_, []) => ([], cs)
  | some (after, before) => (before.reverse, after.reverse)
  | none => ([], cs)

/-- The label that a Punycode text stands for. -/
def decode? (cs : List Char) : Option (List Char) :=
  let (plain, rest) := cutLast cs
  if plain.any fun c => 0x80 ≤ c.toNat then none else readAll plain 0x80 0 72 true rest

end AccessSync.Punycode
