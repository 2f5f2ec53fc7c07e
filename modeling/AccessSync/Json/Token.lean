import AccessSync.Json.Basic
import AccessSync.Text.Utf8
import AccessSync.Text.Percent
/-!
# Tokens of JSON texts

A text is a list of symbols: characters, and gaps where bytes are no UTF-8. `lex` cuts it into
tokens, leaving out the blanks between them. A gap or half of a surrogate pair is allowed within a
string, which then denotes nothing.
-/

namespace AccessSync.Json

/-- A character, or nothing where the bytes encode none. -/
abbrev Symbol := Option Char

/-- The smallest parts of a text that mean something. -/
inductive Token where
  | openArray
  | closeArray
  | openObject
  | closeObject
  | comma
  | colon
  | null
  | bool (b : Bool)
  /-- A number, if it is not beyond all numbers. -/
  | number (n : Option Number)
  /-- A string, if it denotes a text. -/
  | string (s : Option String)

/-- The blanks of JSON. -/
def isSpace (s : Symbol) : Bool := s ∈ [some ' ', some '\n', some '\t', some '\r']

/-! ## Strings -/

/-- What one place of a string holds. -/
inductive Piece where
  | char (c : Char)
  /-- A number of 16 bits, written as an escape. -/
  | unit (n : Nat)
  | gap

/-- The number that four hexadecimal digits write. -/
def hex4? (a b c d : Symbol) : Option Nat := do
  let a ← Percent.hexValue? (← a).toNat
  let b ← Percent.hexValue? (← b).toNat
  let c ← Percent.hexValue? (← c).toNat
  let d ← Percent.hexValue? (← d).toNat
  return ((a * 16 + b) * 16 + c) * 16 + d

/-- The character that a backslash and this character stand for. -/
def shortEscape? (c : Char) : Option Char :=
  match c with
  | '"' => some '"'
  | '\\' => some '\\'
  | '/' => some '/'
  | 'b' => some '\x08'
  | 'f' => some '\x0c'
  | 'n' => some '\n'
  | 'r' => some '\r'
  | 't' => some '\t'
  | _ => none

/-- The pieces of a string up to its closing quote, and what follows. -/
def scanString : List Symbol → Option (List Piece × List Symbol)
  | [] => none
  | none :: rest => (scanString rest).map fun (ps, r) => (.gap :: ps, r)
  | some '"' :: rest => some ([], rest)
  | some '\\' :: some 'u' :: a :: b :: c :: d :: rest =>
    (hex4? a b c d).bind fun n => (scanString rest).map fun (ps, r) => (.unit n :: ps, r)
  | some '\\' :: some c :: rest =>
    (shortEscape? c).bind fun e => (scanString rest).map fun (ps, r) => (.char e :: ps, r)
  | some c :: rest =>
    if c = '\\' ∨ c.toNat < 0x20 then none
    else (scanString rest).map fun (ps, r) => (.char c :: ps, r)

/-- A number that begins a surrogate pair. -/
def isHigh (n : Nat) : Bool := 0xD800 ≤ n && n ≤ 0xDBFF

/-- A number that ends a surrogate pair. -/
def isLow (n : Nat) : Bool := 0xDC00 ≤ n && n ≤ 0xDFFF

/-- The text of the pieces; nothing if a piece is a gap or half of a pair. -/
def textOf : List Piece → Option (List Char)
  | [] => some []
  | .char c :: ps => (textOf ps).map (c :: ·)
  | .gap :: _ => none
  | .unit h :: .unit l :: ps =>
    if isHigh h then
      if isLow l then
        (textOf ps).map (Char.ofNat (0x10000 + (h - 0xD800) * 0x400 + (l - 0xDC00)) :: ·)
      else none
    else if isLow h then none
    else (textOf (.unit l :: ps)).map (Char.ofNat h :: ·)
  | .unit n :: ps =>
    if isHigh n || isLow n then none else (textOf ps).map (Char.ofNat n :: ·)

/-! ## Numbers -/

/-- The decimal digits at the front. -/
def scanDigits : List Symbol → List Nat × List Symbol
  | some c :: rest =>
    match Text.digit? c with
    | some d => let (ds, r) := scanDigits rest; (d :: ds, r)
    | none => ([], some c :: rest)
  | cs => ([], cs)

/-- The decimal digits at the front, of which there has to be one. -/
def scanSomeDigits (cs : List Symbol) : Option (List Nat × List Symbol) :=
  match scanDigits cs with
  | ([], _) => none
  | (d :: ds, rest) => some (d :: ds, rest)

/-- The digits before the point: a zero alone, or digits that begin with none. -/
def scanWhole : List Symbol → Option (List Nat × List Symbol)
  | some '0' :: rest => some ([0], rest)
  | cs => scanSomeDigits cs

/-- A point and the digits after it; no digits if there is no point. -/
def scanFraction : List Symbol → Option (List Nat × List Symbol)
  | some '.' :: rest => scanSomeDigits rest
  | cs => some ([], cs)

/-- The sign of an exponent: whether it lowers the number. -/
def scanSign : List Symbol → Bool × List Symbol
  | some '+' :: rest => (false, rest)
  | some '-' :: rest => (true, rest)
  | cs => (false, cs)

/-- The exponent, if one is written. -/
def scanExponent : List Symbol → Option (Option (Bool × List Nat) × List Symbol)
  | some c :: rest =>
    if c = 'e' ∨ c = 'E' then
      (scanSomeDigits (scanSign rest).2).map fun (ds, r) => (some ((scanSign rest).1, ds), r)
    else some (none, some c :: rest)
  | cs => some (none, cs)

/-- A number after its minus sign. -/
def scanUnsigned (negative : Bool) (cs : List Symbol) : Option (Numeral × List Symbol) := do
  let (whole, cs) ← scanWhole cs
  let (fraction, cs) ← scanFraction cs
  let (exponent, cs) ← scanExponent cs
  return (⟨negative, whole, fraction, exponent⟩, cs)

/-- A number at the front. -/
def scanNumber : List Symbol → Option (Numeral × List Symbol)
  | some '-' :: rest => scanUnsigned true rest
  | cs => scanUnsigned false cs

/-! ## The text -/

/-- The token at the front of a text that does not begin with a blank. -/
def next? : List Symbol → Option (Token × List Symbol)
  | some '[' :: rest => some (.openArray, rest)
  | some ']' :: rest => some (.closeArray, rest)
  | some '{' :: rest => some (.openObject, rest)
  | some '}' :: rest => some (.closeObject, rest)
  | some ',' :: rest => some (.comma, rest)
  | some ':' :: rest => some (.colon, rest)
  | some 'n' :: some 'u' :: some 'l' :: some 'l' :: rest => some (.null, rest)
  | some 't' :: some 'r' :: some 'u' :: some 'e' :: rest => some (.bool true, rest)
  | some 'f' :: some 'a' :: some 'l' :: some 's' :: some 'e' :: rest => some (.bool false, rest)
  | some '"' :: rest =>
    (scanString rest).map fun (ps, r) => (.string ((textOf ps).map String.ofList), r)
  | cs => (scanNumber cs).map fun (n, r) => (.number n.number?, r)

/-! ## Every token takes something away -/

theorem scanString_length {cs rest : List Symbol} {ps : List Piece}
    (h : scanString cs = some (ps, rest)) : rest.length < cs.length := by
  fun_induction scanString cs generalizing ps with
  | case1 => simp at h
  | case2 cs ih =>
    obtain ⟨⟨qs, r⟩, hr, he⟩ := Option.map_eq_some_iff.1 h
    obtain ⟨-, rfl⟩ := Prod.mk.inj he
    have := ih hr
    simp only [List.length_cons]; omega
  | case3 => simp at h; simp [h.2]
  | case4 a b c d cs ih | case5 c cs _ ih =>
    obtain ⟨n, -, h⟩ := Option.bind_eq_some_iff.1 h
    obtain ⟨⟨qs, r⟩, hr, he⟩ := Option.map_eq_some_iff.1 h
    obtain ⟨-, rfl⟩ := Prod.mk.inj he
    have := ih hr
    simp only [List.length_cons]; omega
  | case6 => simp at h
  | case7 c cs _ _ _ _ ih =>
    obtain ⟨⟨qs, r⟩, hr, he⟩ := Option.map_eq_some_iff.1 h
    obtain ⟨-, rfl⟩ := Prod.mk.inj he
    have := ih hr
    simp only [List.length_cons]; omega

theorem scanDigits_length (cs : List Symbol) :
    (scanDigits cs).1.length + (scanDigits cs).2.length = cs.length := by
  fun_induction scanDigits cs with
  | case1 c rest d _ ds r hr ih =>
    rw [hr] at ih
    simp only [List.length_cons] at ih ⊢
    omega
  | case2 | case3 => simp

theorem scanSomeDigits_length {cs rest : List Symbol} {ds : List Nat}
    (h : scanSomeDigits cs = some (ds, rest)) : rest.length < cs.length := by
  have := scanDigits_length cs
  unfold scanSomeDigits at h
  split at h
  · simp at h
  · rename_i e
    simp only [Option.some.injEq, Prod.mk.injEq] at h
    simp only [e, List.length_cons, h.2] at this
    omega

theorem scanWhole_length {cs rest : List Symbol} {ds : List Nat}
    (h : scanWhole cs = some (ds, rest)) : rest.length < cs.length := by
  unfold scanWhole at h
  split at h
  · simp at h; simp [h.2]
  · exact scanSomeDigits_length h

theorem scanFraction_length {cs rest : List Symbol} {ds : List Nat}
    (h : scanFraction cs = some (ds, rest)) : rest.length ≤ cs.length := by
  unfold scanFraction at h
  split at h
  · have := scanSomeDigits_length h
    simp only [List.length_cons]; omega
  · simp at h; simp [h.2]

theorem scanSign_length (cs : List Symbol) : (scanSign cs).2.length ≤ cs.length := by
  unfold scanSign
  split <;> simp

theorem scanExponent_length {cs rest : List Symbol} {e : Option (Bool × List Nat)}
    (h : scanExponent cs = some (e, rest)) : rest.length ≤ cs.length := by
  unfold scanExponent at h
  split at h
  · rename_i c cs
    split at h
    · obtain ⟨⟨ds, r⟩, hr, he⟩ := Option.map_eq_some_iff.1 h
      obtain ⟨-, rfl⟩ := Prod.mk.inj he
      have := scanSomeDigits_length hr
      have := scanSign_length cs
      simp only [List.length_cons]; omega
    · simp at h; simp [← h.2]
  · simp at h; simp [h.2]

theorem scanUnsigned_length {negative : Bool} {cs rest : List Symbol} {n : Numeral}
    (h : scanUnsigned negative cs = some (n, rest)) : rest.length < cs.length := by
  simp only [scanUnsigned, Option.bind_eq_bind, Option.bind_eq_some_iff, Prod.exists,
    Option.pure_def, Option.some.injEq, Prod.mk.injEq] at h
  obtain ⟨w, cs1, h1, f, cs2, h2, e, cs3, h3, -, rfl⟩ := h
  have := scanWhole_length h1
  have := scanFraction_length h2
  have := scanExponent_length h3
  omega

theorem scanNumber_length {cs rest : List Symbol} {n : Numeral}
    (h : scanNumber cs = some (n, rest)) : rest.length < cs.length := by
  unfold scanNumber at h
  split at h
  · have := scanUnsigned_length h
    simp only [List.length_cons]; omega
  · exact scanUnsigned_length h

theorem next?_length {cs rest : List Symbol} {t : Token} (h : next? cs = some (t, rest)) :
    rest.length < cs.length := by
  unfold next? at h
  split at h
  case h_10 =>
    obtain ⟨⟨ps, r⟩, hr, he⟩ := Option.map_eq_some_iff.1 h
    obtain ⟨-, rfl⟩ := Prod.mk.inj he
    have := scanString_length hr
    simp only [List.length_cons]; omega
  case h_11 =>
    obtain ⟨⟨n, r⟩, hr, he⟩ := Option.map_eq_some_iff.1 h
    obtain ⟨-, rfl⟩ := Prod.mk.inj he
    exact scanNumber_length hr
  all_goals
    simp only [Option.some.injEq, Prod.mk.injEq] at h
    simp only [← h.2, List.length_cons]
    omega

/-- The tokens of a text. -/
def lex : List Symbol → Option (List Token)
  | [] => some []
  | c :: cs =>
    if isSpace c then lex cs
    else
      match _h : next? (c :: cs) with
      | none => none
      | some (t, rest) => (lex rest).map (t :: ·)
termination_by cs => cs.length
decreasing_by
  · simp
  · exact next?_length _h

end AccessSync.Json
