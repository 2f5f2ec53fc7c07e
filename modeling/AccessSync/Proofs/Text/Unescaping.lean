import AccessSync.Proofs.Text.Encoding
import Mathlib.Data.List.Flatten
/-!
# Escapes in pieces

A text that is put together from pieces unescapes piece by piece, where characters stand between the
pieces that belong to no escape (`StandsFor.parts`, `StandsFor.cut`). Unescaping shortens a text unless
the text holds no escape (`unescape_encode`, `unescape_shortens`), and it does not matter whether other
characters were escaped before (`unescape_escape_sparing`).
-/

namespace AccessSync

namespace Utf8

/-! ## Decoding -/

theorem toNat_ofNat_valid {n : Nat} (h : n < 0xD800 ∨ 0xDFFF < n ∧ n < 0x110000) : (Char.ofNat n).toNat = n := by
  have hvalid : n.isValidChar := h
  rw [Char.ofNat, dif_pos hvalid]
  rfl

theorem ofNat_eq {b : UInt8} {n : Nat} (h : n = b.toNat) : UInt8.ofNat n = b := by
  rw [h]
  exact UInt8.ofNat_toNat

theorem tail_range {b : UInt8} (h : isTail b = true) : 0x80 ≤ b.toNat ∧ b.toNat ≤ 0xBF := by
  simpa [isTail] using h

theorem second3_range {b : UInt8} {l : Nat} (h : ¬(b.toNat < (second3 l).1 || (second3 l).2 < b.toNat) = true) :
    0x80 ≤ b.toNat ∧ b.toNat ≤ 0xBF ∧ (l = 0xE0 → 0xA0 ≤ b.toNat) ∧ (l = 0xED → b.toNat ≤ 0x9F) := by
  simp only [Bool.or_eq_true, decide_eq_true_eq, not_or, Nat.not_lt] at h
  unfold second3 at h
  split_ifs at h <;> simp only at h <;> omega

theorem second4_range {b : UInt8} {l : Nat} (h : ¬(b.toNat < (second4 l).1 || (second4 l).2 < b.toNat) = true) :
    0x80 ≤ b.toNat ∧ b.toNat ≤ 0xBF ∧ (l = 0xF0 → 0x90 ≤ b.toNat) ∧ (l = 0xF4 → b.toNat ≤ 0x8F) := by
  simp only [Bool.or_eq_true, decide_eq_true_eq, not_or, Nat.not_lt] at h
  unfold second4 at h
  split_ifs at h <;> simp only at h <;> omega

theorem encodeChar_one {a : UInt8} (ha : a.toNat < 0x80) : encodeChar (Char.ofNat a.toNat) = [a] := by
  have hc := toNat_ofNat_valid (n := a.toNat) (by omega)
  rw [encodeChar, hc, if_pos ha, ofNat_eq rfl]

theorem encodeChar_two {a b : UInt8} (ha : 0xC2 ≤ a.toNat ∧ a.toNat < 0xE0) (hb : 0x80 ≤ b.toNat ∧ b.toNat ≤ 0xBF) :
    encodeChar (Char.ofNat (a.toNat % 0x20 * 0x40 + low b)) = [a, b] := by
  generalize hn : a.toNat % 0x20 * 0x40 + low b = n
  rw [low] at hn
  have hc := toNat_ofNat_valid (n := n) (by omega)
  simp only [encodeChar, hc]
  rw [if_neg (by omega), if_pos (by omega), ofNat_eq (b := a) (by omega), ofNat_eq (b := b) (by omega)]

theorem encodeChar_three {a b c : UInt8} (ha : 0xE0 ≤ a.toNat ∧ a.toNat < 0xF0)
    (hb : 0x80 ≤ b.toNat ∧ b.toNat ≤ 0xBF ∧ (a.toNat = 0xE0 → 0xA0 ≤ b.toNat) ∧ (a.toNat = 0xED → b.toNat ≤ 0x9F))
    (hc : 0x80 ≤ c.toNat ∧ c.toNat ≤ 0xBF) :
    encodeChar (Char.ofNat (a.toNat % 0x10 * 0x1000 + low b * 0x40 + low c)) = [a, b, c] := by
  generalize hn : a.toNat % 0x10 * 0x1000 + low b * 0x40 + low c = n
  simp only [low] at hn
  have hchar := toNat_ofNat_valid (n := n) (by omega)
  simp only [encodeChar, hchar]
  rw [if_neg (by omega), if_neg (by omega), if_pos (by omega), ofNat_eq (b := a) (by omega),
    ofNat_eq (b := b) (by omega), ofNat_eq (b := c) (by omega)]

theorem encodeChar_four {a b c d : UInt8} (ha : 0xF0 ≤ a.toNat ∧ a.toNat ≤ 0xF4)
    (hb : 0x80 ≤ b.toNat ∧ b.toNat ≤ 0xBF ∧ (a.toNat = 0xF0 → 0x90 ≤ b.toNat) ∧ (a.toNat = 0xF4 → b.toNat ≤ 0x8F))
    (hc : 0x80 ≤ c.toNat ∧ c.toNat ≤ 0xBF) (hd : 0x80 ≤ d.toNat ∧ d.toNat ≤ 0xBF) :
    encodeChar (Char.ofNat (a.toNat % 0x08 * 0x40000 + low b * 0x1000 + low c * 0x40 + low d)) = [a, b, c, d] := by
  generalize hn : a.toNat % 0x08 * 0x40000 + low b * 0x1000 + low c * 0x40 + low d = n
  simp only [low] at hn
  have hchar := toNat_ofNat_valid (n := n) (by omega)
  simp only [encodeChar, hchar]
  rw [if_neg (by omega), if_neg (by omega), if_neg (by omega), ofNat_eq (b := a) (by omega),
    ofNat_eq (b := b) (by omega), ofNat_eq (b := c) (by omega), ofNat_eq (b := d) (by omega)]

/-- The bytes that make up a character are its bytes. -/
theorem encodeChar_of_after {lead : UInt8} {rest : List UInt8} {c : Char} (h : (after lead rest).1 = .char c) :
    lead :: rest = encodeChar c ++ (after lead rest).2 := by
  unfold after at h ⊢
  dsimp only at h ⊢
  split_ifs at h ⊢ with h1 h2 h3 h4
  · cases h
    rw [encodeChar_one h1]
    rfl
  · simp only [Bool.or_eq_true, decide_eq_true_eq, not_or, Nat.not_lt] at h2
    rcases rest with _ | ⟨b, rest⟩
    · cases h
    dsimp only at h ⊢
    split_ifs at h ⊢ with hb
    cases h
    rw [encodeChar_two ⟨h2.1, h3⟩ (tail_range hb)]
    rfl
  · rcases rest with _ | ⟨b, rest⟩
    · cases h
    dsimp only at h ⊢
    split_ifs at h ⊢ with hb
    rcases rest with _ | ⟨x, rest⟩
    · cases h
    dsimp only at h ⊢
    split_ifs at h ⊢ with hx
    cases h
    rw [encodeChar_three ⟨by omega, h4⟩ (second3_range hb) (tail_range hx)]
    rfl
  · simp only [Bool.or_eq_true, decide_eq_true_eq, not_or, Nat.not_lt] at h2
    rcases rest with _ | ⟨b, rest⟩
    · cases h
    dsimp only at h ⊢
    split_ifs at h ⊢ with hb
    rcases rest with _ | ⟨x, rest⟩
    · cases h
    dsimp only at h ⊢
    split_ifs at h ⊢ with hx
    rcases rest with _ | ⟨y, rest⟩
    · cases h
    dsimp only at h ⊢
    split_ifs at h ⊢ with hy
    cases h
    have hthird := tail_range (b := x) (by simpa using hx)
    rw [encodeChar_four ⟨by omega, h2.2⟩ (second4_range hb) hthird (tail_range hy)]
    rfl

theorem encode_cons (c : Char) (cs : List Char) : encode (c :: cs) = encodeChar c ++ encode cs := rfl

theorem encode_append (xs ys : List Char) : encode (xs ++ ys) = encode xs ++ encode ys := List.flatMap_append

theorem encode_injective {xs ys : List Char} (h : encode xs = encode ys) : xs = ys := by
  have hdecoded := decode_encode xs
  rw [h, decode_encode] at hdecoded
  exact (Except.ok.inj hdecoded).symm

/-- Bytes are a text if each stretch of them is a character. -/
theorem decode_eq_ok_iff_fronts {bytes : List UInt8} {cs : List Char} :
    decode bytes = .ok cs ↔ fronts bytes = cs.map .char := by
  rw [decode]
  generalize fronts bytes = fs, 0 = index
  induction fs generalizing index cs with
  | nil => cases cs <;> simp [charsOf]
  | cons f fs ih =>
    cases f with
    | char c =>
      cases cs with
      | nil => cases h : charsOf (index + (encodeChar c).length) fs <;> simp [charsOf, h, Except.map]
      | cons d cs =>
        rw [charsOf, List.map_cons, List.cons.injEq, Front.char.injEq, ← ih (index + (encodeChar c).length)]
        cases charsOf (index + (encodeChar c).length) fs <;> simp [Except.map]
    | malformed | incomplete => cases cs <;> simp [charsOf]

/-- Only its own bytes are read as a text. -/
theorem decode_eq_ok_iff {bytes : List UInt8} {cs : List Char} : decode bytes = .ok cs ↔ bytes = encode cs := by
  refine ⟨fun h => ?_, fun h => h ▸ decode_encode cs⟩
  rw [decode_eq_ok_iff_fronts] at h
  induction cs generalizing bytes with
  | nil =>
    cases bytes with
    | nil => rfl
    | cons lead rest => simp [fronts] at h
  | cons c cs ih =>
    cases bytes with
    | nil => simp [fronts] at h
    | cons lead rest =>
      rw [fronts, List.map_cons, List.cons.injEq] at h
      rw [encodeChar_of_after h.1, ih h.2]
      rfl

theorem encode_length_le {xs ys : List Char} (h : xs.Sublist ys) : (encode xs).length ≤ (encode ys).length :=
  (h.flatMap encodeChar).length_le

/-- A part of a text that has as many bytes is the text. -/
theorem eq_of_encode_length {xs ys : List Char} (h : xs.Sublist ys)
    (hlength : (encode ys).length ≤ (encode xs).length) : xs = ys :=
  encode_injective ((h.flatMap encodeChar).eq_of_length_le hlength)

/-- The bytes of a character outside ASCII are outside ASCII. -/
theorem encodeChar_high {c : Char} (h : ¬c.toNat < 0x80) {b : UInt8} (hb : b ∈ encodeChar c) :
    0x80 ≤ b.toNat := by
  have hc := char_range c
  unfold encodeChar at hb
  simp only [if_neg h] at hb
  split_ifs at hb <;> simp only [List.mem_cons, List.not_mem_nil, or_false] at hb <;>
    rcases hb with rfl | rfl | rfl | rfl <;> simp only [UInt8.toNat_ofNat'] <;> omega

/-- A character of ASCII is one byte. -/
theorem encode_ascii {c : Char} (h : c.toNat < 0x80) (cs : List Char) :
    encode (c :: cs) = UInt8.ofNat c.toNat :: encode cs := by
  rw [encode_cons, Percent.encodeChar_ascii h]
  rfl

theorem toNat_ofNat_ascii {c : Char} (h : c.toNat < 0x80) : (UInt8.ofNat c.toNat).toNat = c.toNat := by
  rw [UInt8.toNat_ofNat']
  omega

/-- A byte of ASCII parts a text in two. -/
theorem encode_cut {b : UInt8} (hb : b.toNat < 0x80) {front back : List UInt8} {cs : List Char}
    (h : front ++ b :: back = encode cs) :
    ∃ xs ys, front = encode xs ∧ back = encode ys ∧ cs = xs ++ Char.ofNat b.toNat :: ys := by
  induction cs generalizing front with
  | nil => simp [encode] at h
  | cons c cs ih =>
    have hbehind : ∀ more, more ++ b :: back = encode cs → front = encodeChar c ++ more →
        ∃ xs ys, front = encode xs ∧ back = encode ys ∧ c :: cs = xs ++ Char.ofNat b.toNat :: ys := by
      rintro more hcs rfl
      obtain ⟨xs, ys, hxs, hys, rfl⟩ := ih hcs
      exact ⟨c :: xs, ys, by rw [hxs, encode_cons], hys, rfl⟩
    rw [encode_cons] at h
    rcases List.append_eq_append_iff.1 h with ⟨more, hchar, hback⟩ | ⟨more, hfront, hcs⟩
    · cases more with
      | nil => exact hbehind [] hback (by simpa using hchar.symm)
      | cons b' more =>
        cases hback
        -- The byte belongs to the character, which therefore is one of ASCII.
        have hc : c.toNat < 0x80 := by
          by_contra hc
          have := encodeChar_high hc (b := b) (by simp [hchar])
          omega
        rw [Percent.encodeChar_ascii hc] at hchar
        cases front with
        | nil =>
          cases hchar
          refine ⟨[], cs, rfl, rfl, ?_⟩
          rw [toNat_ofNat_ascii hc, Char.ofNat_toNat]
          rfl
        | cons f front => simp at hchar
    · exact hbehind more hcs.symm hfront

end Utf8

namespace Percent

/-- Neither a percent sign nor a hexadecimal digit, and of ASCII: no escape holds it or reaches over it. -/
def Parts (c : Char) : Prop := c.toNat < 0x80 ∧ c ≠ '%' ∧ hexValue? c.toNat = none

instance (c : Char) : Decidable (Parts c) := inferInstanceAs (Decidable (_ ∧ _))

/-- Unescaped, the one text is the other. -/
def StandsFor (cs ts : List Char) : Prop := unescape (Utf8.encode cs) = Utf8.encode ts

/-- A byte stands for itself unless it is a percent sign that two digits follow. -/
theorem unescape_literal {b : UInt8} {bytes : List UInt8}
    (h : b = 0x25 → ∀ c d rest, bytes = c :: d :: rest →
      hexValue? c.toNat = none ∨ hexValue? d.toNat = none) :
    unescape (b :: bytes) = b :: unescape bytes := by
  by_cases hb : b = 0x25
  · match bytes with
    | [] => rfl
    | [_] => rfl
    | c :: d :: rest =>
      rw [unescape, if_pos hb]
      rcases h hb c d rest rfl with hc | hd
      · rw [hc]
      · rw [hd]
        cases hexValue? c.toNat <;> rfl
  · exact unescape_cons hb bytes

/-- No escape reaches over a byte that is neither a percent sign nor a digit. -/
theorem unescape_append {b : UInt8} (hb : b ≠ 0x25) (hno : hexValue? b.toNat = none) (front back : List UInt8) :
    unescape (front ++ b :: back) = unescape front ++ b :: unescape back := by
  fun_induction unescape front with
  | case1 => exact unescape_cons hb back
  | case2 x =>
    rw [List.singleton_append, unescape_literal, unescape_cons hb, List.singleton_append]
    rintro - c d rest ⟨⟩
    exact .inl hno
  | case3 x y =>
    simp only [List.cons_append, List.nil_append]
    rw [unescape_literal, unescape_literal, unescape_cons hb]
    · rintro - c d rest ⟨⟩
      exact .inl hno
    · rintro - c d rest ⟨⟩
      exact .inr hno
  | case4 c d rest high low hhigh hlow ih =>
    simp only [List.cons_append] at ih ⊢
    rw [unescape, if_pos rfl, hhigh, hlow]
    simp only [ih]
  | case5 c d rest hdigits ih =>
    simp only [List.cons_append] at ih ⊢
    rw [unescape_literal, ih]
    rintro - c' d' rest' ⟨⟩
    cases hc : hexValue? c.toNat with
    | none => exact .inl rfl
    | some high =>
      cases hd : hexValue? d.toNat with
      | none => exact .inr rfl
      | some low => exact (hdigits high low hc hd).elim
  | case6 x c d rest hx ih =>
    simp only [List.cons_append] at ih ⊢
    rw [unescape_cons hx, ih]

theorem unescape_length (bytes : List UInt8) : (unescape bytes).length ≤ bytes.length := by
  fun_induction unescape bytes with
  | case1 | case2 | case3 => exact Nat.le_refl _
  | case4 c d rest high low hhigh hlow ih =>
    simp only [List.length_cons]
    omega
  | case5 c d rest hdigits ih =>
    simp only [List.length_cons] at ih ⊢
    omega
  | case6 x c d rest hx ih =>
    simp only [List.length_cons] at ih ⊢
    omega

/-! ## Escapes in a text -/

/-- A hexadecimal digit. -/
def isDigit (c : Char) : Bool := (hexValue? c.toNat).isSome

/-- The text begins with an escape. -/
def opensEscape : List Char → Bool
  | '%' :: a :: b :: _ => isDigit a && isDigit b
  | _ => false

/-- Somewhere in the text two hexadecimal digits follow a percent sign. -/
def holdsEscape : List Char → Bool
  | [] => false
  | c :: cs => opensEscape (c :: cs) || holdsEscape cs

theorem digit_ascii {n : Nat} (h : (hexValue? n).isSome = true) : n < 0x80 := by
  unfold hexValue? at h
  split_ifs at h <;> first | omega | simp at h

theorem opensEscape_percent {cs : List Char} :
    opensEscape ('%' :: cs) = true ↔ ∃ a b rest, cs = a :: b :: rest ∧ isDigit a = true ∧ isDigit b = true := by
  rcases cs with _ | ⟨a, _ | ⟨b, rest⟩⟩ <;> simp [opensEscape]

theorem opensEscape_cons {c : Char} {cs : List Char} (h : opensEscape (c :: cs) = true) : c = '%' := by
  unfold opensEscape at h
  split at h
  · rename_i heq
    exact (List.cons.inj heq).1
  · cases h

/-- A byte at the front of a text that is a digit is the text's first character. -/
theorem front_of_digit {cs : List Char} {b : UInt8} {bytes : List UInt8} (h : Utf8.encode cs = b :: bytes)
    (hb : (hexValue? b.toNat).isSome = true) :
    ∃ c rest, cs = c :: rest ∧ isDigit c = true ∧ bytes = Utf8.encode rest := by
  cases cs with
  | nil => cases h
  | cons c rest =>
    by_cases hc : c.toNat < 0x80
    · rw [Utf8.encode_ascii hc, List.cons.injEq] at h
      refine ⟨c, rest, rfl, ?_, h.2.symm⟩
      rw [isDigit, ← Utf8.toNat_ofNat_ascii hc, h.1]
      exact hb
    · obtain ⟨lead, tail, hlead, -⟩ := Utf8.after_encodeChar c
      have hhigh := Utf8.encodeChar_high hc (hlead ▸ List.mem_cons_self)
      rw [Utf8.encode_cons, hlead, List.cons_append, List.cons.injEq] at h
      have := digit_ascii hb
      rw [← h.1] at this
      omega

/-- A percent sign that begins no escape stands for itself. -/
theorem unescape_unopened {cs : List Char} (h : opensEscape ('%' :: cs) = false) :
    unescape (0x25 :: Utf8.encode cs) = 0x25 :: unescape (Utf8.encode cs) := by
  refine unescape_literal fun _ c d rest hbytes => ?_
  by_contra hdigits
  simp only [not_or, ← ne_eq, Option.ne_none_iff_isSome] at hdigits
  obtain ⟨a, as, rfl, ha, has⟩ := front_of_digit hbytes hdigits.1
  obtain ⟨b, bs, rfl, hb, -⟩ := front_of_digit has.symm hdigits.2
  rw [opensEscape_percent.2 ⟨a, b, bs, rfl, ha, hb⟩] at h
  cases h

/-- An escape stands for one byte. -/
theorem unescape_opened {a b : Char} (ha : isDigit a = true) (hb : isDigit b = true) :
    ∃ byte, ∀ rest, unescape (0x25 :: Utf8.encode (a :: b :: rest)) = byte :: unescape (Utf8.encode rest) := by
  have hascii := fun c (h : isDigit c = true) => digit_ascii h
  obtain ⟨high, hhigh⟩ := Option.isSome_iff_exists.1 ha
  obtain ⟨low, hlow⟩ := Option.isSome_iff_exists.1 hb
  refine ⟨UInt8.ofNat (high * 16 + low), fun rest => ?_⟩
  rw [Utf8.encode_ascii (hascii a ha), Utf8.encode_ascii (hascii b hb), unescape, if_pos rfl,
    Utf8.toNat_ofNat_ascii (hascii a ha), Utf8.toNat_ofNat_ascii (hascii b hb), hhigh, hlow]

/-- Any other character stands for itself. -/
theorem unescape_encodeChar {c : Char} (h : c ≠ '%') (bytes : List UInt8) :
    unescape (Utf8.encodeChar c ++ bytes) = Utf8.encodeChar c ++ unescape bytes := by
  have hmem : ∀ b ∈ Utf8.encodeChar c, b ≠ 0x25 := by
    rintro b hb rfl
    by_cases hc : c.toNat < 0x80
    · rw [encodeChar_ascii hc, List.mem_singleton] at hb
      have hcode := congrArg UInt8.toNat hb
      rw [Utf8.toNat_ofNat_ascii hc] at hcode
      exact h (by rw [← Char.ofNat_toNat c, ← hcode]; rfl)
    · exact absurd (Utf8.encodeChar_high hc hb) (by decide)
  generalize Utf8.encodeChar c = front at hmem
  induction front with
  | nil => rfl
  | cons b front ih =>
    rw [List.cons_append, unescape_cons (hmem b List.mem_cons_self),
      ih fun x hx => hmem x (List.mem_cons_of_mem b hx), List.cons_append]

/-- A text without escapes stands for itself. -/
theorem unescape_encode {cs : List Char} (h : holdsEscape cs = false) :
    unescape (Utf8.encode cs) = Utf8.encode cs := by
  induction cs with
  | nil => rfl
  | cons c cs ih =>
    rw [holdsEscape, Bool.or_eq_false_iff] at h
    by_cases hc : c = '%'
    · subst hc
      exact (unescape_unopened h.1).trans (congrArg _ (ih h.2))
    · rw [Utf8.encode_cons, unescape_encodeChar hc, ih h.2]

/-- A text with escapes stands for a shorter one. -/
theorem unescape_shortens {cs : List Char} (h : holdsEscape cs = true) :
    (unescape (Utf8.encode cs)).length < (Utf8.encode cs).length := by
  induction cs with
  | nil => cases h
  | cons c cs ih =>
    by_cases hopens : opensEscape (c :: cs) = true
    · obtain rfl := opensEscape_cons hopens
      obtain ⟨a, b, rest, rfl, ha, hb⟩ := opensEscape_percent.1 hopens
      obtain ⟨byte, hbyte⟩ := unescape_opened ha hb
      have hrest := unescape_length (Utf8.encode rest)
      rw [Utf8.encode_ascii (by decide)]
      have : UInt8.ofNat '%'.toNat = 0x25 := rfl
      rw [this, hbyte, Utf8.encode_ascii (digit_ascii ha), Utf8.encode_ascii (digit_ascii hb)]
      simp only [List.length_cons]
      omega
    · rw [Bool.not_eq_true] at hopens
      rw [holdsEscape, hopens, Bool.false_or] at h
      have hih := ih h
      by_cases hc : c = '%'
      · subst hc
        have : (unescape (Utf8.encode ('%' :: cs))).length = (unescape (Utf8.encode cs)).length + 1 :=
          congrArg List.length (unescape_unopened hopens)
        rw [this, Utf8.encode_ascii (by decide), List.length_cons]
        omega
      · rw [Utf8.encode_cons, unescape_encodeChar hc, List.length_append, List.length_append]
        omega

/-- The set leaves alone what escapes are written with. -/
def SparesEscapes (set : EscapeSet) : Prop := set '%' = false ∧ ∀ c, isDigit c = true → set c = false

theorem escape_cons (set : EscapeSet) (c : Char) (cs : List Char) :
    escape set (c :: cs) = escapeChar set c ++ escape set cs := rfl

theorem escapeChar_plain {set : EscapeSet} {c : Char} (h : set c = false) (hascii : c.toNat < 0x80) :
    escapeChar set c = [c] := by
  simp [escapeChar, h, isAscii, hascii]

/-- An escaped text begins with a digit only where the text does. -/
theorem front_of_escape {set : EscapeSet} {cs rest : List Char} {c : Char} (h : escape set cs = c :: rest)
    (hc : isDigit c = true) : ∃ tail, cs = c :: tail ∧ rest = escape set tail := by
  cases cs with
  | nil => cases h
  | cons d tail =>
    rw [escape_cons, escapeChar] at h
    split at h
    · obtain ⟨lead, more, hlead, -⟩ := Utf8.after_encodeChar d
      rw [hlead, List.flatMap_cons, escapeByte, List.cons_append, List.cons_append, List.cons.injEq] at h
      rw [← h.1] at hc
      exact absurd hc (by decide)
    · rw [List.singleton_append, List.cons.injEq] at h
      exact ⟨tail, by rw [h.1], h.2.symm⟩

/-- Where the set spares escapes, escaping changes nothing of what a text stands for. -/
theorem unescape_escape_sparing {set : EscapeSet} (hset : SparesEscapes set) (cs : List Char) :
    unescape (Utf8.encode (escape set cs)) = unescape (Utf8.encode cs) := by
  -- An escape takes three characters at once.
  induction hn : cs.length using Nat.strongRecOn generalizing cs with
  | _ n ih =>
    subst hn
    cases cs with
    | nil => rfl
    | cons c cs =>
      have hrest := ih cs.length (Nat.lt_succ_self _) cs rfl
      rw [escape_cons, Utf8.encode_append]
      by_cases hc : c = '%'
      · subst hc
        rw [escapeChar_plain hset.1 (by decide)]
        change unescape (0x25 :: Utf8.encode (escape set cs)) = unescape (0x25 :: Utf8.encode cs)
        by_cases hopens : opensEscape ('%' :: cs) = true
        · obtain ⟨a, b, rest, rfl, ha, hb⟩ := opensEscape_percent.1 hopens
          obtain ⟨byte, hbyte⟩ := unescape_opened ha hb
          have hplain : escape set (a :: b :: rest) = a :: b :: escape set rest := by
            rw [escape_cons, escape_cons, escapeChar_plain (hset.2 a ha) (digit_ascii ha),
              escapeChar_plain (hset.2 b hb) (digit_ascii hb)]
            rfl
          rw [hplain, hbyte, hbyte, ih rest.length (by simp only [List.length_cons]; omega) rest rfl]
        · have hunopened : opensEscape ('%' :: escape set cs) = false := by
            rw [← Bool.not_eq_true]
            intro hescape
            obtain ⟨a, b, rest, hab, ha, hb⟩ := opensEscape_percent.1 hescape
            obtain ⟨as, rfl, has⟩ := front_of_escape hab ha
            obtain ⟨bs, rfl, -⟩ := front_of_escape has.symm hb
            exact hopens (opensEscape_percent.2 ⟨a, b, bs, rfl, ha, hb⟩)
          rw [unescape_unopened hunopened, unescape_unopened (Bool.not_eq_true _ ▸ hopens), hrest]
      · rw [Utf8.encode_cons, unescape_encodeChar hc, ← hrest]
        unfold escapeChar
        split
        · exact unescape_escapeBytes _ _
        · rw [Utf8.encode_cons, List.append_assoc]
          exact unescape_encodeChar hc _

/-! ## What a text stands for -/

theorem standsFor_iff {cs ts : List Char} :
    StandsFor cs ts ↔ Utf8.decode (unescape (Utf8.encode cs)) = .ok ts := Utf8.decode_eq_ok_iff.symm

theorem StandsFor.unique {cs ts us : List Char} (h : StandsFor cs ts) (h' : StandsFor cs us) : ts = us :=
  Utf8.encode_injective (h.symm.trans h')

/-- A text without a percent sign stands for itself. -/
theorem standsFor_self {cs : List Char} (h : '%' ∉ cs) : StandsFor cs cs := by
  refine unescape_encode ?_
  induction cs with
  | nil => rfl
  | cons c cs ih =>
    rw [List.mem_cons, not_or] at h
    have hopens : opensEscape (c :: cs) = false := by
      rw [← Bool.not_eq_true]
      exact fun hopens => h.1 (opensEscape_cons hopens).symm
    rw [holdsEscape, hopens, ih h.2]
    rfl

variable {c : Char} {xs ys as bs ts : List Char}

/-- Such a character is one byte that no escape holds. -/
theorem Parts.byte (h : Parts c) : (UInt8.ofNat c.toNat).toNat < 0x80 ∧ UInt8.ofNat c.toNat ≠ 0x25 ∧
    hexValue? (UInt8.ofNat c.toNat).toNat = none ∧ Char.ofNat (UInt8.ofNat c.toNat).toNat = c := by
  obtain ⟨hascii, hne, hno⟩ := h
  rw [Utf8.toNat_ofNat_ascii hascii]
  refine ⟨hascii, fun hb => hne ?_, hno, Char.ofNat_toNat c⟩
  have hcode := congrArg UInt8.toNat hb
  rw [Utf8.toNat_ofNat_ascii hascii] at hcode
  rw [← Char.ofNat_toNat c, hcode]
  rfl

theorem unescape_parts (h : Parts c) (xs ys : List Char) :
    unescape (Utf8.encode (xs ++ c :: ys)) =
      unescape (Utf8.encode xs) ++ UInt8.ofNat c.toNat :: unescape (Utf8.encode ys) := by
  rw [Utf8.encode_append, Utf8.encode_ascii h.1, unescape_append h.byte.2.1 h.byte.2.2.1]

/-- What stands on either side of such a character is unescaped by itself. -/
theorem StandsFor.parts (hc : Parts c) (hx : StandsFor xs as) (hy : StandsFor ys bs) :
    StandsFor (xs ++ c :: ys) (as ++ c :: bs) := by
  rw [StandsFor, unescape_parts hc, hx, hy, Utf8.encode_append, Utf8.encode_ascii hc.1]

theorem StandsFor.cut (hc : Parts c) (h : StandsFor (xs ++ c :: ys) ts) :
    ∃ as bs, StandsFor xs as ∧ StandsFor ys bs ∧ ts = as ++ c :: bs := by
  obtain ⟨hascii, -, -, hchar⟩ := hc.byte
  rw [StandsFor, unescape_parts hc] at h
  obtain ⟨as, bs, has, hbs, rfl⟩ := Utf8.encode_cut hascii h
  exact ⟨as, bs, has, hbs, by rw [hchar]⟩

theorem sparesEscapes_pathSet : SparesEscapes pathSet := by
  refine ⟨by decide, fun c hc => ?_⟩
  have hascii := digit_ascii hc
  rw [← Char.ofNat_toNat c] at hc ⊢
  generalize c.toNat = n at hascii hc ⊢
  revert hc
  revert n
  decide

end Percent
end AccessSync
