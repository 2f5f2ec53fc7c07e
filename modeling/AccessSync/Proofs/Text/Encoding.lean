import AccessSync.Text.Form
import Mathlib.Tactic.Common
/-!
# Encoded text reads back

The bytes of a text are read back as that text (`Utf8.decode_encode`, `Utf8.decodeLossy_encode`),
escaped text unescapes to the bytes of the text (`Percent.unescape_escape`), and form-encoded pairs
decode to the same pairs in the same order (`Form.decode_encode`), whatever characters they hold.
-/

namespace AccessSync

namespace Utf8

/-- Not the number of a surrogate, and at most U+10FFFF. -/
theorem char_range (c : Char) : c.toNat < 0xD800 ∨ 0xDFFF < c.toNat ∧ c.toNat < 0x110000 := c.valid

theorem isTail_ofNat (n : Nat) : isTail (UInt8.ofNat (0x80 + n % 0x40)) = true := by
  simp only [isTail, UInt8.toNat_ofNat', Bool.and_eq_true, decide_eq_true_eq]
  omega

theorem low_ofNat (n : Nat) : low (UInt8.ofNat (0x80 + n % 0x40)) = n % 0x40 := by
  simp only [low, UInt8.toNat_ofNat']
  omega

/-- The lead byte of a character and the bytes behind it make up that character. -/
theorem after_encodeChar (c : Char) :
    ∃ lead tail, encodeChar c = lead :: tail ∧ ∀ rest, after lead (tail ++ rest) = (.char c, rest) := by
  have hc := char_range c
  by_cases h1 : c.toNat < 0x80
  · refine ⟨UInt8.ofNat c.toNat, [], by simp [encodeChar, h1], fun rest => ?_⟩
    have hl : (UInt8.ofNat c.toNat).toNat = c.toNat := by rw [UInt8.toNat_ofNat']; omega
    simp [after, hl, h1, Char.ofNat_toNat]
  by_cases h2 : c.toNat < 0x800
  · refine ⟨UInt8.ofNat (0xC0 + c.toNat / 0x40), [UInt8.ofNat (0x80 + c.toNat % 0x40)],
      by simp [encodeChar, h1, h2], fun rest => ?_⟩
    have hl : (UInt8.ofNat (0xC0 + c.toNat / 0x40)).toNat = 0xC0 + c.toNat / 0x40 := by
      rw [UInt8.toNat_ofNat']; omega
    have hn : (0xC0 + c.toNat / 0x40) % 0x20 * 0x40 + c.toNat % 0x40 = c.toNat := by omega
    simp only [after, hl, List.cons_append, List.nil_append, isTail_ofNat, low_ofNat, if_true, hn,
      Char.ofNat_toNat]
    rw [if_neg (by omega), if_neg (by simp; omega), if_pos (by omega)]
  by_cases h3 : c.toNat < 0x10000
  · refine ⟨UInt8.ofNat (0xE0 + c.toNat / 0x1000),
      [UInt8.ofNat (0x80 + c.toNat / 0x40 % 0x40), UInt8.ofNat (0x80 + c.toNat % 0x40)],
      by simp [encodeChar, h1, h2, h3], fun rest => ?_⟩
    have hl : (UInt8.ofNat (0xE0 + c.toNat / 0x1000)).toNat = 0xE0 + c.toNat / 0x1000 := by
      rw [UInt8.toNat_ofNat']; omega
    have hb : (UInt8.ofNat (0x80 + c.toNat / 0x40 % 0x40)).toNat = 0x80 + c.toNat / 0x40 % 0x40 := by
      rw [UInt8.toNat_ofNat']; omega
    have hn : (0xE0 + c.toNat / 0x1000) % 0x10 * 0x1000 + c.toNat / 0x40 % 0x40 * 0x40 +
        c.toNat % 0x40 = c.toNat := by omega
    -- the second byte stays clear of overlong forms and of surrogates
    have hs : ¬ (0x80 + c.toNat / 0x40 % 0x40 < (second3 (0xE0 + c.toNat / 0x1000)).1 ∨
        (second3 (0xE0 + c.toNat / 0x1000)).2 < 0x80 + c.toNat / 0x40 % 0x40) := by
      unfold second3
      split <;> (try split) <;> simp only [] <;> omega
    simp only [after, hl, hb, List.cons_append, List.nil_append, isTail_ofNat, low_ofNat, if_true, hn,
      Char.ofNat_toNat]
    rw [if_neg (by omega), if_neg (by simp; omega), if_neg (by omega), if_pos (by omega),
      if_neg (by simpa using hs)]
  · refine ⟨UInt8.ofNat (0xF0 + c.toNat / 0x40000),
      [UInt8.ofNat (0x80 + c.toNat / 0x1000 % 0x40), UInt8.ofNat (0x80 + c.toNat / 0x40 % 0x40),
        UInt8.ofNat (0x80 + c.toNat % 0x40)],
      by simp [encodeChar, h1, h2, h3], fun rest => ?_⟩
    have hl : (UInt8.ofNat (0xF0 + c.toNat / 0x40000)).toNat = 0xF0 + c.toNat / 0x40000 := by
      rw [UInt8.toNat_ofNat']; omega
    have hb : (UInt8.ofNat (0x80 + c.toNat / 0x1000 % 0x40)).toNat =
        0x80 + c.toNat / 0x1000 % 0x40 := by rw [UInt8.toNat_ofNat']; omega
    have hn : (0xF0 + c.toNat / 0x40000) % 0x08 * 0x40000 + c.toNat / 0x1000 % 0x40 * 0x1000 +
        c.toNat / 0x40 % 0x40 * 0x40 + c.toNat % 0x40 = c.toNat := by omega
    have hs : ¬ (0x80 + c.toNat / 0x1000 % 0x40 < (second4 (0xF0 + c.toNat / 0x40000)).1 ∨
        (second4 (0xF0 + c.toNat / 0x40000)).2 < 0x80 + c.toNat / 0x1000 % 0x40) := by
      unfold second4
      split <;> (try split) <;> simp only [] <;> omega
    simp only [after, hl, hb, List.cons_append, List.nil_append, isTail_ofNat, low_ofNat, if_true, hn,
      Char.ofNat_toNat, Bool.not_true]
    rw [if_neg (by omega), if_neg (by simp; omega), if_neg (by omega), if_neg (by omega),
      if_neg (by simpa using hs), if_neg (by simp)]

theorem fronts_encode (cs : List Char) : fronts (encode cs) = cs.map .char := by
  induction cs with
  | nil => simp [encode, fronts]
  | cons c cs ih =>
    obtain ⟨lead, tail, he, ha⟩ := after_encodeChar c
    simp only [encode, List.flatMap_cons, he, List.cons_append, List.map_cons] at ih ⊢
    rw [fronts, ha, ih]

/-- The bytes of a text, read strictly. -/
theorem decode_encode (cs : List Char) : decode (encode cs) = .ok cs := by
  rw [decode, fronts_encode]
  generalize 0 = index
  induction cs generalizing index with
  | nil => rfl
  | cons c cs ih =>
    rw [List.map_cons, charsOf, ih]
    rfl

/-- The marks of a text are its characters. -/
theorem symbols_encode (cs : List Char) : symbols (encode cs) = cs.map some := by
  rw [symbols, fronts_encode, List.map_map]
  rfl

/-- The bytes of a text, read leniently. -/
theorem decodeLossy_encode (cs : List Char) : decodeLossy (encode cs) = cs := by
  rw [decodeLossy, symbols_encode, List.map_map]
  exact List.map_id cs

end Utf8

namespace Percent

theorem encodeChar_ascii {c : Char} (h : c.toNat < 0x80) :
    Utf8.encodeChar c = [UInt8.ofNat c.toNat] := by
  simp [Utf8.encodeChar, h]

theorem hexDigit_ascii : ∀ n < 16, (hexDigit n).toNat < 0x80 := by decide

theorem hexValue?_hexDigit : ∀ n < 16, hexValue? (hexDigit n).toNat = some n := by decide

theorem hexDigit_ne_plus : ∀ n < 16, hexDigit n ≠ '+' := by decide

/-- A byte other than the percent sign stands for itself. -/
theorem unescape_cons {b : UInt8} (h : b ≠ 0x25) (rest : List UInt8) :
    unescape (b :: rest) = b :: unescape rest := by
  match rest with
  | [] => rfl
  | [_] => rfl
  | _ :: _ :: _ => rw [unescape, if_neg h]

theorem unescape_escapeByte (b : UInt8) (rest : List UInt8) :
    unescape (Utf8.encode (escapeByte b) ++ rest) = b :: unescape rest := by
  have hb : b.toNat < 256 := UInt8.toNat_lt_size b
  have hhigh : b.toNat / 16 < 16 := by omega
  have hlow : b.toNat % 16 < 16 := by omega
  have hbytes : Utf8.encode (escapeByte b) =
      [0x25, UInt8.ofNat (hexDigit (b.toNat / 16)).toNat, UInt8.ofNat (hexDigit (b.toNat % 16)).toNat] := by
    simp only [Utf8.encode, escapeByte, List.flatMap_cons, List.flatMap_nil,
      encodeChar_ascii (hexDigit_ascii _ hhigh), encodeChar_ascii (hexDigit_ascii _ hlow)]
    rfl
  have hdigit : ∀ n < 16, (UInt8.ofNat (hexDigit n).toNat).toNat = (hexDigit n).toNat := by
    intro n hn
    have := hexDigit_ascii n hn
    rw [UInt8.toNat_ofNat']
    omega
  have hsum : b.toNat / 16 * 16 + b.toNat % 16 = b.toNat := by omega
  rw [hbytes]
  simp only [List.cons_append, List.nil_append]
  rw [unescape, if_pos rfl, hdigit _ hhigh, hdigit _ hlow, hexValue?_hexDigit _ hhigh,
    hexValue?_hexDigit _ hlow]
  simp only [hsum, UInt8.ofNat_toNat]

theorem unescape_escapeBytes (bytes rest : List UInt8) :
    unescape (Utf8.encode (bytes.flatMap escapeByte) ++ rest) = bytes ++ unescape rest := by
  induction bytes with
  | nil => rfl
  | cons b bytes ih =>
    have happ : Utf8.encode ((b :: bytes).flatMap escapeByte) =
        Utf8.encode (escapeByte b) ++ Utf8.encode (bytes.flatMap escapeByte) := by
      simp [Utf8.encode]
    rw [happ, List.append_assoc, unescape_escapeByte, ih, List.cons_append]

theorem unescape_escapeChar {set : EscapeSet} (hset : set '%' = true) (c : Char) (rest : List UInt8) :
    unescape (Utf8.encode (escapeChar set c) ++ rest) = Utf8.encodeChar c ++ unescape rest := by
  unfold escapeChar
  split
  · exact unescape_escapeBytes _ rest
  · rename_i h
    simp only [isAscii, Bool.or_eq_true, Bool.not_eq_true', decide_eq_false_iff_not, not_or,
      not_not] at h
    obtain ⟨hc, hascii⟩ := h
    have hne : UInt8.ofNat c.toNat ≠ 0x25 := by
      intro he
      have he := congrArg UInt8.toNat he
      rw [UInt8.toNat_ofNat', Nat.mod_eq_of_lt (by omega)] at he
      have : c = '%' := by
        rw [← Char.ofNat_toNat c, he]
        rfl
      exact hc (this ▸ hset)
    simp only [Utf8.encode, List.flatMap_cons, List.flatMap_nil, encodeChar_ascii hascii,
      List.append_nil, List.cons_append, List.nil_append]
    exact unescape_cons hne rest

/-- Escaped text stands for the bytes of the text, if percent signs are escaped too. -/
theorem unescape_escape {set : EscapeSet} (hset : set '%' = true) (cs : List Char) :
    unescape (Utf8.encode (escape set cs)) = Utf8.encode cs := by
  induction cs with
  | nil => rfl
  | cons c cs ih =>
    have happ : Utf8.encode (escape set (c :: cs)) =
        Utf8.encode (escapeChar set c) ++ Utf8.encode (escape set cs) := by
      simp [Utf8.encode, escape]
    rw [happ, unescape_escapeChar hset, ih]
    simp [Utf8.encode]

/-! ### What escaped text is made of -/

theorem mem_escapeBytes {x : Char} {bytes : List UInt8} (h : x ∈ bytes.flatMap escapeByte) :
    x = '%' ∨ ∃ n < 16, x = hexDigit n := by
  obtain ⟨b, -, hx⟩ := List.mem_flatMap.1 h
  have hb : b.toNat < 256 := UInt8.toNat_lt_size b
  simp only [escapeByte, List.mem_cons, List.not_mem_nil, or_false] at hx
  rcases hx with rfl | rfl | rfl
  · exact .inl rfl
  · exact .inr ⟨b.toNat / 16, by omega, rfl⟩
  · exact .inr ⟨b.toNat % 16, by omega, rfl⟩

/-- An escaped text is made of escapes and of the characters that are not escaped. -/
theorem mem_escape {set : EscapeSet} {c : Char} {cs : List Char} (h : c ∈ escape set cs) :
    c = '%' ∨ (∃ n < 16, c = hexDigit n) ∨ c ∈ cs ∧ set c = false := by
  obtain ⟨d, hd, hc⟩ := List.mem_flatMap.1 h
  unfold escapeChar at hc
  split_ifs at hc with hset
  · exact (mem_escapeBytes hc).imp_right .inl
  · obtain rfl := List.mem_singleton.1 hc
    rw [Bool.or_eq_true, not_or, Bool.not_eq_true] at hset
    exact .inr (.inr ⟨hd, hset.1⟩)

/-- The character is escaped, and no escape is made of it. -/
def Hides (set : EscapeSet) (c : Char) : Prop := set c = true ∧ c ≠ '%' ∧ ∀ n < 16, hexDigit n ≠ c

instance (set : EscapeSet) (c : Char) : Decidable (Hides set c) := inferInstanceAs (Decidable (_ ∧ _ ∧ _))

theorem Hides.notMem {set : EscapeSet} {c : Char} (h : Hides set c) (cs : List Char) : c ∉ escape set cs := by
  obtain ⟨hset, hpercent, hdigit⟩ := h
  intro hmem
  rcases mem_escape hmem with rfl | ⟨n, hn, rfl⟩ | ⟨-, hplain⟩
  · exact hpercent rfl
  · exact hdigit n hn rfl
  · rw [hset] at hplain
    cases hplain

end Percent

namespace Form

/-- What is escaped in a form, spaces apart. -/
def escapes : Percent.EscapeSet := fun c => !isPlain c && c ≠ ' '

/-- With its plus signs read as spaces an encoded text is an escaped one. -/
theorem spaced_encodeText (cs : List Char) :
    ((encodeText cs).map fun c => if c = '+' then ' ' else c) = Percent.escape escapes cs := by
  induction cs with
  | nil => rfl
  | cons c cs ih =>
    simp only [encodeText, Percent.escape, List.flatMap_cons, List.map_append] at ih ⊢
    rw [ih]
    congr 1
    by_cases hc : c = ' '
    · subst hc
      rfl
    · have hset : escapes c = !isPlain c := by simp [escapes, hc]
      rw [encodeChar, if_neg hc]
      simp only [Percent.escapeChar, hset]
      split
      · refine (List.map_congr_left fun x hx => ?_).trans (List.map_id _)
        rcases Percent.mem_escapeBytes hx with rfl | ⟨n, hn, rfl⟩
        · rfl
        · exact if_neg (Percent.hexDigit_ne_plus n hn)
      · rename_i h
        have : c ≠ '+' := fun he => h (by subst he; rfl)
        simp [this]

/-- Plus signs apart, what is escaped in a form does not stand in an encoded text. -/
theorem notMem_encodeText {c : Char} (h : Percent.Hides escapes c) (hplus : c ≠ '+') (cs : List Char) :
    c ∉ encodeText cs := by
  intro hmem
  apply h.notMem cs
  rw [← spaced_encodeText]
  exact List.mem_map.2 ⟨c, hmem, if_neg hplus⟩

theorem decodeText_encodeText (cs : List Char) : decodeText (encodeText cs) = String.ofList cs := by
  simp only [decodeText, spaced_encodeText]
  rw [Percent.unescape_escape rfl, Utf8.decodeLossy_encode]

theorem notMem_encodePair {c : Char} (h : Percent.Hides escapes c) (hsign : c ≠ '+' ∧ c ≠ '=') (pair : String × String) :
    c ∉ encodePair pair := by
  have htext := notMem_encodeText h hsign.1
  intro hmem
  rcases List.mem_append.1 hmem with hmem | hmem
  · exact htext _ hmem
  · rcases List.mem_cons.1 hmem with heq | hmem
    · exact hsign.2 heq
    · exact htext _ hmem

theorem decodePair_encodePair (pair : String × String) : decodePair (encodePair pair) = pair := by
  have hcut : Text.cut? '=' (encodePair pair) =
      some (encodeText pair.1.toList, encodeText pair.2.toList) :=
    Text.cut?_eq_some_iff.2 ⟨rfl, notMem_encodeText (by decide) (by decide) _⟩
  simp only [decodePair, hcut, decodeText_encodeText, String.ofList_toList]

end Form

namespace Text

/-- A text without separators is its own only piece. -/
theorem splitOn_eq_singleton {sep : Char} {cs : List Char} (h : sep ∉ cs) : splitOn sep cs = [cs] := by
  induction cs with
  | nil => rfl
  | cons c cs ih =>
    have hc : c ≠ sep := fun he => h (by simp [he])
    rw [splitOn, if_neg hc, ih fun hm => h (List.mem_cons_of_mem c hm)]

theorem splitOn_append {sep : Char} {cs rest : List Char} (h : sep ∉ cs) :
    splitOn sep (cs ++ sep :: rest) = cs :: splitOn sep rest := by
  induction cs with
  | nil => simp [splitOn]
  | cons c cs ih =>
    have hc : c ≠ sep := fun he => h (by simp [he])
    rw [List.cons_append, splitOn, if_neg hc, ih fun hm => h (List.mem_cons_of_mem c hm)]

/-- Pieces without separators that are joined are the pieces of a split. -/
theorem splitOn_join {sep : Char} {pieces : List (List Char)} (hne : pieces ≠ [])
    (h : ∀ p ∈ pieces, sep ∉ p) : splitOn sep (join [sep] pieces) = pieces := by
  induction pieces with
  | nil => exact absurd rfl hne
  | cons p ps ih =>
    have hp := h p List.mem_cons_self
    cases ps with
    | nil => exact splitOn_eq_singleton hp
    | cons q qs =>
      rw [join, List.append_assoc, List.singleton_append, splitOn_append hp,
        ih (by simp) fun r hr => h r (List.mem_cons_of_mem p hr)]

end Text

namespace Form

/-- Pairs are read back in their order, whatever their names and values hold. -/
theorem decode_encode (pairs : List (String × String)) : decode (encode pairs) = pairs := by
  cases pairs with
  | nil => rfl
  | cons pair pairs =>
    have hsep : ∀ p ∈ (pair :: pairs).map encodePair, '&' ∉ p := by
      intro p hp
      obtain ⟨pair, -, rfl⟩ := List.mem_map.1 hp
      exact notMem_encodePair (by decide) (by decide) pair
    have hnil : ∀ p ∈ (pair :: pairs).map encodePair, decide (p ≠ []) = true := by
      intro p hp
      obtain ⟨pair, -, rfl⟩ := List.mem_map.1 hp
      simp [encodePair]
    rw [decode, encode, Text.splitOn_join (by simp) hsep, List.filter_eq_self.2 hnil, List.map_map]
    exact (List.map_congr_left fun p _ => decodePair_encodePair p).trans (List.map_id _)

end Form

end AccessSync
