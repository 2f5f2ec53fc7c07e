import AccessSync.Json.Parser
import AccessSync.Json.Printer
import AccessSync.Proofs.Text.Integer
/-!
# The tokens of a written value

`tokens` are the tokens of a value, and the text that is written for a value is cut into them
(`lex_print`). What follows a value in a text is its end, a comma or a closing bracket (`EndsValue`);
that keeps a number from going on.
-/

namespace AccessSync.Json

/-! ## Strings -/

theorem hexValue?_lowerHexDigit : ∀ n < 16, Percent.hexValue? (lowerHexDigit n).toNat = some n := by decide

/-- A character that is written by its number is read by it. -/
theorem hex4?_control {n : Nat} (h : n < 0x20) :
    hex4? (some '0') (some '0') (some (lowerHexDigit (n / 16))) (some (lowerHexDigit (n % 16))) = some n := by
  have hzero : Percent.hexValue? '0'.toNat = some 0 := by decide
  have hvalue : ((0 * 16 + 0) * 16 + n / 16) * 16 + n % 16 = n := by omega
  simp only [hex4?, Option.bind_eq_bind, Option.bind_some, hzero,
    hexValue?_lowerHexDigit (n / 16) (by omega), hexValue?_lowerHexDigit (n % 16) (by omega), hvalue]
  rfl

theorem textOf_control {n : Nat} (h : n < 0x20) (ps : List Piece) :
    textOf (.unit n :: ps) = (textOf ps).map (Char.ofNat n :: ·) := by
  have hhigh : isHigh n = false := by simp only [isHigh, Bool.and_eq_false_iff, decide_eq_false_iff_not]; omega
  have hlow : isLow n = false := by simp only [isLow, Bool.and_eq_false_iff, decide_eq_false_iff_not]; omega
  cases ps with
  | nil => simp [textOf, hhigh, hlow]
  | cons p ps => cases p <;> simp [textOf, hhigh, hlow]

/-- What is written for a character is scanned as one piece, which stands for the character. -/
theorem scanString_escapeChar (c : Char) :
    ∃ p, (∀ rest, scanString ((escapeChar c).map some ++ rest) =
        (scanString rest).map fun (ps, r) => (p :: ps, r)) ∧
      ∀ ps, textOf (p :: ps) = (textOf ps).map (c :: ·) := by
  unfold escapeChar
  split_ifs with hquote hslash hplain hb hf hn hr ht
  · exact ⟨.char c, fun rest => by simp [scanString, shortEscape?, hquote], fun _ => rfl⟩
  · exact ⟨.char c, fun rest => by simp [scanString, shortEscape?, hslash], fun _ => rfl⟩
  · refine ⟨.char c, fun rest => ?_, fun _ => rfl⟩
    have hshown : ¬ (c = '\\' ∨ c.toNat < 0x20) := fun h => h.elim hslash (by omega)
    simp only [List.map_cons, List.map_nil, List.cons_append, List.nil_append]
    rw [scanString, if_neg hshown]
    all_goals simp [hquote, hslash]
  · exact ⟨.char c, fun rest => by simp [scanString, shortEscape?, hb], fun _ => rfl⟩
  · exact ⟨.char c, fun rest => by simp [scanString, shortEscape?, hf], fun _ => rfl⟩
  · exact ⟨.char c, fun rest => by simp [scanString, shortEscape?, hn], fun _ => rfl⟩
  · exact ⟨.char c, fun rest => by simp [scanString, shortEscape?, hr], fun _ => rfl⟩
  · exact ⟨.char c, fun rest => by simp [scanString, shortEscape?, ht], fun _ => rfl⟩
  · have hcontrol : c.toNat < 0x20 := by omega
    refine ⟨.unit c.toNat, fun rest => ?_, fun ps => ?_⟩
    · simp [scanString, hex4?_control hcontrol]
    · rw [textOf_control hcontrol, Char.ofNat_toNat]

/-- A string is scanned up to its closing quote, and its pieces are its text. -/
theorem scanString_quoted (cs : List Char) (rest : List Symbol) :
    ∃ ps, scanString ((cs.flatMap escapeChar).map some ++ some '"' :: rest) = some (ps, rest) ∧
      textOf ps = some cs := by
  induction cs with
  | nil => exact ⟨[], by simp [scanString], rfl⟩
  | cons c cs ih =>
    obtain ⟨p, hscan, htext⟩ := scanString_escapeChar c
    obtain ⟨ps, hps, hcs⟩ := ih
    refine ⟨p :: ps, ?_, ?_⟩
    · rw [List.flatMap_cons, List.map_append, List.append_assoc, hscan, hps]
      rfl
    · rw [htext, hcs]
      rfl

/-! ## Numbers -/

/-- A value ends before these symbols. -/
def EndsValue : List Symbol → Prop
  | [] => True
  | s :: _ => s = some ',' ∨ s = some ']' ∨ s = some '}'

section Numbers
variable {rest : List Symbol}

theorem scanDigits_end (h : EndsValue rest) : scanDigits rest = ([], rest) := by
  cases rest with
  | nil => rfl
  | cons s rest => rcases h with rfl | rfl | rfl <;> rfl

theorem scanDigits_map {ds : List Nat} (hds : ∀ d ∈ ds, d < 10) (h : EndsValue rest) :
    scanDigits ((ds.map Text.digit).map some ++ rest) = (ds, rest) := by
  induction ds with
  | nil => exact scanDigits_end h
  | cons d ds ih =>
    rw [List.map_cons, List.map_cons, List.cons_append, scanDigits, Text.digit?_digit (hds d (by simp))]
    dsimp only
    rw [ih fun e he => hds e (List.mem_cons_of_mem d he)]

theorem digit_ne_zero {d : Nat} (hd : d < 10) (hne : d ≠ 0) : Text.digit d ≠ '0' := by
  interval_cases d <;> first | exact absurd rfl hne | decide

theorem scanWhole_decimal (n : Nat) (h : EndsValue rest) :
    scanWhole ((Text.decimal n).map some ++ rest) = some (Text.digits n, rest) := by
  have hlt : ∀ d ∈ Text.digits n, d < 10 := fun d hd => Text.lt_of_mem_digits hd
  rw [Text.decimal_eq]
  rcases Text.digits_cases n with ⟨-, hzero⟩ | ⟨d, ds, hds, hd⟩
  · rw [hzero]
    rfl
  · rw [hds] at hlt ⊢
    have hscan := scanDigits_map hlt h
    have hne := digit_ne_zero (hlt d (by simp)) hd
    rw [List.map_cons, List.map_cons, List.cons_append] at hscan ⊢
    unfold scanWhole
    split
    · rename_i heq
      exact absurd (Option.some.inj (List.cons.inj heq).1) hne
    · rw [scanSomeDigits, hscan]

theorem scanUnsigned_decimal (negative : Bool) (n : Nat) (h : EndsValue rest) :
    scanUnsigned negative ((Text.decimal n).map some ++ rest) =
      some (⟨negative, Text.digits n, [], none⟩, rest) := by
  have hfraction : scanFraction rest = some ([], rest) := by
    cases rest with
    | nil => rfl
    | cons s rest => rcases h with rfl | rfl | rfl <;> rfl
  have hexponent : scanExponent rest = some (none, rest) := by
    cases rest with
    | nil => rfl
    | cons s rest => rcases h with rfl | rfl | rfl <;> rfl
  simp only [scanUnsigned, scanWhole_decimal n h, hfraction, hexponent, Option.bind_eq_bind,
    Option.bind_some]
  rfl

theorem takeDigits_append {acc v : Nat} {ds : List Nat} (h : takeDigits acc ds = (v, [])) (es : List Nat) :
    takeDigits acc (ds ++ es) = takeDigits v es := by
  fun_induction takeDigits acc ds with
  | case1 acc =>
    cases h
    rfl
  | case2 => cases h
  | case3 acc d ds hd ih => rw [List.cons_append, takeDigits, if_neg hd, ih h]

theorem takeDigits_digits {n : Nat} (h : n ≤ greatest64) : takeDigits 0 (Text.digits n) = (n, []) := by
  fun_induction Text.digits n with
  | case1 n _ => rw [takeDigits, if_neg (by omega), takeDigits, Nat.zero_mul, Nat.zero_add]
  | case2 n _ ih =>
    have hlast : n / 10 * 10 + n % 10 = n := by omega
    rw [takeDigits_append (ih (by omega)), takeDigits, hlast, if_neg (by omega), takeDigits]

/-- The number fits into 64 bits, signed or unsigned. -/
def FitsInto64 (n : Int) : Prop := -(Nat.pow 2 63) ≤ n ∧ n ≤ greatest64

instance (n : Int) : Decidable (FitsInto64 n) := inferInstanceAs (Decidable (_ ∧ _))

theorem text_natCast (n : Nat) : (Number.integer n).text = Text.decimal n := String.toList_ofList

theorem text_negSucc (n : Nat) : (Number.integer (.negSucc n)).text = '-' :: Text.decimal (n + 1) :=
  String.toList_ofList

/-- An integer is scanned as what it was written for. -/
theorem scanNumber_text {n : Int} (hn : FitsInto64 n) (h : EndsValue rest) :
    ∃ x, scanNumber ((Number.integer n).text.map some ++ rest) = some (x, rest) ∧
      x.number? = some (.integer n) := by
  obtain ⟨hlow, hhigh⟩ := hn
  cases n with
  | ofNat n =>
    have hdigits : takeDigits 0 (Text.digits n) = (n, []) := takeDigits_digits (by simpa using hhigh)
    refine ⟨⟨false, Text.digits n, [], none⟩, ?_, ?_⟩
    · obtain ⟨d, cs, hd, hcons⟩ := Text.decimal_cons n
      rw [← scanUnsigned_decimal false n h, Int.ofNat_eq_natCast, text_natCast, hcons]
      unfold scanNumber
      split
      · rename_i hminus
        exact absurd (Option.some.inj (List.cons.inj hminus).1) (Text.digit_ne hd (by decide))
      · rfl
    · simp [Numeral.number?, Numeral.integer?, hdigits]
  | negSucc n =>
    have hle : n + 1 ≤ Nat.pow 2 63 := by omega
    have hdigits : takeDigits 0 (Text.digits (n + 1)) = (n + 1, []) := by
      refine takeDigits_digits (hle.trans ?_)
      decide
    refine ⟨⟨true, Text.digits (n + 1), [], none⟩, ?_, ?_⟩
    · rw [← scanUnsigned_decimal true (n + 1) h, text_negSucc]
      rfl
    · have hrange : ¬ (n + 1 = 0 ∨ Nat.pow 2 63 < n + 1) := by omega
      have hvalue : -((n + 1 : Nat) : Int) = .negSucc n := rfl
      simp only [Numeral.number?, Numeral.integer?, hdigits, if_neg hrange, hvalue]
      rfl

end Numbers

/-! ## Whole values -/

mutual
/-- The tokens of a value. -/
def tokens : Json → List Token
  | .null | .unreadable => [.null]
  | .bool b => [.bool b]
  | .number n => [.number (some n)]
  | .string s => [.string (some s)]
  | .array items => .openArray :: (itemTokens items ++ [.closeArray])
  | .object fields => .openObject :: (fieldTokens fields ++ [.closeObject])

def itemTokens : List Json → List Token
  | [] => []
  | v :: vs => tokens v ++ moreItems vs

def fieldTokens : List (String × Json) → List Token
  | [] => []
  | (name, v) :: fs => .string (some name) :: .colon :: (tokens v ++ moreFields fs)

/-- The tokens of items behind others. -/
def moreItems : List Json → List Token
  | [] => []
  | v :: vs => .comma :: (tokens v ++ moreItems vs)

/-- The tokens of fields behind others. -/
def moreFields : List (String × Json) → List Token
  | [] => []
  | (name, v) :: fs => .comma :: .string (some name) :: .colon :: (tokens v ++ moreFields fs)
end

mutual
/-- The value is all in its text: no number in it but integers of 64 bits, and nothing that cannot be
read. -/
def isPlain : Json → Bool
  | .array items => allPlain items
  | .object fields => fieldsPlain fields
  | .number (.integer n) => FitsInto64 n
  | .number (.real _) => false
  | .unreadable => false
  | _ => true

def allPlain : List Json → Bool
  | [] => true
  | v :: vs => isPlain v && allPlain vs

def fieldsPlain : List (String × Json) → Bool
  | [] => true
  | (_, v) :: fs => isPlain v && fieldsPlain fs
end

section Lexing
variable {rest : List Symbol}

/-- A text that begins with no blank is cut behind its first token. -/
theorem lex_next {s : Symbol} {cs : List Symbol} {t : Token} (hspace : isSpace s = false)
    (h : next? (s :: cs) = some (t, rest)) : lex (s :: cs) = (lex rest).map (t :: ·) := by
  rw [lex, if_neg (by simp [hspace])]
  split
  · rename_i hnone
    rw [h] at hnone
    cases hnone
  · rename_i t' rest' hsome
    rw [h] at hsome
    cases hsome
    rfl

theorem lex_quote (s : String) (rest : List Symbol) :
    lex ((quote s).map some ++ rest) = (lex rest).map (.string (some s) :: ·) := by
  obtain ⟨ps, hscan, htext⟩ := scanString_quoted s.toList rest
  have hnext : next? (some '"' :: ((s.toList.flatMap escapeChar).map some ++ some '"' :: rest)) =
      some (.string (some s), rest) := by
    rw [next?, hscan, Option.map_some]
    simp only [htext, Option.map_some, String.ofList_toList]
  simp only [quote, List.map_cons, List.map_append, List.map_nil, List.cons_append, List.append_assoc,
    List.nil_append]
  exact lex_next (by decide) hnext

theorem lex_number {n : Int} (hn : FitsInto64 n) (h : EndsValue rest) :
    lex ((Number.integer n).text.map some ++ rest) =
      (lex rest).map (.number (some (.integer n)) :: ·) := by
  obtain ⟨x, hscan, hvalue⟩ := scanNumber_text hn h
  have hlex : ∀ c cs, (Number.integer n).text = c :: cs → isSpace (some c) = false →
      (∀ cs, next? (some c :: cs) = (scanNumber (some c :: cs)).map fun x => (.number x.1.number?, x.2)) →
      lex ((Number.integer n).text.map some ++ rest) =
        (lex rest).map (.number (some (.integer n)) :: ·) := by
    intro c cs hcons hspace hnext
    rw [hcons, List.map_cons, List.cons_append] at hscan ⊢
    refine lex_next hspace ?_
    rw [hnext, hscan, Option.map_some]
    simp only [hvalue]
  cases n with
  | ofNat n =>
    obtain ⟨d, cs, hd, hcons⟩ := Text.decimal_cons n
    refine hlex (Text.digit d) cs ((text_natCast n).trans hcons) ?_ ?_
    · interval_cases d <;> decide
    · intro cs
      interval_cases d <;> rfl
  | negSucc n => exact hlex '-' (Text.decimal (n + 1)) (text_negSucc n) (by decide) fun _ => rfl

/-- What stands between brackets is cut by itself. -/
theorem lex_between {opening closing : Char} {o c : Token} {body : List Char} {ts : List Token}
    (hopen : ∀ cs, lex (some opening :: cs) = (lex cs).map (o :: ·))
    (hclose : ∀ cs, lex (some closing :: cs) = (lex cs).map (c :: ·))
    (hbody : ∀ cs, lex (body.map some ++ some closing :: cs) = (lex (some closing :: cs)).map (ts ++ ·)) :
    lex ((opening :: (body ++ [closing])).map some ++ rest) =
      (lex rest).map (o :: (ts ++ [c]) ++ ·) := by
  simp only [List.map_cons, List.map_append, List.map_nil, List.cons_append, List.append_assoc,
    List.nil_append, hopen, hbody, hclose, Option.map_map]
  rfl

theorem lex_comma (rest : List Symbol) : lex (some ',' :: rest) = (lex rest).map (.comma :: ·) :=
  lex_next (by decide) rfl

theorem lex_colon (rest : List Symbol) : lex (some ':' :: rest) = (lex rest).map (.colon :: ·) :=
  lex_next (by decide) rfl

theorem endsValue_comma (rest : List Symbol) : EndsValue (some ',' :: rest) := .inl rfl

theorem endsValue_closeArray (rest : List Symbol) : EndsValue (some ']' :: rest) := .inr (.inl rfl)

theorem endsValue_closeObject (rest : List Symbol) : EndsValue (some '}' :: rest) := .inr (.inr rfl)

mutual
/-- The text of a value is cut into the tokens of the value. -/
theorem lex_print (v : Json) (hv : v.isPlain = true) (rest : List Symbol) (h : EndsValue rest) :
    lex (v.print.map some ++ rest) = (lex rest).map (v.tokens ++ ·) := by
  match v with
  | .null => exact lex_next (by decide) rfl
  | .unreadable => cases hv
  | .bool true => exact lex_next (by decide) rfl
  | .bool false => exact lex_next (by decide) rfl
  | .number (.real _) => cases hv
  | .number (.integer n) => exact lex_number (of_decide_eq_true hv) h
  | .string s => exact lex_quote s rest
  | .array items =>
    refine lex_between (fun _ => lex_next (by decide) rfl) (fun _ => lex_next (by decide) rfl) ?_
    intro cs
    exact lex_printItems items hv _ (endsValue_closeArray cs)
  | .object fields =>
    refine lex_between (fun _ => lex_next (by decide) rfl) (fun _ => lex_next (by decide) rfl) ?_
    intro cs
    exact lex_printFields fields hv _ (endsValue_closeObject cs)

theorem lex_printItems (items : List Json) (hitems : allPlain items = true) (rest : List Symbol)
    (h : EndsValue rest) :
    lex ((printItems items).map some ++ rest) = (lex rest).map (itemTokens items ++ ·) := by
  match items with
  | [] => simp [printItems, itemTokens]
  | [v] =>
    have hv := (Bool.and_eq_true_iff.1 hitems).1
    simp only [printItems, itemTokens, moreItems, List.append_nil]
    exact lex_print v hv rest h
  | v :: w :: vs =>
    obtain ⟨hv, hvs⟩ := Bool.and_eq_true_iff.1 hitems
    have hothers := lex_printItems (w :: vs) hvs rest h
    have hfirst := lex_print v hv _ (endsValue_comma ((printItems (w :: vs)).map some ++ rest))
    simp only [printItems, List.map_append, List.map_cons, List.cons_append, List.append_assoc, hfirst,
      lex_comma, hothers, Option.map_map]
    congr 1
    funext ts
    simp [itemTokens, moreItems]

theorem lex_printFields (fields : List (String × Json)) (hfields : fieldsPlain fields = true)
    (rest : List Symbol) (h : EndsValue rest) :
    lex ((printFields fields).map some ++ rest) = (lex rest).map (fieldTokens fields ++ ·) := by
  match fields with
  | [] => simp [printFields, fieldTokens]
  | [(name, v)] =>
    have hv := (Bool.and_eq_true_iff.1 hfields).1
    have hvalue := lex_print v hv rest h
    simp only [printFields, List.map_append, List.map_cons, List.cons_append, List.append_assoc, lex_quote,
      lex_colon, hvalue, Option.map_map, fieldTokens, moreFields, List.append_nil]
    rfl
  | (name, v) :: f :: fs =>
    obtain ⟨hv, hfs⟩ := Bool.and_eq_true_iff.1 hfields
    have hothers := lex_printFields (f :: fs) hfs rest h
    have hfirst := lex_print v hv _ (endsValue_comma ((printFields (f :: fs)).map some ++ rest))
    simp only [printFields, List.map_append, List.map_cons, List.cons_append, List.append_assoc, lex_quote,
      lex_colon, hfirst, lex_comma, hothers, Option.map_map]
    congr 1
    funext ts
    simp [fieldTokens, moreFields]
end

end Lexing

end AccessSync.Json
