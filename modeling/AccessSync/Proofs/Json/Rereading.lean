import AccessSync.Proofs.Json.Tokens
import AccessSync.Proofs.Text.Encoding
import AccessSync.Json.Record
import AccessSync.Transport
/-!
# Written values are read again

The reader takes the tokens of a value as one value, whatever is open around it (`readValue_tokens`), so
the text of a plain value is read as that value: `ofText_toText`. So is a message body of that text, if the
value is an object: `readBody_object`.
-/

namespace AccessSync.Json

/-- An object all of whose names can be read has these fields. -/
theorem ofFields_named (fields : List (String × Json)) :
    ofFields (fields.map fun f => (some f.1, f.2)) = .object fields := by
  have hnamed : (fields.map fun f => ((some f.1 : Name), f.2)).mapM
      (fun (name, v) => name.map fun n => (n, v)) = some fields := by
    induction fields with
    | nil => rfl
    | cons f fs ih => rw [List.map_cons, List.mapM_cons, ih]; rfl
  rw [ofFields, hnamed]

/-- No value begins with a closing bracket. -/
theorem tokens_cons (v : Json) : ∃ t ts, v.tokens = t :: ts ∧ t ≠ .closeArray := by
  match v with
  | .null | .unreadable | .bool _ | .number _ | .string _ | .array _ | .object _ =>
    exact ⟨_, _, by rw [tokens], by simp⟩

mutual
/-- The tokens of a value are read as one value. -/
theorem readValue_tokens (v : Json) (hv : v.isPlain = true) (frames : List Frame) (ts : List Token) :
    readValue frames (v.tokens ++ ts) = deliver v frames ts := by
  match v with
  | .null => rw [tokens, List.cons_append, readValue, List.nil_append]
  | .unreadable => cases hv
  | .bool b => rw [tokens, List.cons_append, readValue, List.nil_append]
  | .number n => rw [tokens, List.cons_append, readValue, List.nil_append]; rfl
  | .string s => rw [tokens, List.cons_append, readValue, List.nil_append]; rfl
  | .array [] => simp [tokens, itemTokens, readValue]
  | .array (v :: vs) =>
    obtain ⟨hv, hvs⟩ := Bool.and_eq_true_iff.1 hv
    obtain ⟨t, ts', hcons, hne⟩ := tokens_cons v
    have hfirst := readValue_tokens v hv (.array [] :: frames) (moreItems vs ++ .closeArray :: ts)
    have hothers := deliver_moreItems v vs hvs [] frames ts
    have hopen : readValue frames (.openArray :: (v.tokens ++ (moreItems vs ++ .closeArray :: ts))) =
        readValue (.array [] :: frames) (v.tokens ++ (moreItems vs ++ .closeArray :: ts)) := by
      rw [hcons, List.cons_append, readValue]
      rintro _ ⟨⟩
      exact hne rfl
    simp only [tokens, itemTokens, List.cons_append, List.append_assoc, List.nil_append, hopen, hfirst,
      hothers, List.reverse_nil]
  | .object [] => simp [tokens, fieldTokens, readValue]
  | .object ((name, v) :: fs) =>
    obtain ⟨hv, hfs⟩ := Bool.and_eq_true_iff.1 hv
    have hfirst := readValue_tokens v hv (.object [] (some name) :: frames)
      (moreFields fs ++ .closeObject :: ts)
    have hothers := deliver_moreFields name v fs hfs [] frames ts
    simp only [List.map_nil, List.reverse_nil, List.nil_append] at hothers
    simp only [tokens, fieldTokens, List.cons_append, List.append_assoc, List.nil_append, readValue,
      hfirst, hothers]

/-- The items behind a value close its array. -/
theorem deliver_moreItems (v : Json) (vs : List Json) (hvs : allPlain vs = true) (before : List Json)
    (frames : List Frame) (ts : List Token) :
    deliver v (.array before :: frames) (moreItems vs ++ .closeArray :: ts) =
      deliver (.array (before.reverse ++ v :: vs)) frames ts := by
  match vs with
  | [] => simp [moreItems, deliver]
  | w :: vs =>
    obtain ⟨hw, hvs⟩ := Bool.and_eq_true_iff.1 hvs
    have hnext := readValue_tokens w hw (.array (v :: before) :: frames) (moreItems vs ++ .closeArray :: ts)
    have hothers := deliver_moreItems w vs hvs (v :: before) frames ts
    simp only [moreItems, List.cons_append, List.append_assoc, deliver, hnext, hothers, List.reverse_cons,
      List.nil_append]

/-- The fields behind a value close its object. -/
theorem deliver_moreFields (name : String) (v : Json) (fs : List (String × Json))
    (hfs : fieldsPlain fs = true) (before : List (String × Json)) (frames : List Frame) (ts : List Token) :
    deliver v (.object (before.map fun f => (some f.1, f.2)) (some name) :: frames)
        (moreFields fs ++ .closeObject :: ts) =
      deliver (.object (before.reverse ++ (name, v) :: fs)) frames ts := by
  match fs with
  | [] =>
    have hfields := ofFields_named ((name, v) :: before).reverse
    rw [List.map_reverse, List.map_cons] at hfields
    rw [moreFields, List.nil_append, deliver, hfields, List.reverse_cons]
  | (next, w) :: fs =>
    obtain ⟨hw, hfs⟩ := Bool.and_eq_true_iff.1 hfs
    have hnext := readValue_tokens w hw
      (.object ((some name, v) :: before.map fun f => (some f.1, f.2)) (some next) :: frames)
      (moreFields fs ++ .closeObject :: ts)
    have hothers := deliver_moreFields next w fs hfs ((name, v) :: before) frames ts
    simp only [List.map_cons] at hothers
    simp only [moreFields, List.cons_append, List.append_assoc, deliver, hnext, hothers, List.reverse_cons,
      List.nil_append]
end

/-- A plain value is read again from its text. -/
theorem ofText_toText {v : Json} (h : v.isPlain = true) : ofText v.toText = some v := by
  have hlex := lex_print v h [] trivial
  rw [List.append_nil] at hlex
  have hread := readValue_tokens v h [] []
  rw [ofText, toText, String.toList_ofList, parse, hlex, lex, Option.map_some, Option.bind_some, hread,
    deliver]

/-- It is also read again from the bytes of its text. -/
theorem ofBytes_toText {v : Json} (h : v.isPlain = true) : ofBytes (Utf8.encode v.toText.toList) = some v := by
  rw [ofBytes, Utf8.symbols_encode]
  exact ofText_toText h

end AccessSync.Json

namespace AccessSync.Transport

/-- A body that begins with a brace is not blank. -/
theorem readBody_object {fields : List (String × Json)} (h : (Json.object fields).isPlain = true) :
    readBody (Utf8.encode (Json.object fields).toText.toList) = some (.object fields) := by
  have hbrace : (Utf8.encodeChar '\x7b').all isSpace = false := by decide
  have hspace : (Utf8.encode (Json.object fields).toText.toList).all isSpace = false := by
    rw [Json.toText, String.toList_ofList, Json.print, Utf8.encode, List.flatMap_cons, List.all_append, hbrace,
      Bool.false_and]
  rw [readBody, hspace, if_neg Bool.false_ne_true]
  exact Json.ofBytes_toText h

end AccessSync.Transport
