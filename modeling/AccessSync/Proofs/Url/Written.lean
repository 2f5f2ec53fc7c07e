import AccessSync.Proofs.Text.Cutting
import AccessSync.Proofs.Text.Unescaping
import AccessSync.Proofs.Url.Lettering
import AccessSync.Url.Parser
/-!
# Domains as they are written

A domain is written in small characters of ASCII that no domain forbids (`IsWritten`). So a written domain
that is read again is written the same (`toAscii?_written`). The labels on both sides of a full stop are
written by themselves (`toAscii?_dot`), and a text with brackets is no domain (`toAscii?_bracket`).
-/

namespace AccessSync

/-! ## Punycode -/

namespace Punycode

theorem mem_number {c : Char} {bias position n : Nat} (h : c ∈ number bias position n) : ∃ d < 36, c = digit d := by
  have hrange : ∀ position, 1 ≤ threshold position bias ∧ threshold position bias ≤ 26 := by
    intro position
    simp only [threshold]
    omega
  fun_induction number bias position n with
  | case1 position n t hn =>
    have := hrange position
    exact ⟨n, by omega, List.mem_singleton.1 h⟩
  | case2 position n t hn ih =>
    rcases List.mem_cons.1 h with rfl | h
    · have := hrange position
      have := Nat.mod_lt (n - t) (show 0 < 36 - t by omega)
      exact ⟨_, by omega, rfl⟩
    · exact ih h

theorem mem_pass {c d : Char} {code : Nat} {p : Progress} (h : c ∈ (pass code d p).2) : ∃ n < 36, c = digit n := by
  unfold pass at h
  split_ifs at h
  · simp at h
  · exact mem_number h
  · simp at h

theorem mem_passAll {c : Char} {code : Nat} {cs : List Char} {p : Progress} (h : c ∈ (passAll code cs p).2) :
    ∃ n < 36, c = digit n := by
  induction cs generalizing p with
  | nil => simp [passAll] at h
  | cons d cs ih =>
    rw [passAll] at h
    rcases List.mem_append.1 h with h | h
    · exact mem_pass h
    · exact ih h

theorem mem_insertAll {c : Char} {text : List Char} {codes : List Nat} {reached : Nat} {p : Progress}
    (h : c ∈ insertAll text codes reached p) : ∃ n < 36, c = digit n := by
  induction codes generalizing reached p with
  | nil => simp [insertAll] at h
  | cons code codes ih =>
    rw [insertAll] at h
    rcases List.mem_append.1 h with h | h
    · exact mem_passAll h
    · exact ih h

/-- Punycode is written in characters of the text, hyphens and digits. -/
theorem mem_encode {c : Char} {text : List Char} (h : c ∈ encode text) :
    (c ∈ text ∧ c.toNat < 0x80) ∨ c = '-' ∨ ∃ n < 36, c = digit n := by
  unfold encode at h
  rcases List.mem_append.1 h with h | h
  · split_ifs at h
    · simp at h
    · rcases List.mem_append.1 h with h | h
      · exact .inl (by simpa using h)
      · exact .inr (.inl (List.mem_singleton.1 h))
  · exact .inr (.inr (mem_insertAll h))

end Punycode

namespace Domain

open Text

/-! ## Written characters -/

/-- A character that stands in a domain as it is written. -/
def WrittenChar (c : Char) : Prop := c.toNat < 0x80 ∧ isForbidden c = false ∧ lowerAscii c = c

instance (c : Char) : Decidable (WrittenChar c) := inferInstanceAs (Decidable (_ ∧ _))

/-- Text as a domain is written. -/
def IsWritten (cs : List Char) : Prop := ∀ c ∈ cs, WrittenChar c

instance (cs : List Char) : Decidable (IsWritten cs) := List.decidableBAll WrittenChar cs

theorem written_digit : ∀ n < 36, WrittenChar (Punycode.digit n) := by decide

/-- A label is written like that if its text was prepared and has nothing forbidden. -/
theorem written_of_prepared {cs : List Char} {label : Label} (h : Label.ofPrepared? cs = some label)
    (hcs : ∀ c ∈ cs, isForbidden c = false ∧ lowerAscii c = c) : IsWritten label.written := by
  have hmark : IsWritten encodedMark := by decide
  unfold Label.ofPrepared? at h
  split at h
  · rename_i encoded hencoded
    split_ifs at h with hascii
    obtain ⟨_, -, rfl⟩ := Option.map_eq_some_iff.1 h
    obtain rfl := strip?_eq_some_iff.1 hencoded
    intro c hc
    rcases List.mem_append.1 hc with hmem | hmem
    · exact hmark c hmem
    · exact ⟨of_decide_eq_true (List.all_eq_true.1 hascii c hmem), hcs c hc⟩
  · split_ifs at h with hsound hascii
    · obtain rfl := Option.some.inj h
      exact fun c hc => ⟨of_decide_eq_true (List.all_eq_true.1 hascii c hc), hcs c hc⟩
    · obtain rfl := Option.some.inj h
      intro c hc
      rcases List.mem_append.1 hc with hc | hc
      · exact hmark c hc
      rcases Punycode.mem_encode hc with ⟨hc, hascii⟩ | rfl | ⟨n, hn, rfl⟩
      · exact ⟨hascii, hcs c hc⟩
      · decide
      · exact written_digit n hn

/-! ## Labels -/

section Labels
variable {cs xs ys : List Char} {ls : List Label}

theorem ofText?_eq_some (h : Label.ofText? cs = some ls) :
    ∃ text, prepare? cs = some text ∧ (∀ c ∈ text, isForbidden c = false) ∧
      (splitOn '.' text).mapM Label.ofPrepared? = some ls := by
  unfold Label.ofText? at h
  split at h
  · rename_i text htext
    split_ifs at h with hforbidden
    exact ⟨text, htext, by simpa using hforbidden, h⟩
  · cases h

theorem written_of_text (h : Label.ofText? cs = some ls) : ∀ l ∈ ls, IsWritten l.written := by
  intro l hl
  obtain ⟨text, htext, hallowed, hpieces⟩ := ofText?_eq_some h
  obtain ⟨piece, hpiece, hprepared⟩ := exists_of_mapM hpieces hl
  refine written_of_prepared hprepared fun c hc => ?_
  have hmem := (sublist_of_mem_splitOn hpiece).subset hc
  exact ⟨hallowed c hmem, small_of_prepare? htext c hmem⟩

theorem labels?_eq_some (h : labels? cs = some ls) :
    ∃ pieces, (splitOn '.' cs).mapM Label.ofText? = some pieces ∧ ls = pieces.flatten := by
  obtain ⟨pieces, hpieces, rfl⟩ := Option.map_eq_some_iff.1 h
  exact ⟨pieces, hpieces, rfl⟩

theorem written_of_labels (h : labels? cs = some ls) : ∀ l ∈ ls, IsWritten l.written := by
  intro l hl
  obtain ⟨pieces, hpieces, rfl⟩ := labels?_eq_some h
  obtain ⟨piece, hpiece, hl⟩ := List.mem_flatten.1 hl
  obtain ⟨_, -, htext⟩ := exists_of_mapM hpieces hpiece
  exact written_of_text htext l hl

/-- On both sides of a full stop the labels are read by themselves. -/
theorem labels?_dot (h : labels? (xs ++ '.' :: ys) = some ls) :
    ∃ front back, labels? xs = some front ∧ labels? ys = some back ∧ ls = front ++ back := by
  rw [labels?, splitOn_append_sep, List.mapM_append] at h
  obtain ⟨_, hpieces, rfl⟩ := Option.map_eq_some_iff.1 h
  obtain ⟨front, hfront, hpieces⟩ := Option.bind_eq_some_iff.1 hpieces
  obtain ⟨back, hback, hpieces⟩ := Option.bind_eq_some_iff.1 hpieces
  obtain rfl := Option.some.inj hpieces
  exact ⟨front.flatten, back.flatten, by rw [labels?, hfront]; rfl, by rw [labels?, hback]; rfl, List.flatten_append⟩

theorem ne_nil_of_mapM {α β : Type} {f : α → Option β} {as : List α} {bs : List β} (h : as.mapM f = some bs)
    (has : as ≠ []) : bs ≠ [] := by
  rintro rfl
  exact has (List.map_eq_nil_iff.1 (map_eq_of_mapM h))

theorem labels?_ne_nil (h : labels? cs = some ls) : ls ≠ [] := by
  obtain ⟨pieces, hpieces, rfl⟩ := labels?_eq_some h
  obtain ⟨piece, hpiece⟩ := List.exists_mem_of_ne_nil pieces (ne_nil_of_mapM hpieces (splitOn_ne_nil '.' cs))
  obtain ⟨_, -, htext⟩ := exists_of_mapM hpieces hpiece
  obtain ⟨text, -, -, hprepared⟩ := ofText?_eq_some htext
  have hne := ne_nil_of_mapM hprepared (splitOn_ne_nil '.' text)
  exact fun hnil => hne (List.flatten_eq_nil_iff.1 hnil piece hpiece)

/-- A written label is read as itself. -/
theorem ofText?_written (hcs : IsWritten cs) (hdot : '.' ∉ cs) (h : Label.ofText? cs = some ls) :
    ls.map (·.written) = [cs] := by
  obtain ⟨text, htext, -, hpieces⟩ := ofText?_eq_some h
  have hascii : cs.all Percent.isAscii = true := List.all_eq_true.2 fun c hc => decide_eq_true (hcs c hc).1
  have hsmall : cs.map lowerAscii = cs := (List.map_congr_left fun c hc => (hcs c hc).2.2).trans (List.map_id cs)
  rw [prepare?, if_pos hascii, hsmall] at htext
  obtain rfl := Option.some.inj htext
  rw [splitOn_eq_singleton hdot] at hpieces
  obtain ⟨label, rfl, hlabel⟩ := List.map_eq_singleton_iff.1 (map_eq_of_mapM hpieces).symm
  have hwritten : label.written = cs := by
    unfold Label.ofPrepared? at hlabel
    split at hlabel
    · split_ifs at hlabel
      obtain ⟨_, -, rfl⟩ := Option.map_eq_some_iff.1 hlabel.symm
      rfl
    · split_ifs at hlabel
      obtain rfl := Option.some.inj hlabel
      rfl
  rw [List.map_singleton, hwritten]

theorem labels?_written (hcs : IsWritten cs) (h : labels? cs = some ls) : ls.map (·.written) = splitOn '.' cs := by
  obtain ⟨pieces, hpieces, rfl⟩ := labels?_eq_some h
  have hsplit : ∀ piece ∈ splitOn '.' cs, IsWritten piece ∧ '.' ∉ piece := fun piece hpiece =>
    ⟨fun c hc => hcs c ((sublist_of_mem_splitOn hpiece).subset hc), notMem_of_mem_splitOn hpiece⟩
  have hread := map_eq_of_mapM hpieces
  clear hpieces h
  generalize splitOn '.' cs = texts at hsplit hread
  induction texts generalizing pieces with
  | nil =>
    obtain rfl : pieces = [] := by simpa using hread.symm
    rfl
  | cons text texts ih =>
    cases pieces with
    | nil => simp at hread
    | cons piece pieces =>
      obtain ⟨hpiece, hread⟩ := List.cons.inj hread
      obtain ⟨⟨hwritten, hdot⟩, hsplit⟩ := List.forall_mem_cons.1 hsplit
      rw [List.flatten_cons, List.map_append, ofText?_written hwritten hdot hpiece, ih pieces hsplit hread]
      rfl

/-- A text with a bracket makes no label. -/
theorem labels?_bracket {c : Char} (hc : isBracket c = true) (hmem : c ∈ cs) : labels? cs = none := by
  rw [Option.eq_none_iff_forall_ne_some]
  intro ls h
  have hcode := toNat_bracket hc
  have hdot : c ≠ '.' := by
    rintro rfl
    revert hcode
    decide
  obtain ⟨pieces, hpieces, -⟩ := labels?_eq_some h
  obtain ⟨piece, hpiece, hmem⟩ := exists_mem_splitOn hdot hmem
  obtain ⟨_, hread⟩ : ∃ ls, Label.ofText? piece = some ls := by
    have hsome : Label.ofText? piece ∈ pieces.map some := map_eq_of_mapM hpieces ▸ List.mem_map_of_mem hpiece
    obtain ⟨ls, -, hls⟩ := List.mem_map.1 hsome
    exact ⟨ls, hls.symm⟩
  obtain ⟨text, htext, hallowed, -⟩ := ofText?_eq_some hread
  have hforbidden := hallowed c (bracket_mem_prepare? htext hc hmem)
  simp only [isBracket, Bool.or_eq_true, decide_eq_true_eq] at hc
  rcases hc with rfl | rfl <;> exact absurd hforbidden (by decide)

end Labels

/-! ## Domains -/

section Domains
variable {cs xs ys domain : List Char}

theorem toAscii?_eq_some (h : toAscii? (Percent.unescape (Utf8.encode cs)) = some domain) :
    ∃ ts labels, Percent.StandsFor cs ts ∧ labels? ts = some labels ∧
      domain = join ['.'] (labels.map (·.written)) := by
  unfold toAscii? at h
  split at h
  · cases h
  · rename_i ts hts
    split at h
    · rename_i labels hlabels
      split_ifs at h
      exact ⟨ts, labels, Percent.standsFor_iff.2 hts, hlabels, (Option.some.inj h).symm⟩
    · cases h

/-- A domain is written in small letters of ASCII. -/
theorem isWritten_toAscii? (h : toAscii? (Percent.unescape (Utf8.encode cs)) = some domain) : IsWritten domain := by
  obtain ⟨ts, labels, -, hlabels, rfl⟩ := toAscii?_eq_some h
  intro c hc
  rcases mem_join hc with hc | ⟨piece, hpiece, hc⟩
  · rw [List.mem_singleton.1 hc]
    decide
  · obtain ⟨label, hlabel, rfl⟩ := List.mem_map.1 hpiece
    exact written_of_labels hlabels label hlabel c hc

/-- What stands behind a full stop is written at the end of the domain as it is by itself. -/
theorem toAscii?_dot {back : List Char} (h : toAscii? (Percent.unescape (Utf8.encode (xs ++ '.' :: ys))) = some domain)
    (hback : toAscii? (Percent.unescape (Utf8.encode ys)) = some back) : ∃ front, domain = front ++ '.' :: back := by
  obtain ⟨ts, labels, hts, hlabels, rfl⟩ := toAscii?_eq_some h
  obtain ⟨us, backLabels, hus, hbackLabels, rfl⟩ := toAscii?_eq_some hback
  obtain ⟨as, bs, -, hbs, rfl⟩ := hts.cut (by decide)
  obtain rfl := hbs.unique hus
  obtain ⟨front, rest, hfront, hrest, rfl⟩ := labels?_dot hlabels
  obtain rfl := Option.some.inj (hrest.symm.trans hbackLabels)
  refine ⟨join ['.'] (front.map (·.written)), ?_⟩
  rw [List.map_append, join_append (by simpa using labels?_ne_nil hfront) (by simpa using labels?_ne_nil hrest),
    List.append_assoc]
  rfl

/-- A written domain is written the same when it is read again. -/
theorem toAscii?_written (hcs : IsWritten cs) (h : toAscii? (Percent.unescape (Utf8.encode cs)) = some domain) :
    domain = cs := by
  obtain ⟨ts, labels, hts, hlabels, rfl⟩ := toAscii?_eq_some h
  have hpercent : '%' ∉ cs := fun hmem => absurd (hcs _ hmem).2.1 (by decide)
  obtain rfl := hts.unique (Percent.standsFor_self hpercent)
  rw [labels?_written hcs hlabels, join_splitOn]

/-- No domain is read from a text with a bracket. -/
theorem toAscii?_bracket {c : Char} (hc : isBracket c = true) (hmem : c ∈ cs) :
    toAscii? (Percent.unescape (Utf8.encode cs)) = none := by
  rw [Option.eq_none_iff_forall_ne_some]
  intro domain h
  obtain ⟨ts, labels, hts, hlabels, -⟩ := toAscii?_eq_some h
  have hparts : Percent.Parts c := by
    simp only [isBracket, Bool.or_eq_true, decide_eq_true_eq] at hc
    rcases hc with rfl | rfl <;> decide
  obtain ⟨xs, ys, rfl⟩ := List.append_of_mem hmem
  obtain ⟨as, bs, -, -, rfl⟩ := hts.cut hparts
  rw [labels?_bracket hc (by simp)] at hlabels
  cases hlabels

end Domains

end Domain

end AccessSync
