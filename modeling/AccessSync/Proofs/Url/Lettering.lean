import AccessSync.Proofs.Text.Composing
import AccessSync.Url.Domain.Label
/-!
# The letters of domains

Spelling changes capitals and the characters of its tables. Their codes are the `changing` ones. The tables
agree on them (`settled`): no spelling has one, and whatever has a part that is changing is changing itself.
So no part of a spelled text is a capital, and the text that a label is prepared to has small letters only
(`small_of_prepare?`). Its brackets are those that were there (`bracket_mem_prepare?`).
-/

namespace AccessSync.Domain

open Text

/-! ## Capitals -/

/-- The codes of the capitals of ASCII. -/
def capitals : List Nat := List.range' 0x41 26

theorem mem_capitals {n : Nat} : n ∈ capitals ↔ 0x41 ≤ n ∧ n < 0x5B := by
  simp [capitals, List.mem_range'_1]

theorem capital_iff {c : Char} : 'A' ≤ c ∧ c ≤ 'Z' ↔ c.toNat ∈ capitals := by
  rw [mem_capitals]
  change 0x41 ≤ c.toNat ∧ c.toNat ≤ 0x5A ↔ _
  omega

/-- Only capitals have small letters of their own. -/
theorem lowerAscii_eq_self {c : Char} (h : c.toNat ∉ capitals) : lowerAscii c = c := if_neg (h ∘ capital_iff.1)

theorem toNat_ofNat_cases (n : Nat) : (Char.ofNat n).toNat = n ∨ (Char.ofNat n).toNat = 0 := by
  by_cases h : n.isValidChar
  · left
    rw [Char.ofNat, dif_pos h]
    rfl
  · right
    rw [Char.ofNat, dif_neg h]
    rfl

theorem ofNat_notMem_capitals {n : Nat} (h : n ∉ capitals) : (Char.ofNat n).toNat ∉ capitals := by
  rcases toNat_ofNat_cases n with hn | hn <;> rw [hn]
  · exact h
  · simp [mem_capitals]

theorem lowerAscii_ascii {c : Char} (h : c.toNat < 0x80) : (lowerAscii c).toNat < 0x80 := by
  rw [lowerAscii]
  split_ifs with hcapital
  · have hcode := mem_capitals.1 (capital_iff.1 hcapital)
    rcases toNat_ofNat_cases (c.toNat + 32) with hn | hn <;> omega
  · exact h

theorem lowerAscii_notMem_capitals (c : Char) : (lowerAscii c).toNat ∉ capitals := by
  rw [lowerAscii]
  split_ifs with h
  · have hcode := mem_capitals.1 (capital_iff.1 h)
    refine ofNat_notMem_capitals ?_
    rw [mem_capitals]
    omega
  · exact h ∘ capital_iff.2

/-! ## What spelling changes -/

/-- How far the letters of a run are from its first one. -/
def Run.steps (r : Run) : List Nat := (List.range ((r.last - r.first) / r.stride + 1)).map (r.stride * ·)

/-- The letters of a run. -/
def Run.codes (r : Run) : List Nat := (r.steps.map (r.first + ·)).filter r.holds

/-- The letters that those of a run are spelled by. -/
def Run.spelled (r : Run) : List Nat := r.steps.map (r.target + ·)

theorem Run.mem_steps {r : Run} {n : Nat} (h : r.holds n = true) : n - r.first ∈ r.steps := by
  simp only [Run.holds, Bool.and_eq_true, decide_eq_true_eq] at h
  obtain ⟨⟨hfirst, hlast⟩, hstride⟩ := h
  refine List.mem_map.2 ⟨(n - r.first) / r.stride, ?_, Nat.mul_div_cancel' (Nat.dvd_of_mod_eq_zero hstride)⟩
  rw [List.mem_range, Nat.lt_succ_iff]
  exact Nat.div_le_div_right (by omega)

/-- The set of the codes that are spelled by others. -/
def changing (runs : List Run) (spellings : List (List Nat)) : Nat :=
  Table.collect (capitals ++ (runs.flatMap Run.codes ++ spellings.filterMap List.head?)) 0

/-- No spelling has a code of the set, and whatever has a part in the set is in the set itself. -/
structure Settles (set : Nat) (runs : List Run) (spellings : List (List Nat)) (composites : List Composite)
    (replaced : List (List Nat)) : Prop where
  run : ∀ r ∈ runs, ∀ n ∈ r.spelled, set.testBit n = false
  row : ∀ row ∈ spellings, ∀ n ∈ row.tail, set.testBit n = false
  part : ∀ c ∈ composites, set.testBit c.whole = false → set.testBit c.first = false ∧ set.testBit c.second = false
  usual : ∀ row ∈ replaced, set.testBit (row.headD 0) = false → ∀ n ∈ row.tail, set.testBit n = false

instance (set : Nat) (runs : List Run) (spellings : List (List Nat)) (composites : List Composite)
    (replaced : List (List Nat)) : Decidable (Settles set runs spellings composites replaced) :=
  decidable_of_iff
    ((∀ r ∈ runs, ∀ n ∈ r.spelled, set.testBit n = false) ∧
      (∀ row ∈ spellings, ∀ n ∈ row.tail, set.testBit n = false) ∧
      (∀ c ∈ composites, set.testBit c.whole = false → set.testBit c.first = false ∧ set.testBit c.second = false) ∧
      ∀ row ∈ replaced, set.testBit (row.headD 0) = false → ∀ n ∈ row.tail, set.testBit n = false)
    ⟨fun ⟨run, row, part, usual⟩ => ⟨run, row, part, usual⟩, fun ⟨run, row, part, usual⟩ => ⟨run, row, part, usual⟩⟩

section Tables
variable {runLines spellingLines compositeLines replacedLines : List String}
  {runTexts spellingTexts compositeTexts replacedTexts : List (List Char)}

theorem settles_of_entries (hruns : runLines = runTexts.map String.ofList)
    (hspellings : spellingLines = spellingTexts.map String.ofList)
    (hcomposites : compositeLines = compositeTexts.map String.ofList)
    (hreplaced : replacedLines = replacedTexts.map String.ofList)
    (h : Settles (changing (Run.ofRows (Table.entries runTexts)) (Table.entries spellingTexts))
      (Run.ofRows (Table.entries runTexts)) (Table.entries spellingTexts)
      (Composite.ofRows (Table.entries compositeTexts)) (Table.entries replacedTexts)) :
    Settles (changing (Run.ofRows (Table.rows runLines)) (Table.rows spellingLines))
      (Run.ofRows (Table.rows runLines)) (Table.rows spellingLines) (Composite.ofRows (Table.rows compositeLines))
      (Table.rows replacedLines) := by
  rwa [Table.rows_eq hruns, Table.rows_eq hspellings, Table.rows_eq hcomposites, Table.rows_eq hreplaced]

end Tables

theorem settled : Settles (changing runs spellings) runs spellings composites replaced := by
  unfold runs spellings composites replaced
  apply settles_of_entries
  iterate 4
    · dsimp only
      repeat apply Table.lines_cons
      exact Table.lines_nil
  decide +kernel

theorem notMem_capitals_of_changing {n : Nat} (h : (changing runs spellings).testBit n = false) : n ∉ capitals := by
  intro hn
  rw [changing, Table.testBit_collect, Bool.or_eq_false_iff, decide_eq_false_iff_not] at h
  exact h.2 (List.mem_append_left _ hn)

/-- What a code is made of has no code of the set if that has none. -/
theorem Settles.takeApart {set : Nat} {runs : List Run} {spellings replaced : List (List Nat)} {cs : List Composite}
    (h : Settles set runs spellings cs replaced) {n m : Nat} (hn : set.testBit n = false)
    (hm : m ∈ Composite.takeApart cs n) : set.testBit m = false := by
  have hparts := h.part
  clear h
  induction cs generalizing n with
  | nil =>
    rw [List.mem_singleton.1 hm]
    exact hn
  | cons c cs ih =>
    obtain ⟨hc, hcs⟩ := List.forall_mem_cons.1 hparts
    rw [Composite.takeApart] at hm
    split_ifs at hm with hwhole
    · obtain ⟨hfirst, hsecond⟩ := hc (hwhole ▸ hn)
      rcases List.mem_append.1 hm with hm | hm
      · exact ih hfirst hm hcs
      · rw [List.mem_singleton.1 hm]
        exact hsecond
    · exact ih hn hm hcs

/-- The parts of a syllable are no letters of ASCII. -/
theorem Hangul.notMem_capitals {n m : Nat} {parts : List Nat} (h : Hangul.takeApart? n = some parts) (hm : m ∈ parts) :
    m ∉ capitals := by
  have hcodes : Hangul.leads = 0x1100 ∧ Hangul.vowels = 0x1161 ∧ Hangul.trails = 0x11A7 := ⟨rfl, rfl, rfl⟩
  unfold Hangul.takeApart? at h
  rw [mem_capitals]
  split at h
  · dsimp only at h
    split at h <;> simp only [Option.some.injEq] at h <;> subst h
    · simp only [List.mem_cons, List.not_mem_nil, or_false] at hm
      omega
    · simp only [List.cons_append, List.nil_append, List.mem_cons, List.not_mem_nil, or_false] at hm
      omega
  · cases h

/-- A character that spelling does not change has no capital in it. -/
theorem partsOf_notMem_capitals {c d : Char} (hc : (changing runs spellings).testBit c.toNat = false)
    (hd : d ∈ partsOf c) : d.toNat ∉ capitals := by
  rw [partsOf] at hd
  split_ifs at hd
  · rw [List.mem_singleton.1 hd]
    exact notMem_capitals_of_changing hc
  split at hd
  · rename_i codes hcodes
    obtain ⟨n, hn, rfl⟩ := List.mem_map.1 hd
    have hrow := settled.usual _ (Table.find?_eq_some hcodes) hc n hn
    exact ofNat_notMem_capitals (notMem_capitals_of_changing hrow)
  · obtain ⟨n, hn, rfl⟩ := List.mem_map.1 hd
    refine ofNat_notMem_capitals ?_
    rw [takeApart] at hn
    split at hn
    · exact Hangul.notMem_capitals ‹_› hn
    · exact notMem_capitals_of_changing (settled.takeApart hc hn)

/-! ## Prepared text -/

/-- The parts of a spelled character are no capitals. -/
theorem spellChar?_notMem_capitals {c d e : Char} {spelling : List Char} (h : spellChar? c = some spelling)
    (hd : d ∈ spelling) (he : e ∈ partsOf d) : e.toNat ∉ capitals := by
  have hsettled : ∀ n, (changing runs spellings).testBit n = false → e ∈ partsOf (Char.ofNat n) →
      e.toNat ∉ capitals := by
    intro n hn he
    rcases toNat_ofNat_cases n with hcode | hcode
    · exact partsOf_notMem_capitals (by rwa [hcode]) he
    · rw [partsOf_ascii (by rw [hcode]; decide)] at he
      rw [List.mem_singleton.1 he, hcode]
      decide
  unfold spellChar? at h
  split_ifs at h with hascii
  · obtain rfl := Option.some.inj h
    obtain rfl := List.mem_singleton.1 hd
    rw [partsOf_ascii (lowerAscii_ascii (of_decide_eq_true hascii))] at he
    rw [List.mem_singleton.1 he]
    exact lowerAscii_notMem_capitals c
  · obtain rfl := Option.some.inj h
    simp at hd
  split at h
  · rename_i r hr
    obtain rfl := Option.some.inj h
    obtain rfl := List.mem_singleton.1 hd
    have hmem := List.mem_of_find?_eq_some hr
    refine hsettled _ (settled.run r hmem _ ?_) he
    have hholds := List.find?_some hr
    have hsteps := Run.mem_steps hholds
    exact List.mem_map.2 ⟨_, hsteps, Nat.add_comm ..⟩
  · rename_i hr
    split at h
    · rename_i codes hcodes
      obtain rfl := Option.some.inj h
      obtain ⟨n, hn, rfl⟩ := List.mem_map.1 hd
      exact hsettled n (settled.row _ (Table.find?_eq_some hcodes) n hn) he
    · rename_i hrow
      obtain rfl := Option.some.inj h
      obtain rfl := List.mem_singleton.1 hd
      refine partsOf_notMem_capitals ?_ he
      rw [changing, Table.testBit_collect, Nat.zero_testBit, Bool.false_or, decide_eq_false_iff_not,
        List.mem_append, List.mem_append, not_or, not_or]
      refine ⟨?_, ?_, Table.find?_eq_none hrow⟩
      · have hcode : ¬d.toNat < 0x80 := hascii ∘ decide_eq_true
        rw [mem_capitals]
        omega
      · intro hmem
        obtain ⟨r, hmem, hcode⟩ := List.mem_flatMap.1 hmem
        exact List.find?_eq_none.1 hr r hmem (List.mem_filter.1 hcode).2

section MapM
variable {α β : Type} {f : α → Option β} {xs : List α} {ys : List β}

theorem map_eq_of_mapM (h : xs.mapM f = some ys) : xs.map f = ys.map some := by
  induction xs generalizing ys with
  | nil =>
    obtain rfl : [] = ys := by simpa using h
    rfl
  | cons x xs ih =>
    rw [List.mapM_cons] at h
    obtain ⟨y, hy, h⟩ := Option.bind_eq_some_iff.1 h
    obtain ⟨zs, hzs, h⟩ := Option.bind_eq_some_iff.1 h
    obtain rfl : y :: zs = ys := by simpa using h
    rw [List.map_cons, List.map_cons, hy, ih hzs]

theorem exists_of_mapM (h : xs.mapM f = some ys) {y : β} (hy : y ∈ ys) : ∃ x ∈ xs, f x = some y :=
  List.mem_map.1 (map_eq_of_mapM h ▸ List.mem_map_of_mem hy)

theorem mem_of_mapM (h : xs.mapM f = some ys) {x : α} {y : β} (hx : x ∈ xs) (hy : f x = some y) : y ∈ ys := by
  have hmem : some y ∈ ys.map some := by
    rw [← map_eq_of_mapM h, ← hy]
    exact List.mem_map_of_mem hx
  simpa using hmem

end MapM

/-- A prepared label has no capitals. -/
theorem small_of_prepare? {cs text : List Char} (h : prepare? cs = some text) : ∀ c ∈ text, lowerAscii c = c := by
  intro c hc
  refine lowerAscii_eq_self ?_
  unfold prepare? at h
  split_ifs at h
  · obtain rfl := Option.some.inj h
    obtain ⟨d, -, rfl⟩ := List.mem_map.1 hc
    exact lowerAscii_notMem_capitals d
  · obtain ⟨spelled, hspell, rfl⟩ := Option.map_eq_some_iff.1 h
    obtain ⟨spellings, hspellings, rfl⟩ := Option.map_eq_some_iff.1 hspell
    rcases mem_normal hc with ⟨d, hd, hparts⟩ | ⟨n, hn, rfl⟩
    · obtain ⟨spelling, hspelling, hd⟩ := List.mem_flatten.1 hd
      obtain ⟨_, -, hchar⟩ := exists_of_mapM hspellings hspelling
      exact spellChar?_notMem_capitals hchar hd hparts
    · refine ofNat_notMem_capitals ?_
      rw [mem_capitals]
      omega

/-- A prepared label has the brackets that it was prepared from. -/
theorem bracket_mem_prepare? {cs text : List Char} (h : prepare? cs = some text) {c : Char} (hc : isBracket c = true)
    (hmem : c ∈ cs) : c ∈ text := by
  have hcode := toNat_bracket hc
  have hascii : Percent.isAscii c = true := decide_eq_true (by omega)
  have hsmall : lowerAscii c = c := by
    refine lowerAscii_eq_self ?_
    rw [mem_capitals]
    omega
  unfold prepare? at h
  split_ifs at h
  · obtain rfl := Option.some.inj h
    exact List.mem_map.2 ⟨c, hmem, hsmall⟩
  · obtain ⟨spelled, hspell, rfl⟩ := Option.map_eq_some_iff.1 h
    obtain ⟨spellings, hspellings, rfl⟩ := Option.map_eq_some_iff.1 hspell
    have hchar : spellChar? c = some [c] := by rw [spellChar?, if_pos hascii, hsmall]
    exact bracket_mem_normal hc (List.mem_flatten.2 ⟨[c], mem_of_mapM hspellings hmem hchar, List.mem_singleton_self c⟩)

end AccessSync.Domain
