import AccessSync.Principal.Group
import AccessSync.Proofs.Principal.Name
import AccessSync.Proofs.Text.Cutting
import AccessSync.Proofs.Text.Unescaping
/-!
# How principals are spelled

A principal is named by a word for its kind, a slash and a key. The word is written in one way and read in
any case; the key is read as it stands (`PrincipalName.IsSpelled`). The entries of rules and the references of
members are read by the same grammar, and two texts name the same principal exactly if they differ in the
case of that word at most (`PrincipalName.names_have_one_grammar`).
-/

namespace AccessSync

/-! ## Case -/

theorem Text.lowerAscii_eq_toLower (c : Char) : lowerAscii c = c.toLower := by
  unfold lowerAscii Char.toLower
  split_ifs with hupper hcode hcode
  · have hle : c.toNat ≤ 90 := hupper.2
    have hsum : (c.val + 32).toNat = c.toNat + 32 := by
      rw [UInt32.toNat_add]
      exact Nat.mod_eq_of_lt (by change c.toNat + 32 < _; omega)
    rw [Char.ext_iff, ← UInt32.toNat_inj]
    exact (Utf8.toNat_ofNat_valid (by omega)).trans hsum.symm
  · exact absurd hupper hcode
  · exact absurd hcode hupper
  · rfl

namespace PrincipalKind

/-- The word for the kind in small letters. -/
def smallWord : PrincipalKind → String
  | .user => "users"
  | .group => "groups"
  | .servicePrincipal => "serviceprincipals"

theorem toList_toLower (text : String) : text.toLower.toList = text.toList.map Char.toLower := String.toList_map

theorem lower_eq (text : String) : lower text = text.toLower.toList := by
  rw [lower, toList_toLower]
  exact List.map_congr_left fun c _ => Text.lowerAscii_eq_toLower c

theorem lower_word (kind : PrincipalKind) : lower kind.word = kind.smallWord.toList := by
  cases kind <;> decide

/-- A kind is read from its word in any case, and from nothing else. -/
theorem ofWord?_eq_some_iff {text : String} {kind : PrincipalKind} :
    ofWord? text = some kind ↔ text.toLower = kind.smallWord := by
  constructor
  · intro h
    rw [ofWord?] at h
    have hfound := List.find?_some h
    have hword : lower kind.word = lower text := of_decide_eq_true hfound
    rw [lower_word, lower_eq] at hword
    exact (String.toList_inj.1 hword).symm
  · intro h
    rw [ofWord?, lower_eq, h]
    cases kind <;> decide

/-- What becomes the word of a kind in small letters is made of letters. -/
theorem isLower_of_toLower {text : String} {kind : PrincipalKind} (h : text.toLower = kind.smallWord) :
    ∀ c ∈ text.toList, c.toLower.isLower = true := by
  have hletters : kind.smallWord.toList.all Char.isLower = true := by cases kind <;> decide
  rw [← h, toList_toLower] at hletters
  intro c hc
  exact List.all_eq_true.1 hletters _ (List.mem_map_of_mem hc)

theorem slash_notMem_of_toLower {text : String} {kind : PrincipalKind} (h : text.toLower = kind.smallWord) :
    '/' ∉ text.toList :=
  fun hmem => absurd (isLower_of_toLower h '/' hmem) (by decide)

end PrincipalKind

namespace PrincipalName

variable {p : PrincipalName} {text other word key : String} {kind : PrincipalKind} {malformed : PrincipalFault}

/-! ## Reading -/

/-- The text is a word for the kind of the principal, in whatever case, a slash and the key, which is not empty
and holds no slash. -/
def IsSpelled (p : PrincipalName) (text : String) : Prop :=
  ∃ word, text = word ++ "/" ++ p.key ∧ word.toLower = p.kind.smallWord ∧ p.key ≠ "" ∧ '/' ∉ p.key.toList

theorem readKind_eq_ok_iff : readKind word = .ok kind ↔ word.toLower = kind.smallWord := by
  rw [← PrincipalKind.ofWord?_eq_some_iff, readKind]
  cases PrincipalKind.ofWord? word <;> simp

/-- Whatever is said of other texts, kind and key are read from the texts that spell them. -/
theorem read_eq_ok_iff : read malformed text = .ok (kind, key) ↔ IsSpelled ⟨kind, key⟩ text := by
  constructor
  · intro h
    unfold read at h
    split at h
    · rename_i word key' hcut
      obtain ⟨htext, -, hkey⟩ := cut?_eq_some_iff.1 hcut
      cases hkind : readKind word with
      | error fault =>
        rw [hkind] at h
        cases h
      | ok found =>
        rw [hkind] at h
        cases h
        exact ⟨word, htext, readKind_eq_ok_iff.1 hkind, hkey⟩
    · cases h
  · rintro ⟨word, htext, hword, hkey⟩
    have hcut : cut? text = some (word, key) :=
      cut?_eq_some_iff.2 ⟨htext, PrincipalKind.slash_notMem_of_toLower hword, hkey⟩
    rw [read, hcut]
    simp only [readKind_eq_ok_iff.2 hword]
    rfl

theorem parse_eq_ok_iff : parse text = .ok p ↔ p.IsSpelled text := by
  rw [parse]
  cases hread : read (.malformedName text) text with
  | error fault =>
    have hno : ¬p.IsSpelled text := by
      intro h
      rw [read_eq_ok_iff.2 h] at hread
      cases hread
    exact iff_of_false (fun h => by cases h) hno
  | ok found =>
    obtain ⟨kind, key⟩ := found
    constructor
    · intro h
      cases h
      exact read_eq_ok_iff.1 hread
    · intro h
      rw [read_eq_ok_iff.2 h] at hread
      cases hread
      rfl

/-! ## Spellings -/

/-- The texts differ in the case of what stands before a slash, and nowhere else. -/
def AlikeButCase (text other : String) : Prop :=
  ∃ word word' key, text = word ++ "/" ++ key ∧ other = word' ++ "/" ++ key ∧ word.toLower = word'.toLower

/-- There is one slash in the text, so it parts in one way only. -/
theorem IsSpelled.parts (h : p.IsSpelled (word ++ "/" ++ key)) :
    key = p.key ∧ word.toLower = p.kind.smallWord := by
  obtain ⟨word', htext, hword', -, hkey'⟩ := h
  have hno := PrincipalKind.slash_notMem_of_toLower hword'
  have hlist := congrArg String.toList htext
  simp only [String.toList_append, List.append_assoc] at hlist
  have hcount := congrArg (List.count '/') hlist
  simp only [List.count_append, List.count_eq_zero.2 hno, List.count_eq_zero.2 hkey'] at hcount
  have hword : '/' ∉ word.toList := List.count_eq_zero.1 (by omega)
  obtain ⟨hword, hkey⟩ := Text.eq_of_append_sep hword hno hlist
  rw [String.toList_inj.1 hword]
  exact ⟨String.toList_inj.1 hkey, hword'⟩

/-- The spellings of a principal are alike but for case, and whatever is like one of them is another. -/
theorem IsSpelled.iff_alike (h : p.IsSpelled text) : p.IsSpelled other ↔ AlikeButCase text other := by
  constructor
  · rintro ⟨word', rfl, hword', -⟩
    obtain ⟨word, rfl, hword, -⟩ := h
    exact ⟨word, word', p.key, rfl, rfl, hword.trans hword'.symm⟩
  · rintro ⟨word, word', key, rfl, rfl, hcase⟩
    obtain ⟨rfl, hword⟩ := h.parts
    obtain ⟨-, -, -, hkey⟩ := h
    exact ⟨word', rfl, hcase.symm.trans hword, hkey⟩

/-- A principal is read from an entry of a rule or from the reference of a member exactly if the text spells it.
What was read is read again from the text that it is written as, two texts are read as one principal exactly if
they differ in the case of the word at most, and a principal is read from its own text exactly if its key is not
empty and holds no slash. -/
theorem names_have_one_grammar :
    (∀ (text : String) (p : PrincipalName), parse text = .ok p ↔ p.IsSpelled text) ∧
    (∀ (m : Member) (kind : PrincipalKind) (id : String),
      m.principal = .ok (kind, id) ↔ IsSpelled ⟨kind, id⟩ m.reference) ∧
    (∀ (text : String) (p : PrincipalName), parse text = .ok p → parse p.text = .ok p) ∧
    (∀ (text other : String) (p : PrincipalName), parse text = .ok p →
      (parse other = .ok p ↔ AlikeButCase text other)) ∧
    ∀ p : PrincipalName, parse p.text = .ok p ↔ p.key ≠ "" ∧ '/' ∉ p.key.toList := by
  refine ⟨fun _ _ => parse_eq_ok_iff, fun _ _ _ => read_eq_ok_iff, ?_, ?_, fun _ => parse_text_iff⟩
  · intro text p h
    exact parse_text (readable_of_parse h)
  · intro text other p h
    rw [parse_eq_ok_iff]
    exact (parse_eq_ok_iff.1 h).iff_alike

/-- A service principal is read in two spellings, and written in one. -/
theorem names_have_one_grammar_for_app :
    let app : PrincipalName := ⟨.servicePrincipal, "App-1"⟩
    parse "ServicePrincipals/App-1" = .ok app ∧ parse "serviceprincipals/App-1" = .ok app ∧
    AlikeButCase "ServicePrincipals/App-1" "serviceprincipals/App-1" ∧
    Member.principal ⟨"", "", "ServicePrincipals/App-1"⟩ = .ok (.servicePrincipal, "App-1") ∧
    app.text = "servicePrincipals/App-1" ∧ parse app.text = .ok app := by
  intro app
  obtain ⟨hparse, hmember, hagain, halike, -⟩ := names_have_one_grammar
  have hspelled : ∀ word : String, word.toList.map Char.toLower = "serviceprincipals".toList →
      app.IsSpelled (word ++ "/" ++ "App-1") := fun word hword =>
    ⟨word, rfl, by rw [← String.toList_inj, PrincipalKind.toList_toLower, hword]; rfl, by decide, by decide⟩
  have hcapital := hspelled "ServicePrincipals" (by decide)
  have hsmall := hspelled "serviceprincipals" (by decide)
  have hread := (hparse _ app).2 hcapital
  have hother := (hparse _ app).2 hsmall
  exact ⟨hread, hother, (halike _ _ app hread).1 hother, (hmember _ _ _).2 hcapital, by decide, hagain _ app hread⟩

end PrincipalName

end AccessSync
