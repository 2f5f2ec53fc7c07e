import AccessSync.Rule.Edit
import AccessSync.Proofs.RuleSet.Target
/-!
# Names that are read as they were written

Any natural key can be written into a rule, but only a key that is not empty and holds no slash is
read back. `parse_text_iff`: such a name is read as it was written, and no other is.
-/

namespace AccessSync

namespace PrincipalName

variable {p : PrincipalName} {entry : String}

/-- The key can stand in an entry that is read again. -/
def Readable (p : PrincipalName) : Prop := p.key ≠ "" ∧ '/' ∉ p.key.toList

instance (p : PrincipalName) : Decidable p.Readable := inferInstanceAs (Decidable (_ ∧ _))

theorem readKind_word (kind : PrincipalKind) : readKind kind.word = .ok kind := by
  cases kind <;> rfl

/-- There is exactly one slash between the word and the key. -/
theorem cut?_eq_some_iff {text word key : String} :
    cut? text = some (word, key) ↔
      text = word ++ "/" ++ key ∧ '/' ∉ word.toList ∧ key ≠ "" ∧ '/' ∉ key.toList := by
  constructor
  · intro h
    unfold cut? at h
    split at h
    · rename_i front back hcut
      obtain ⟨htext, hfront⟩ := Text.cut?_eq_some_iff.1 hcut
      split_ifs at h with hkey
      simp only [Option.some.injEq, Prod.mk.injEq] at h
      obtain ⟨rfl, rfl⟩ := h
      rw [not_or] at hkey
      refine ⟨?_, by simpa using hfront, by simpa using hkey.1, by simpa using hkey.2⟩
      rw [← String.toList_inj, htext]
      simp
    · cases h
  · rintro ⟨rfl, hword, hne, hkey⟩
    have hcut : Text.cut? '/' (word ++ "/" ++ key).toList = some (word.toList, key.toList) :=
      Text.cut?_eq_some_iff.2 ⟨by simp, hword⟩
    rw [cut?, hcut]
    simp [hne, hkey]

/-- The first slash of an entry stands behind the word of its kind. -/
theorem cut_text (p : PrincipalName) :
    Text.cut? '/' p.text.toList = some (p.kind.word.toList, p.key.toList) := by
  rw [Text.cut?_eq_some_iff]
  refine ⟨?_, p.kind.slash_notMem_word⟩
  rw [text, String.toList_append, String.toList_append, List.append_assoc]
  rfl

theorem cut?_text (h : p.Readable) : cut? p.text = some (p.kind.word, p.key) :=
  cut?_eq_some_iff.2 ⟨rfl, p.kind.slash_notMem_word, h⟩

theorem cut?_text_of_not (h : ¬p.Readable) : cut? p.text = none := by
  have hkey : p.key.toList = [] ∨ '/' ∈ p.key.toList := by
    rw [String.toList_eq_nil_iff]
    by_contra hn
    rw [not_or] at hn
    exact h hn
  unfold cut?
  rw [cut_text]
  simp only [hkey, if_true]

theorem parse_text (h : p.Readable) : parse p.text = .ok p := by
  unfold parse read
  rw [cut?_text h]
  simp only [readKind_word, Except.map]

theorem parse_text_of_not (h : ¬p.Readable) : parse p.text = .error (.malformedName p.text) := by
  unfold parse read
  rw [cut?_text_of_not h]
  rfl

/-- Whatever is read from an entry can be written and read again. -/
theorem readable_of_parse (h : parse entry = .ok p) : p.Readable := by
  unfold parse read at h
  split at h
  · rename_i word key hcut
    obtain ⟨-, -, hkey⟩ := cut?_eq_some_iff.1 hcut
    cases hkind : readKind word with
    | error fault =>
      rw [hkind] at h
      cases h
    | ok kind =>
      rw [hkind] at h
      cases h
      exact hkey
  · cases h

/-- A name is read from its own text exactly if its key is not empty and holds no slash. -/
theorem parse_text_iff : parse p.text = .ok p ↔ p.Readable := by
  constructor
  · exact readable_of_parse
  · exact parse_text

end PrincipalName

namespace Rule

variable {p q : PrincipalName} {entry : String}

theorem names_iff : names p entry = true ↔ PrincipalName.parse entry = .ok p := by
  unfold names
  cases PrincipalName.parse entry with
  | error fault => simp
  | ok q => simp

/-- An entry names at most one principal. -/
theorem eq_of_names (hp : names p entry = true) (hq : names q entry = true) : p = q := by
  rw [names_iff] at hp hq
  rw [hp] at hq
  cases hq
  rfl

theorem names_text_iff : names p p.text = true ↔ p.Readable := by
  rw [names_iff, PrincipalName.parse_text_iff]

end Rule

end AccessSync
