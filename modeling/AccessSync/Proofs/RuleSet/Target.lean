import AccessSync.Client.Rules
import AccessSync.Proofs.Text.Cutting
import Mathlib.Data.List.Basic
/-!
# Names of rule sets

Two targets of one account have rule sets of different names (`ruleSetName_injective`), whatever the
ids are: empty segments of a name are left out, but the word of a kind is never empty and holds no
slash.
-/

namespace AccessSync

theorem PrincipalKind.slash_notMem_word (kind : PrincipalKind) : '/' ∉ kind.word.toList := by
  cases kind <;> decide

theorem PrincipalKind.word_ne_empty (kind : PrincipalKind) : kind.word ≠ "" := by
  cases kind <;> decide

theorem PrincipalKind.word_injective : Function.Injective word := by
  intro a b h
  cases a <;> cases b <;> first | rfl | exact absurd h (by decide)

namespace AccessTarget

/-- A segment of a name; an empty one is left out. -/
def segment (text : String) : String := if text = "" then "" else "/" ++ text

/-- What the name of a target has behind the account. -/
def rest : AccessTarget → String
  | .account => ""
  | .principal kind id => "/" ++ kind.word ++ segment id

theorem resourceName_eq (t : AccessTarget) (accountId : String) :
    t.resourceName accountId = "accounts" ++ segment accountId ++ t.rest := by
  cases t with
  | account =>
    by_cases ha : accountId = ""
    · simp [resourceName, rest, segment, ha]
    · simp [-String.reduceAppend, resourceName, rest, segment, ha, String.intercalate_cons_cons,
        String.append_assoc]
  | principal kind id =>
    have hk := kind.word_ne_empty
    by_cases ha : accountId = "" <;> by_cases hi : id = "" <;>
      simp [-String.reduceAppend, resourceName, rest, segment, ha, hi, hk,
        String.intercalate_cons_cons, String.append_assoc]

theorem toList_segment {text : String} (h : text ≠ "") :
    (segment text).toList = '/' :: text.toList := by
  rw [segment, if_neg h, String.toList_append]
  rfl

/-- The word of a kind ends at the first slash behind it. -/
theorem rest_injective : Function.Injective rest := by
  have hprincipal : ∀ kind id, (rest (.principal kind id)).toList =
      '/' :: (kind.word.toList ++ (segment id).toList) := by
    intro kind id
    rw [rest, String.toList_append, String.toList_append]
    rfl
  intro t u h
  have h := congrArg String.toList h
  cases t with
  | account =>
    cases u with
    | account => rfl
    | principal =>
      rw [hprincipal] at h
      cases h
  | principal kind id =>
    cases u with
    | account =>
      rw [hprincipal] at h
      cases h
    | principal kind' id' =>
      rw [hprincipal, hprincipal, List.cons.injEq] at h
      replace h := h.2
      -- If just one id is empty, the word of the other kind ends where this name goes on.
      by_cases hi : id = "" <;> by_cases hi' : id' = ""
      · subst hi hi'
        rw [List.append_left_inj] at h
        rw [PrincipalKind.word_injective (String.toList_inj.1 h)]
      · rw [toList_segment hi', hi, segment, if_pos rfl, String.toList_empty, List.append_nil] at h
        exact absurd (h ▸ by simp) kind.slash_notMem_word
      · rw [toList_segment hi, hi', segment, if_pos rfl, String.toList_empty, List.append_nil] at h
        exact absurd (h ▸ by simp) kind'.slash_notMem_word
      · rw [toList_segment hi, toList_segment hi'] at h
        obtain ⟨hword, hid⟩ := Text.eq_of_append_sep kind.slash_notMem_word kind'.slash_notMem_word h
        rw [PrincipalKind.word_injective (String.toList_inj.1 hword), String.toList_inj.1 hid]

/-- Different targets never share the name of a rule set. -/
theorem ruleSetName_injective (accountId : String) :
    Function.Injective fun t : AccessTarget => t.ruleSetName accountId := by
  intro t u h
  have hl := congrArg String.toList h
  simp only [ruleSetName, resourceName_eq, String.toList_append] at hl
  exact rest_injective (String.toList_inj.1 (List.append_cancel_left (List.append_cancel_right hl)))

theorem ruleSetName_ne_empty (t : AccessTarget) (accountId : String) :
    t.ruleSetName accountId ≠ "" := by
  intro h
  have := congrArg String.toList h
  simp [ruleSetName] at this

end AccessTarget

end AccessSync
