import AccessSync.Proofs.Text.Cutting
import AccessSync.Rule.RoleMatch
import Mathlib.Data.List.Infix
/-!
# Which roles match

Exact matching compares names without `roles/` in front, so it takes the two spellings of a role for
one (`accepts_exact_iff`); the other matching looks for a part of the name (`accepts_containing_iff`).
Either finds the rule that is made for its own slug. The full name of a role begins with `roles/` once more
than its bare name, so to have the same one is to match exactly (`accepts_exact_iff_qualify`).
-/

namespace AccessSync

namespace Text

theorem occurs_iff {part cs : List Char} : occurs part cs = true ↔ part <:+: cs := by
  induction cs with
  | nil => simp [occurs]
  | cons c cs ih =>
    rw [occurs, Bool.or_eq_true, ih, List.infix_cons_iff, Option.isSome_iff_exists]
    refine or_congr_left ?_
    constructor
    · rintro ⟨rest, h⟩
      exact ⟨rest, (strip?_eq_some_iff.1 h).symm⟩
    · rintro ⟨rest, h⟩
      exact ⟨rest, strip?_eq_some_iff.2 h.symm⟩

end Text

namespace RoleMatch

variable {name role other : String}

theorem accepts_exact_iff :
    (exact name).accepts role = true ↔ bare role.toList = bare name.toList := by
  simp [accepts]

theorem accepts_containing_iff :
    (containing name).accepts role = true ↔ name.toList <:+: role.toList := by
  simp [accepts, Text.occurs_iff]

theorem accepts_exact_self (slug : String) : (exact slug).accepts slug = true := by
  rw [accepts_exact_iff]

theorem suffix_qualify (slug : String) : slug.toList <:+ (qualify slug).toList := by
  unfold qualify
  split
  · exact List.suffix_refl _
  · rw [String.toList_ofList]
    exact List.suffix_append _ _

theorem accepts_containing_qualify (slug : String) :
    (containing slug).accepts (qualify slug) = true := by
  rw [accepts_containing_iff]
  exact (suffix_qualify slug).isInfix

/-! ## Full names -/

theorem toList_qualify (name : String) : (qualify name).toList = roleMark ++ bare name.toList := by
  unfold qualify bare
  cases h : Text.strip? roleMark name.toList with
  | some rest => exact Text.strip?_eq_some_iff.1 h
  | none => exact String.toList_ofList

/-- Just one `roles/` is taken away, however many there are. -/
theorem bare_append (name : List Char) : bare (roleMark ++ name) = name := by
  rw [bare, Text.strip?_eq_some_iff.2 rfl]
  rfl

theorem bare_qualify (name : String) : bare (qualify name).toList = bare name.toList := by
  rw [toList_qualify, bare_append]

/-- Two names have the same full name if they are the same without `roles/` in front. -/
theorem qualify_eq_iff : qualify name = qualify other ↔ bare name.toList = bare other.toList := by
  rw [← String.toList_inj, toList_qualify, toList_qualify, List.append_cancel_left_eq]

theorem accepts_exact_iff_qualify :
    (exact name).accepts role = true ↔ qualify name = qualify role := by
  rw [accepts_exact_iff, qualify_eq_iff]
  exact eq_comm

/-- A full name is its own. -/
theorem qualify_qualify (name : String) : qualify (qualify name) = qualify name := by
  rw [qualify_eq_iff, bare_qualify]

theorem accepts_exact_qualify (slug : String) : (exact slug).accepts (qualify slug) = true := by
  rw [accepts_exact_iff, bare_qualify]

theorem exact_equivalence : Equivalence fun name role => (exact name).accepts role = true := by
  simp only [accepts_exact_iff_qualify]
  exact ⟨fun _ => rfl, Eq.symm, Eq.trans⟩

end RoleMatch

end AccessSync
