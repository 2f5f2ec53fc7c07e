import AccessSync.Proofs.Program.Running
import Mathlib.Data.List.Forall2
import Mathlib.Data.List.Infix
/-!
# Calls within others

`x.Yields es a`: in the course of the events `es` the call `x` was carried out and had the value `a`. A
call that has a value did what its parts did one after the other (`does_bind_ok`), and a call for each
item had its values in its course, one for each (`forall₂_of_mapM`). What the client remembers when a part
begins is what the events before it have left (`Memory.Follows.within`).
-/

namespace AccessSync

namespace Call

variable {α β : Type} {x : Call α} {es fs : List Event} {a : α} {b : β}

/-- A call that has a value went through both its parts. -/
theorem does_bind_ok {f : α → Call β} : (x >>= f).Does es (some (.ok b)) ↔
    ∃ a xs ys, es = xs ++ ys ∧ x.Does xs (some (.ok a)) ∧ (f a).Does ys (some (.ok b)) := by
  rw [does_bind]
  constructor
  · rintro (⟨-, hr⟩ | ⟨_, -, hr⟩ | h)
    · cases hr
    · cases hr
    · exact h
  · exact fun h => .inr (.inr h)

theorem does_ofExcept_bind_ok {ε : Type} {error : ε → Error} {v : Except ε α} {f : α → Call β} :
    (ofExcept error v >>= f).Does es (some (.ok b)) ↔ ∃ a, v = .ok a ∧ (f a).Does es (some (.ok b)) := by
  rw [does_ofExcept_bind]
  constructor
  · rintro (⟨_, -, -, hr⟩ | h)
    · cases hr
    · exact h
  · exact .inr

theorem does_pure_ok {a' : α} : (pure a' : Call α).Does es (some (.ok a)) ↔ es = [] ∧ a = a' := by
  rw [does_pure, Option.some.injEq, Except.ok.injEq]

/-- In the course of these events the call was carried out and had that value. -/
def Yields (x : Call α) (es : List Event) (a : α) : Prop := ∃ mid, mid <:+: es ∧ x.Does mid (some (.ok a))

theorem yields_of_does (h : x.Does es (some (.ok a))) : x.Yields es a := ⟨es, List.infix_rfl, h⟩

theorem Yields.mono (h : x.Yields es a) (hes : es <:+: fs) : x.Yields fs a := by
  obtain ⟨mid, hmid, hdoes⟩ := h
  exact ⟨mid, hmid.trans hes, hdoes⟩

/-- The values of a call for each item are yielded in the order of the items. -/
theorem forall₂_of_mapM {f : α → Call β} {xs : List α} {bs : List β}
    (h : (xs.mapM f).Does es (some (.ok bs))) : List.Forall₂ (fun a b => (f a).Yields es b) xs bs := by
  induction xs generalizing es bs with
  | nil =>
    obtain ⟨-, rfl⟩ := does_pure_ok.1 h
    exact .nil
  | cons a xs ih =>
    rw [List.mapM_cons] at h
    obtain ⟨b, first, rest, rfl, hfirst, h⟩ := does_bind_ok.1 h
    obtain ⟨bs', mid, last, rfl, hmid, h⟩ := does_bind_ok.1 h
    obtain ⟨rfl, rfl⟩ := does_pure_ok.1 h
    rw [List.append_nil]
    refine .cons ((yields_of_does hfirst).mono (List.prefix_append ..).isInfix) ?_
    exact (ih hmid).imp fun _ _ hyields => hyields.mono (List.suffix_append ..).isInfix

theorem exists_of_forall₂ {R : α → β → Prop} {xs : List α} {bs : List β} (h : List.Forall₂ R xs bs)
    (hb : b ∈ bs) : ∃ a ∈ xs, R a b := by
  induction h with
  | nil => cases hb
  | @cons a b' xs bs hhead _ ih =>
    rcases List.mem_cons.1 hb with rfl | hb
    · exact ⟨a, List.mem_cons_self, hhead⟩
    · obtain ⟨a', ha', hR⟩ := ih hb
      exact ⟨a', List.mem_cons_of_mem a ha', hR⟩

/-- So each of them is yielded by the call for one item. -/
theorem yields_of_mapM {f : α → Call β} {xs : List α} {bs : List β}
    (h : (xs.mapM f).Does es (some (.ok bs))) (hb : b ∈ bs) : ∃ a ∈ xs, (f a).Yields es b :=
  exists_of_forall₂ (forall₂_of_mapM h) hb

end Call

/-- The memory at the beginning of some of the events, which all before it have led to. -/
theorem Memory.Follows.within {m m' : Memory} {es mid : List Event} (h : m.Follows es m')
    (hmid : mid <:+: es) : ∃ before k k', before <+: es ∧ m.Follows before k ∧ k.Follows mid k' := by
  obtain ⟨before, after, rfl⟩ := hmid
  obtain ⟨k', hfirst, -⟩ := Memory.follows_append.1 h
  obtain ⟨k, hbefore, hk⟩ := Memory.follows_append.1 hfirst
  exact ⟨before, k, k', by rw [List.append_assoc]; exact List.prefix_append .., hbefore, hk⟩

end AccessSync
