/-!
# Stores

A store keeps one value for each key. What is kept under a key is the last value put there since the
store was last emptied (`get?_put`).
-/

namespace AccessSync

/-- Values by key, each key once, the one put last at the end. -/
structure Store (α : Type) where
  entries : List (String × α)

namespace Store

variable {α : Type}

def empty : Store α := ⟨[]⟩

instance : Inhabited (Store α) := ⟨empty⟩

def get? (s : Store α) (key : String) : Option α :=
  (s.entries.find? (·.1 = key)).map (·.2)

/-- The store with that value under the key, instead of any other. -/
def put (s : Store α) (key : String) (value : α) : Store α :=
  ⟨s.entries.filter (·.1 ≠ key) ++ [(key, value)]⟩

/-- How many keys have a value. -/
def size (s : Store α) : Nat := s.entries.length

def ofList (entries : List (String × α)) : Store α :=
  entries.foldl (fun s e => s.put e.1 e.2) empty

theorem get?_empty (key : String) : (empty : Store α).get? key = none := rfl

theorem find?_filter_ne (entries : List (String × α)) {key other : String} (h : other ≠ key) :
    (entries.filter (·.1 ≠ key)).find? (·.1 = other) = entries.find? (·.1 = other) := by
  induction entries with
  | nil => rfl
  | cons e entries ih =>
    by_cases he : e.1 = key
    · have hne : e.1 ≠ other := fun h' => h (h'.symm.trans he)
      rw [List.filter_cons_of_neg (by simpa using he), ih,
        List.find?_cons_of_neg (by simpa using hne)]
    · rw [List.filter_cons_of_pos (by simpa using he), List.find?_cons, List.find?_cons, ih]

theorem find?_filter_eq (entries : List (String × α)) (key : String) :
    (entries.filter (·.1 ≠ key)).find? (·.1 = key) = none := by
  rw [List.find?_eq_none]
  intro e he
  simpa using (List.mem_filter.1 he).2

theorem get?_put (s : Store α) (key other : String) (value : α) :
    (s.put key value).get? other = if other = key then some value else s.get? other := by
  unfold get? put
  rw [List.find?_append]
  by_cases h : other = key
  · subst h
    rw [find?_filter_eq, if_pos rfl]
    simp
  · rw [find?_filter_ne _ h, if_neg h, List.find?_cons_of_neg (by simpa using Ne.symm h)]
    simp

end Store

end AccessSync
