import AccessSync.Proofs.Page.Window
import Mathlib.Algebra.Order.Floor.Div
import Mathlib.Data.List.Range
/-!
# Windows cover a listing

A listing that does not change is fetched in windows: each begins where the token after the one before it
says (`Continues`), and there is none behind a token that is empty (`Windows`). Unless there are as many
objects as positions, the windows cover every position once and then end. With one object at each position
the position behind the last object is none, so `after` stops at the last object and its window follows
upon itself. Main statement: `windows_cover`.
-/

namespace AccessSync

/-- The last position. -/
def lastPosition : Nat := Nat.pow 2 32 - 1

variable {capacity : Nat} {total start next : UInt32}

/-- How many objects a window has that begins there, of a listing in windows of that size. -/
def windowSize (capacity : Nat) (total start : UInt32) : Nat := min capacity (total.toNat + 1 - start.toNat)

/-- The positions in the window. -/
def window (capacity : Nat) (total start : UInt32) : List Nat :=
  List.range' start.toNat (windowSize capacity total start)

/-- What is returned after the window to go on with. -/
def nextText (capacity : Nat) (total start : UInt32) : String :=
  nextStart start (windowSize capacity total start) total

/-- There is a window after this one, and a stack whose top frame has what was returned goes on with it. -/
def Continues (capacity : Nat) (total start next : UInt32) : Prop :=
  nextText capacity total start ≠ "" ∧
    ∀ s : PageStack, s.pageToken = nextText capacity total start → s.start = .ok next

/-- The windows from that one on, up to the one that no other comes after. -/
inductive Windows (capacity : Nat) (total : UInt32) : UInt32 → List (List Nat) → Prop
  | last {start : UInt32} : nextText capacity total start = "" →
      Windows capacity total start [window capacity total start]
  | more {start next : UInt32} {windows : List (List Nat)} : Continues capacity total start next →
      Windows capacity total next windows → Windows capacity total start (window capacity total start :: windows)

/-- The fetching of the windows comes to the one that begins there. -/
def ComesTo (capacity : Nat) (total start : UInt32) : Prop :=
  Relation.ReflTransGen (Continues capacity total) 1 start

/-! ## From one window to the next -/

/-- The window lies within the listing, or there are no objects at all. -/
def Lies (total start : UInt32) : Prop := 1 ≤ start.toNat ∧ (start.toNat ≤ total.toNat ∨ start.toNat = 1)

theorem toNat_after (hlies : Lies total start) :
    (after start (windowSize capacity total start)).toNat =
      min lastPosition (start.toNat + windowSize capacity total start) := by
  have hstart := start.toNat_lt
  have htotal := total.toNat_lt
  obtain ⟨hfirst, hlast⟩ := hlies
  unfold after windowSize lastPosition
  rw [UInt32.toNat_ofNat']
  simp only [Nat.pow_eq]
  omega

/-- There is another window if this one has objects and the position behind it holds one. -/
theorem nextText_cases (hlies : Lies total start) :
    (nextText capacity total start = "" ∧ (windowSize capacity total start = 0 ∨
      total.toNat < min lastPosition (start.toNat + windowSize capacity total start))) ∨
    (windowSize capacity total start ≠ 0 ∧
      min lastPosition (start.toNat + windowSize capacity total start) ≤ total.toNat ∧
      nextText capacity total start =
        Text.ofNat (min lastPosition (start.toNat + windowSize capacity total start))) := by
  unfold nextText nextStart
  simp only [UInt32.lt_iff_toNat_lt, toNat_after hlies]
  split_ifs with hends
  · exact .inl ⟨rfl, hends⟩
  · obtain ⟨hsome, hmore⟩ := not_or.1 hends
    exact .inr ⟨hsome, Nat.le_of_not_lt hmore, rfl⟩

/-- A stack starts at the position that its top frame names. -/
theorem start_of_pageToken {s : PageStack} {position : Nat} (htoken : s.pageToken = Text.ofNat position)
    (hle : position ≤ lastPosition) : s.start = .ok (UInt32.ofNat position) := by
  unfold PageStack.start
  have hread : Text.readNat (Nat.pow 2 32 - 1) (Text.ofNat position).toList = .ok position := Text.readNat_ofNat hle
  rw [htoken, if_neg (Text.ofNat_ne_empty position), hread]

/-- The next window begins behind this one, or at the last position if that is nearer. -/
theorem continues_iff (hlies : Lies total start) :
    Continues capacity total start next ↔ windowSize capacity total start ≠ 0 ∧
      next.toNat = min lastPosition (start.toNat + windowSize capacity total start) ∧ next.toNat ≤ total.toNat := by
  have hbound : min lastPosition (start.toNat + windowSize capacity total start) < UInt32.size :=
    Nat.lt_of_le_of_lt (Nat.min_le_left ..) (by decide)
  rcases @nextText_cases capacity _ _ hlies with ⟨htext, hends⟩ | ⟨hsome, hmore, htext⟩
  · refine ⟨fun h => absurd htext h.1, ?_⟩
    rintro ⟨hsome, hnext, hle⟩
    omega
  · constructor
    · rintro ⟨-, hstarts⟩
      have htoken := start_of_pageToken (s := ⟨some ⟨nextText capacity total start, "", ""⟩, []⟩) htext
        (Nat.min_le_left ..)
      have hnext := Except.ok.inj ((hstarts _ rfl).symm.trans htoken)
      rw [hnext, UInt32.toNat_ofNat_of_lt' hbound]
      exact ⟨hsome, rfl, hmore⟩
    · rintro ⟨-, hnext, -⟩
      refine ⟨htext ▸ Text.ofNat_ne_empty _, fun s hs => ?_⟩
      rw [start_of_pageToken (hs.trans htext) (Nat.min_le_left ..), ← hnext, UInt32.ofNat_toNat]

theorem Lies.follow (hlies : Lies total start) (h : Continues capacity total start next) : Lies total next := by
  obtain ⟨hsome, hnext, hle⟩ := (continues_iff hlies).1 h
  have hpositive : 1 ≤ lastPosition := by decide
  exact ⟨by omega, .inl hle⟩

/-- Every window that is come to lies within the listing. -/
theorem ComesTo.lies (h : ComesTo capacity total start) : Lies total start := by
  induction h with
  | refl => exact ⟨Nat.le_refl 1, .inr rfl⟩
  | tail _ hnext ih => exact ih.follow hnext

/-! ## Listings that end -/

/-- Behind the last objects there is no window. -/
theorem nextText_of_last (htotal : total.toNat < lastPosition) (hlies : Lies total start)
    (hlast : total.toNat < start.toNat + capacity) : nextText capacity total start = "" := by
  obtain ⟨hfirst, -⟩ := id hlies
  rcases @nextText_cases capacity _ _ hlies with ⟨htext, -⟩ | ⟨hsome, hmore, -⟩
  · exact htext
  · unfold windowSize at hsome hmore
    omega

/-- Where there are more objects, the next window begins directly behind this one. -/
theorem continues_of_more (hcapacity : 0 < capacity) (hlies : Lies total start)
    (hmore : start.toNat + capacity ≤ total.toNat) :
    ∃ next, Continues capacity total start next ∧ next.toNat = start.toNat + capacity := by
  have hbound : start.toNat + capacity < UInt32.size := Nat.lt_of_le_of_lt hmore total.toNat_lt
  have hvalue : (UInt32.ofNat (start.toNat + capacity)).toNat = start.toNat + capacity :=
    UInt32.toNat_ofNat_of_lt' hbound
  refine ⟨UInt32.ofNat (start.toNat + capacity), (continues_iff hlies).2 ?_, hvalue⟩
  have hlast : lastPosition + 1 = UInt32.size := by decide
  rw [hvalue]
  unfold windowSize
  omega

/-- The windows from one on cover what is left from there, and no fewer windows could. -/
theorem windows_from (hcapacity : 0 < capacity) (htotal : total.toNat < lastPosition) (hlies : Lies total start) :
    ∃ windows, Windows capacity total start windows ∧
      windows.flatten = List.range' start.toNat (total.toNat + 1 - start.toNat) ∧
      windows.length = max 1 ((total.toNat + 1 - start.toNat) ⌈/⌉ capacity) := by
  -- Every window but the last takes as many objects as it can from what is left.
  induction hleft : total.toNat + 1 - start.toNat using Nat.strong_induction_on generalizing start with
  | _ left ih =>
    by_cases hends : total.toNat < start.toNat + capacity
    · have hsize : windowSize capacity total start = left := by
        unfold windowSize
        omega
      have hone : left ⌈/⌉ capacity ≤ 1 := by
        rw [ceilDiv_le_iff_le_mul hcapacity]
        omega
      refine ⟨_, .last (nextText_of_last htotal hlies hends), ?_, ?_⟩
      · rw [List.flatten_singleton, window, hsize]
      · rw [List.length_singleton, Nat.max_eq_left hone]
    · obtain ⟨next, hnext, hposition⟩ := continues_of_more hcapacity hlies (Nat.le_of_not_lt hends)
      have hlies' : Lies total next := ⟨by omega, .inl (by omega)⟩
      obtain ⟨windows, hwindows, hcover, hlength⟩ := ih (left - capacity) (by omega) hlies' (by omega)
      have hsize : windowSize capacity total start = capacity := by
        unfold windowSize
        omega
      have hsplit : left = capacity + (left - capacity) := by omega
      refine ⟨_, .more hnext hwindows, ?_, ?_⟩
      · rw [List.flatten_cons, hcover, window, hsize, hposition, List.range'_append_1, ← hsplit]
      · have hpositive : 1 ≤ (left - capacity) ⌈/⌉ capacity := by
          rw [Nat.one_le_iff_ne_zero, ← Nat.pos_iff_ne_zero, Nat.ceilDiv_eq_add_pred_div]
          exact Nat.div_pos (by omega) hcapacity
        have hceil : left ⌈/⌉ capacity = (left - capacity) ⌈/⌉ capacity + 1 := by
          rw [Nat.ceilDiv_eq_add_pred_div, Nat.ceilDiv_eq_add_pred_div, ← Nat.add_div_right _ hcapacity]
          congr 1
          omega
        rw [List.length_cons, hlength, Nat.max_eq_right hpositive, hceil, Nat.max_eq_right (by omega)]

/-- Each window begins behind the one before it. -/
theorem lt_of_continues (htotal : total.toNat < lastPosition) (hlies : Lies total start)
    (h : Continues capacity total start next) : start < next := by
  obtain ⟨hsome, hnext, hle⟩ := (continues_iff hlies).1 h
  rw [UInt32.lt_iff_toNat_lt]
  omega

/-! ## A listing with an object at every position -/

section Full
variable (hcapacity : 0 < capacity) (htotal : total.toNat = lastPosition)
include hcapacity htotal

/-- Every window is followed by another one. -/
theorem continues_of_full (hlies : Lies total start) : ∃ next, Continues capacity total start next := by
  have hbound : min lastPosition (start.toNat + windowSize capacity total start) < UInt32.size :=
    Nat.lt_of_le_of_lt (Nat.min_le_left ..) (by decide)
  refine ⟨UInt32.ofNat (min lastPosition (start.toNat + windowSize capacity total start)),
    (continues_iff hlies).2 ?_⟩
  rw [UInt32.toNat_ofNat_of_lt' hbound]
  have hstart := start.toNat_lt
  have hlast : lastPosition + 1 = 2 ^ 32 := by decide
  unfold windowSize
  omega

theorem not_windows_of_full (hlies : Lies total start) (windows : List (List Nat)) :
    ¬Windows capacity total start windows := by
  intro h
  induction h with
  | last htext =>
    obtain ⟨next, hnext⟩ := continues_of_full hcapacity htotal hlies
    exact hnext.1 htext
  | more hnext _ ih => exact ih (hlies.follow hnext)

/-- The window at the last position follows upon itself. -/
theorem continues_last : Continues capacity total total total := by
  have hpositive : 1 ≤ lastPosition := by decide
  refine (continues_iff ⟨by omega, .inl (Nat.le_refl _)⟩).2 ?_
  unfold windowSize
  omega

/-- From every window on the last position is come to. -/
theorem comesTo_last (hlies : Lies total start) : Relation.ReflTransGen (Continues capacity total) start total := by
  induction hleft : lastPosition - start.toNat using Nat.strong_induction_on generalizing start with
  | _ left ih =>
    by_cases hlast : start = total
    · rw [hlast]
    · obtain ⟨next, hnext⟩ := continues_of_full hcapacity htotal hlies
      obtain ⟨hsome, hposition, -⟩ := (continues_iff hlies).1 hnext
      have hne : start.toNat ≠ total.toNat := fun h => hlast (UInt32.toNat_inj.1 h)
      have hstart := start.toNat_lt
      have hbound : lastPosition + 1 = 2 ^ 32 := by decide
      exact .head hnext (ih (lastPosition - next.toNat) (by omega) (hlies.follow hnext) rfl)

end Full

/-! ## Both -/

/-- Fetched in windows of any size, a listing that leaves a position free comes to its end: its positions are in
the windows once each and in order, there are no more windows than it takes, and each begins behind the one
before. A listing that leaves none free comes to its last position and has that again for ever. -/
theorem windows_cover (hcapacity : 0 < capacity) :
    (total.toNat < lastPosition →
      (∃ windows, Windows capacity total 1 windows ∧ windows.flatten = List.range' 1 total.toNat ∧
        windows.length = max 1 (total.toNat ⌈/⌉ capacity)) ∧
      ∀ start next, ComesTo capacity total start → Continues capacity total start next → start < next) ∧
    (total.toNat = lastPosition →
      (∀ windows, ¬Windows capacity total 1 windows) ∧ ComesTo capacity total total ∧
        Continues capacity total total total) := by
  have hfirst : Lies total 1 := ⟨Nat.le_refl 1, .inr rfl⟩
  refine ⟨fun htotal => ⟨?_, ?_⟩, fun htotal => ⟨?_, ?_, ?_⟩⟩
  · exact windows_from hcapacity htotal hfirst
  · exact fun start next hcomes hnext => lt_of_continues htotal hcomes.lies hnext
  · exact not_windows_of_full hcapacity htotal hfirst
  · exact comesTo_last hcapacity htotal hfirst
  · exact continues_last hcapacity htotal

/-- A hundred and twenty objects are in three windows, and the greatest number of objects in none that ends. -/
theorem windows_cover_fifty :
    (∃ windows, Windows pageSize.toNat 120 1 windows ∧ windows.flatten = List.range' 1 120 ∧ windows.length = 3) ∧
    ∀ windows, ¬Windows pageSize.toNat 4294967295 1 windows := by
  have hsize : 0 < pageSize.toNat := by decide
  have hsome : (120 : UInt32).toNat < lastPosition := by decide
  have hfull : (4294967295 : UInt32).toNat = lastPosition := by decide
  obtain ⟨windows, hwindows, hcover, hlength⟩ := ((windows_cover hsize).1 hsome).1
  exact ⟨⟨windows, hwindows, hcover, hlength⟩, ((windows_cover hsize).2 hfull).1⟩

/-- With an object at each position, the text behind the last one names the last one again. -/
theorem last_window_repeats :
    windowSize pageSize.toNat 4294967295 4294967295 = 1 ∧
    nextStart 4294967295 1 4294967295 = "4294967295" ∧
    Continues pageSize.toNat 4294967295 4294967295 4294967295 ∧
    ∀ windows, ¬Windows pageSize.toNat 4294967295 1 windows := by
  have hsize : 0 < pageSize.toNat := by decide
  have hfull : (4294967295 : UInt32).toNat = lastPosition := by decide
  have hfirst : Lies 4294967295 1 := ⟨Nat.le_refl 1, .inr rfl⟩
  exact ⟨by decide, by decide +kernel, continues_last hsize hfull, not_windows_of_full hsize hfull hfirst⟩

end AccessSync
