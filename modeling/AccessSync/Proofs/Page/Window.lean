import AccessSync.Page.Window
import AccessSync.Proofs.Page.Stack
/-!
# Windows follow one another

A token leads back to the place it was made for: the empty one to the beginning (`resume_empty`), that
of a stack to the position in its top frame (`resume_token`). The window after a page begins behind
the page, and there is none if nothing is left: `nextStart_eq`.
-/

namespace AccessSync

/-- The text of a frame stands for that position; no text is the beginning. -/
def StandsFor (text : String) (position : Nat) : Prop :=
  text = "" ∧ position = 1 ∨ text = Text.ofNat position ∧ position ≤ Nat.pow 2 32 - 1

namespace PageStack

/-- Without a token a listing begins. -/
theorem resume_empty (resourceType : String) :
    resume "" resourceType = .ok (ofFrames [.ofType resourceType], 1) := rfl

theorem start_of_standsFor {frame : PageFrame} {position : Nat} (h : StandsFor frame.token position)
    (below : List PageFrame) :
    (ofFrames (frame :: below)).start = .ok (UInt32.ofNat position) := by
  have htoken : (ofFrames (frame :: below)).pageToken = frame.token := rfl
  unfold start
  rw [htoken]
  rcases h with ⟨hempty, hposition⟩ | ⟨htext, hle⟩
  · rw [if_pos hempty, hposition]
    rfl
  · rw [if_neg (htext ▸ Text.ofNat_ne_empty position), htext, Text.readNat_ofNat hle]

/-- The token of a stack leads to the stack and to the position in its top frame. -/
theorem resume_token {frame : PageFrame} {below : List PageFrame} {position : Nat}
    (h : StandsFor frame.token position) (resourceType : String) :
    resume (ofFrames (frame :: below)).token resourceType =
      .ok (ofFrames (frame :: below), UInt32.ofNat position) := by
  have hread := ofToken_token (wellFormed_ofFrames (frame :: below))
  have hstart := start_of_standsFor h below
  unfold resume
  rw [hread]
  change (do return (ofFrames (frame :: below), ← (ofFrames (frame :: below)).start)) = _
  rw [hstart]
  rfl

/-- The token leads to that position of a listing of that type, above those frames. -/
def LeadsTo (token defaultType resourceType : String) (below : List PageFrame) (position : Nat) : Prop :=
  ∃ text, resume token defaultType =
    .ok (ofFrames (⟨text, resourceType, ""⟩ :: below), UInt32.ofNat position)

theorem leadsTo_empty (resourceType : String) : LeadsTo "" resourceType resourceType [] 1 :=
  ⟨"", resume_empty resourceType⟩

/-- A frame at the beginning of its listing is led to by the token of its stack. -/
theorem leadsTo_ofType (defaultType resourceType : String) (below : List PageFrame) :
    LeadsTo (ofFrames (.ofType resourceType :: below)).token defaultType resourceType below 1 :=
  ⟨"", resume_token (.inl ⟨rfl, rfl⟩) defaultType⟩

theorem token_advanceHead_ne_empty (position : Nat) (frame : PageFrame) (below : List PageFrame) :
    (ofFrames (advanceHead (Text.ofNat position) frame below)).token ≠ "" := by
  rw [advanceHead, if_neg (Text.ofNat_ne_empty position)]
  exact token_ne_empty rfl

/-- A top frame that has moved on to a position is led to there. -/
theorem leadsTo_advanceHead {position : Nat} (h : position ≤ Nat.pow 2 32 - 1)
    (text defaultType resourceType : String) (below : List PageFrame) :
    LeadsTo (ofFrames (advanceHead (Text.ofNat position) ⟨text, resourceType, ""⟩ below)).token
      defaultType resourceType below position := by
  rw [advanceHead, if_neg (Text.ofNat_ne_empty position)]
  exact ⟨Text.ofNat position, resume_token (.inr ⟨rfl, h⟩) defaultType⟩

end PageStack

/-- After a page of a listing that has more, the next one begins behind it. -/
theorem nextStart_eq {start total : UInt32} {before returned : Nat} (hstart : start.toNat = before + 1)
    (hle : before + returned ≤ total.toNat) (htotal : total.toNat < Nat.pow 2 32 - 1)
    (hpositive : returned = 0 → before = total.toNat) :
    nextStart start returned total =
      if before + returned = total.toNat then "" else Text.ofNat (before + returned + 1) := by
  have hafter : (after start returned).toNat = before + returned + 1 := by
    unfold after
    rw [UInt32.toNat_ofNat', hstart]
    simp only [Nat.pow_eq] at htotal ⊢
    omega
  have hlast : returned = 0 ∨ total < after start returned ↔ before + returned = total.toNat := by
    rw [UInt32.lt_iff_toNat_lt, hafter]
    omega
  unfold nextStart
  simp only [hlast, hafter]

end AccessSync
