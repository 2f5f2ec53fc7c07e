import AccessSync.Page.Stack
import AccessSync.Proofs.Json.Record
import AccessSync.Proofs.Json.Rereading
/-!
# Page stacks are lists of frames

The frames of a stack are a plain list, topmost first (`toList`), as long as a stack without a top frame
has no frame below (`WellFormed`). The text of such a stack is read as the stack, and is empty only
if the stack is (`ofToken_token`, `token_eq_empty_iff`). So whatever is done with a stack, and however
often it travels as text in between, it answers as the list does: `run_is_list`.
-/

namespace AccessSync

/-! ## Stacks as text -/

theorem PageFrame.read_toJson (f : PageFrame) : read f.toJson = some f := by
  simp [read, toJson, Json.record?, Record.select?, Record.field, Record.get?, Json.string?]

namespace PageStack

variable {s : PageStack}

theorem read_toJson (s : PageStack) : read s.toJson = some s := by
  have hsaved : Json.list? PageFrame.read (Json.ofList PageFrame.toJson s.saved.reverse) =
      some s.saved.reverse := Json.list?_ofList PageFrame.read_toJson _
  have hcurrent : Json.nullable? PageFrame.read (Json.ofOption PageFrame.toJson s.current) =
      some s.current := by
    cases hframe : s.current with
    | none => rfl
    | some frame =>
      change (PageFrame.read frame.toJson).map some = some (some frame)
      rw [PageFrame.read_toJson, Option.map_some]
  simp [read, toJson, Json.record?, Record.select?, Record.field, Record.get?, hsaved, hcurrent]

theorem isPlain_toJson (s : PageStack) : s.toJson.isPlain = true := by
  have hsaved : (Json.ofList PageFrame.toJson s.saved.reverse).isPlain = true :=
    Json.isPlain_ofList (fun _ => rfl) _
  have hcurrent : (Json.ofOption PageFrame.toJson s.current).isPlain = true := by
    cases s.current <;> rfl
  simp [toJson, Json.isPlain, Json.fieldsPlain, hsaved, hcurrent]

/-- No frame waits below a place where there is none. -/
def WellFormed (s : PageStack) : Prop := s.current = none → s.saved = []

/-- The stack of these frames, topmost first. -/
def ofFrames (frames : List PageFrame) : PageStack := ⟨frames.head?, frames.tail⟩

theorem wellFormed_ofFrames (frames : List PageFrame) : (ofFrames frames).WellFormed := by
  cases frames with
  | nil => exact fun _ => rfl
  | cons frame frames => exact fun h => nomatch h

theorem toList_ofFrames (frames : List PageFrame) : (ofFrames frames).toList = frames := by
  cases frames <;> rfl

theorem token_ne_empty (h : s.current.isSome = true) : s.token ≠ "" := by
  intro hempty
  rw [token, if_pos h] at hempty
  have hnil := congrArg String.toList hempty
  rw [Json.toText, String.toList_ofList] at hnil
  cases hnil

/-- The empty token stands for the empty stack. -/
theorem token_eq_empty_iff (h : s.WellFormed) : s.token = "" ↔ s = empty := by
  constructor
  · intro htoken
    have hcurrent : s.current = none := by
      rw [← Option.not_isSome_iff_eq_none]
      exact fun hsome => token_ne_empty hsome htoken
    obtain ⟨current, saved⟩ := s
    exact congrArg₂ PageStack.mk hcurrent (h hcurrent)
  · rintro rfl
    rfl

/-- The text of a stack is read as the stack. -/
theorem ofToken_token (h : s.WellFormed) : ofToken s.token = .ok s := by
  unfold ofToken
  split_ifs with htoken
  · rw [(token_eq_empty_iff h).1 htoken]
  · have hcurrent : s.current.isSome = true := by
      by_contra hnone
      exact htoken (if_neg hnone)
    rw [token, if_pos hcurrent, Json.ofText_toText s.isPlain_toJson, Option.bind_some, read_toJson]

/-! ## What is done with a stack -/

/-- What can be done with a stack. -/
inductive Step where
  | push (frame : PageFrame)
  | pop
  | advance (token : String)
  /-- Advances and writes the token. -/
  | nextToken (token : String)
  /-- The stack is written as a token and read again. -/
  | travel

/-- What comes of it. -/
inductive Answer where
  | done
  | popped (frame : Option PageFrame)
  | token (text : String)
  | refused (fault : PageFault)

/-- One step of a stack; it stays as it is if the step is refused. -/
def act (s : PageStack) : Step → Answer × PageStack
  | .push frame => (.done, s.push frame)
  | .pop =>
    match s.pop? with
    | some (frame, below) => (.popped (some frame), below)
    | none => (.popped none, s)
  | .advance token =>
    match s.advance token with
    | .ok s => (.done, s)
    | .error fault => (.refused fault, s)
  | .nextToken token =>
    match s.nextToken token, s.advance token with
    | .ok text, .ok s => (.token text, s)
    | .error fault, _ | _, .error fault => (.refused fault, s)
  | .travel =>
    match ofToken s.token with
    | .ok s => (.done, s)
    | .error fault => (.refused fault, s)

/-- A list of frames whose first gets another token, or goes if that is empty. -/
def advanceHead (token : String) (frame : PageFrame) (below : List PageFrame) : List PageFrame :=
  if token = "" then below else { frame with token } :: below

/-- The same step of a list of frames. -/
def actList (frames : List PageFrame) : Step → Answer × List PageFrame
  | .push frame => (.done, frame :: frames)
  | .pop => (.popped frames.head?, frames.tail)
  | .advance token =>
    match frames with
    | [] => (.refused .noFrame, [])
    | frame :: below => (.done, advanceHead token frame below)
  | .nextToken token =>
    match frames with
    | [] => (.refused .noFrame, [])
    | frame :: below =>
      (.token (ofFrames (advanceHead token frame below)).token, advanceHead token frame below)
  | .travel => (.done, frames)

/-- The answers to the steps, and what there is after them. -/
def run {σ : Type} (act : σ → Step → Answer × σ) (s : σ) : List Step → List Answer × σ
  | [] => ([], s)
  | step :: steps =>
    let (answer, s) := act s step
    let (answers, s) := run act s steps
    (answer :: answers, s)

theorem pop?_ofFrames (frames : List PageFrame) :
    (ofFrames frames).pop? = frames.head?.map fun frame => (frame, ofFrames frames.tail) := by
  cases frames <;> rfl

theorem push_ofFrames (frame : PageFrame) (frames : List PageFrame) :
    (ofFrames frames).push frame = ofFrames (frame :: frames) := by
  rw [push, toList_ofFrames]
  rfl

theorem advance_nil (token : String) : (ofFrames []).advance token = .error .noFrame := rfl

theorem advance_cons (token : String) (frame : PageFrame) (below : List PageFrame) :
    (ofFrames (frame :: below)).advance token = .ok (ofFrames (advanceHead token frame below)) := by
  unfold advance advanceHead
  rw [pop?_ofFrames]
  dsimp only [List.head?_cons, Option.map_some, List.tail_cons]
  split_ifs
  · rfl
  · rw [push_ofFrames]

theorem nextToken_cons (token : String) (frame : PageFrame) (below : List PageFrame) :
    (ofFrames (frame :: below)).nextToken token = .ok (ofFrames (advanceHead token frame below)).token := by
  rw [nextToken, advance_cons]
  rfl

/-- A stack does what the list of its frames does. -/
theorem act_ofFrames (frames : List PageFrame) (step : Step) :
    (ofFrames frames).act step = ((actList frames step).1, ofFrames (actList frames step).2) := by
  cases step with
  | push frame => rw [act, push_ofFrames]; rfl
  | pop =>
    rw [act, pop?_ofFrames]
    cases frames <;> rfl
  | advance token =>
    cases frames with
    | nil => rw [act, advance_nil]; rfl
    | cons frame below => rw [act, advance_cons]; rfl
  | nextToken token =>
    cases frames with
    | nil => rw [act, nextToken, advance_nil]; rfl
    | cons frame below => rw [act, nextToken_cons, advance_cons]; rfl
  | travel =>
    rw [act, ofToken_token (wellFormed_ofFrames frames)]
    rfl

theorem run_ofFrames (frames : List PageFrame) (steps : List Step) :
    run act (ofFrames frames) steps =
      ((run actList frames steps).1, ofFrames (run actList frames steps).2) := by
  induction steps generalizing frames with
  | nil => rfl
  | cons step steps ih =>
    have hrest := ih (actList frames step).2
    rw [run, act_ofFrames]
    dsimp only
    rw [hrest]
    rfl

/-- From the empty stack on, all steps answer as those of a list of frames do and leave its frames; the
stack can travel as text, and the empty token is that of the empty stack alone. -/
theorem run_is_list (steps : List Step) :
    ∃ s, run act empty steps = ((run actList [] steps).1, s) ∧ s.toList = (run actList [] steps).2 ∧
      (s.current = none → s.saved = []) ∧ ofToken s.token = .ok s ∧ (s.token = "" ↔ s = empty) := by
  have hwell := wellFormed_ofFrames (run actList [] steps).2
  exact ⟨_, run_ofFrames [] steps, toList_ofFrames _, hwell, ofToken_token hwell, token_eq_empty_iff hwell⟩

end PageStack

end AccessSync
