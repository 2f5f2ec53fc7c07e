import AccessSync.Proofs.Sync.Operations
/-!
# Runs of operations

A `Run` is one operation after the other in a world, each with what came of it. What every operation
keeps holds after every run (`Run.inv`). One such thing is that all groups that are remembered are named
as a listing under a certain resource names them, provided groups are listed under no other
(`Run.listedUnder`).
-/

namespace AccessSync

/-- Every group that is remembered stands under its own id and is named as a listing under that resource
names it. -/
def Store.ListedUnder (groups : Store Resource) (parent : ResourceId) : Prop :=
  groups.Every fun id group => group.id = .ofType .group (ResourceId.groupPath id (some parent))

namespace Sync

variable {σ : Type} {w : World σ} {c : Client} {allowed : List String} {st st₁ st' : Memory × σ}

/-- A group is remembered only as it is listed. So if all groups that an operation may list are as they
should be, then those that are remembered still are when it has ended. -/
theorem keeps_every {op : Operation} {L : ResourceId → Prop} {P : String → Resource → Prop}
    {result : Except Halt op.Result}
    (hP : ∀ parent id group, L parent → group.id = .ofType .group (ResourceId.groupPath id (some parent)) →
      P id group)
    (hop : op.ListsUnder L) (h : w.Ends (op.call c allowed) st result st') (hst : st.1.groups.Every P) :
    st'.1.groups.Every P := by
  refine h.keeps_every (always_operation c allowed hop ?_ fun _ h => h.remembersAs P) hst
  intro e answer he
  cases e with
  | writeGroup id group =>
    obtain ⟨parent, hparent, hid⟩ := he
    exact hP parent id group hparent hid
  | _ => exact trivial

/-- An operation and what came of it. -/
structure Step where
  op : Operation
  result : Except Halt op.Result

/-- From one state of the client and the world to another, by these steps. -/
inductive Run (w : World σ) (c : Client) (allowed : List String) (start : Memory × σ) :
    List Step → Memory × σ → Prop
  | nil : Run w c allowed start [] start
  | step {log : List Step} {st st' : Memory × σ} {op : Operation} {result : Except Halt op.Result} :
      Run w c allowed start log st → w.Ends (op.call c allowed) st result st' →
      Run w c allowed start (log ++ [⟨op, result⟩]) st'

/-- What every operation keeps holds after every run. -/
theorem Run.inv {I : Memory × σ → Prop} {P : Operation → Prop} {log : List Step}
    (hstep : ∀ op st result st', P op → w.Ends (op.call c allowed) st result st' → I st → I st')
    (h : Run w c allowed st log st') (hlog : ∀ step ∈ log, P step.op) (hst : I st) : I st' := by
  induction h with
  | nil => exact hst
  | @step log _ _ op result hrun hends ih =>
    have hbefore : I _ := ih fun step hmem => hlog step (List.mem_append_left _ hmem)
    exact hstep op _ result _ (hlog ⟨op, result⟩ (by simp)) hends hbefore

/-- Every step of a run was done somewhere. -/
theorem Run.done {log : List Step} (h : Run w c allowed st log st') {s : Step} (hmem : s ∈ log) :
    ∃ st₁ st₂, w.Ends (s.op.call c allowed) st₁ s.result st₂ := by
  induction h with
  | nil => cases hmem
  | @step log st₁ st₂ op result hrun hends ih =>
    rcases List.mem_append.1 hmem with hmem | hmem
    · exact ih hmem
    · rw [List.mem_singleton] at hmem
      subst hmem
      exact ⟨st₁, st₂, hends⟩

theorem Run.every {log : List Step} {L : ResourceId → Prop} {P : String → Resource → Prop}
    (hP : ∀ parent id group, L parent → group.id = .ofType .group (ResourceId.groupPath id (some parent)) →
      P id group)
    (h : Run w c allowed st log st') (hlog : ∀ step ∈ log, step.op.ListsUnder L)
    (hst : st.1.groups.Every P) : st'.1.groups.Every P :=
  h.inv (I := fun st => st.1.groups.Every P) (fun _ _ _ _ hop hends hst => keeps_every hP hop hends hst) hlog hst

theorem Run.listedUnder {log : List Step} {parent : ResourceId} (h : Run w c allowed st log st')
    (hlog : ∀ step ∈ log, step.op.ListsUnder (· = parent)) (hst : st.1.groups.ListedUnder parent) :
    st'.1.groups.ListedUnder parent := by
  refine h.every ?_ hlog hst
  rintro _ id group rfl hid
  exact hid

/-- A listing of the run returned that resource for the group with that id. -/
def ListedIn (log : List Step) (id : String) (resource : Resource) : Prop :=
  ∃ parent token page, (⟨.list .group parent token, .ok page⟩ : Step) ∈ log ∧ resource ∈ page.items ∧
    resource.profile.text? "group_id" = some id

end Sync

end AccessSync
