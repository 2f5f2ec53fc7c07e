import AccessSync.Proofs.Connector.Tasks
import AccessSync.Proofs.Transport.Calendar
/-!
# Tasks that come to an end

A task concludes if it has a value or an error. What keeps it from that is the calendar alone: a task
concludes exactly if none of the replies that it received names a time beyond it (`tasks_conclude`). There
are such replies, and a listing that receives one does not conclude (`listing_does_not_conclude`).
-/

namespace AccessSync

variable {α σ : Type}

/-- The call came to a value or to an error. -/
def Concludes (result : Except Halt α) : Prop := (∃ a, result = .ok a) ∨ ∃ e, result = .error (.error e)

instance : (result : Except Halt α) → Decidable (Concludes result)
  | .ok a => isTrue (.inl ⟨a, rfl⟩)
  | .error (.error e) => isTrue (.inr ⟨e, rfl⟩)
  | .error .beyondCalendar => isFalse (by rintro (⟨_, h⟩ | ⟨_, h⟩) <;> cases h)

theorem concludes_iff {result : Except Halt α} : Concludes result ↔ result ≠ .error .beyondCalendar := by
  rcases result with (e | _) | a <;> simp [Concludes]

namespace Client

variable {c : Client} {x : Call α}

theorem Composed.unclocked (h : c.Composed x) : x.BeginsUnclocked := by
  induction h with
  | pure => exact Call.unclocked_pure
  | fail => exact Call.unclocked_fail
  | @perform e he =>
    refine Call.unclocked_perform ?_
    rintro rfl
    exact he
  | exchange => exact Transport.exchange_unclocked
  | bind _ _ ihx ihf => exact ihx.bind ihf
  | attempt _ ih => exact ih.attempt

/-- Only an untimely reply stops what is made of exchanges. -/
theorem Composed.stops (h : c.Composed x) : x.StopsUntimely c.credentials := by
  induction h with
  | pure => exact Call.stops_pure
  | fail => exact Call.stops_fail
  | perform => exact Call.stops_perform
  | exchange => exact Transport.exchange_stops
  | bind _ hf ihx ihf => exact ihx.bind ihf fun a => (hf a).unclocked
  | attempt _ ih => exact ih.attempt

end Client

namespace Connector

/-- Whatever the peer answers and whatever is remembered, a task concludes exactly if none of the replies to
it was untimely. -/
theorem tasks_conclude (c : Connector) (task : Task) (w : World σ) (st : Memory × σ) :
    Concludes (w.run (task.call c).run st).1 ↔
      ¬Transport.Untimely c.client.credentials (w.events (task.call c).run st) := by
  have hstops := (composed_task c task).stops _ _ (w.call_does_events (task.call c) st)
  rw [concludes_iff, ne_eq, hstops]

/-! ## A quota that ends beyond the calendar -/

/-- A configuration with a user, for an account at `http://h`. -/
def userConfig : Config where
  accountId := "a"
  hostname := "h"
  accountHostname := none
  clientId := none
  clientSecret := none
  username := some "u"
  password := some ⟨"p"⟩
  workspaces := []
  workspaceTokens := []
  accountBaseUrl := some Client.plain.resolver.accountBase
  workspaceBaseUrl := none
  timeoutSecs := 30

/-- A peer that has no workspaces and tells to come back as late as can be written. -/
def patient : World Unit where
  now _ := ⟨0⟩
  answer _ _ := (some ⟨⟨200⟩, [("Retry-After", "9223372036854775807")], some (Utf8.encode "[]".toList)⟩, ())

/-- So it is not true of all valid configurations that all tasks conclude whatever is answered. -/
theorem listing_does_not_conclude :
    ¬∀ (config : Config) (c : Connector), ofConfig config = .ok c →
      ∀ (task : Task) (w : World Unit) (st : Memory × Unit), Concludes (w.run (task.call c).run st).1 := by
  intro h
  have hconfig : ofConfig userConfig = .ok ⟨userConfig, ⟨⟨"a", Client.plain.resolver.accountBase, .subdomain "h"⟩,
      .basic "u" ⟨"p"⟩⟩⟩ := rfl
  have hlisting := h _ _ hconfig (.operation (.client .listWorkspaces)) patient (Memory.fresh, ())
  revert hlisting
  decide +kernel

end Connector

end AccessSync
