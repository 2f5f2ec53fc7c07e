import AccessSync.Proofs.Client.Calls
import AccessSync.Proofs.Rule.Edit
import AccessSync.Proofs.RuleSet.Serving
/-!
# Revoking twice

Several rules can be rules of the role that is asked for. A revocation takes the principal out of the
first that holds it, so it has to be made once for each: `revoke_takes_one` says what one leaves, and
that the next one finds nothing to do, says so and writes nothing, exactly if there was only one such rule.
-/

namespace AccessSync

/-- Whatever was read successfully in these events were those rules. -/
def Client.Finds (rules : List Rule) (es : List Event) : Prop :=
  ∀ request reply, ⟨.send request, some reply⟩ ∈ es → request.method = .get →
    ∀ found etag, Transport.content? readRuleSet reply = some (found, etag) → found = rules

/-- An edit that finds those rules writes and says what the edit of them comes to. -/
theorem Client.editRules_of_finds {c : Client} {scope : Scope} {target : AccessTarget}
    {edit : List Rule → Bool × List Rule} {rules : List Rule} {es : List Event}
    {r : Option (Except Halt Bool)} (h : (c.editRules scope target edit).Does es r)
    (hf : Finds rules es) :
    ((∃ ev ∈ es, ev.IsPut) → (edit rules).1 = true) ∧ ∀ b, r = some (.ok b) → b = (edit rules).1 := by
  rcases does_editRules h with ⟨r', hx, hr⟩ | ⟨found, rateLimit, xs, ys, rfl, hx, hy⟩
  · constructor
    · rintro ⟨ev, hev, hput⟩
      exact absurd hput (not_put_of_listRules hx ev hev)
    · intro b hb
      rcases hr with ⟨-, rfl⟩ | ⟨e, -, rfl⟩ <;> cases hb
  have hput := not_put_of_listRules hx
  obtain ⟨told, prep, request, reply, now, own, rfl, -, hreads, hd⟩ := does_listRules_ok hx
  obtain rfl := hf request reply (by simp) hreads.method found own (Transport.content?_of_decode hd)
  rcases hy with ⟨hedit, rfl, rfl⟩ | ⟨hedit, r', -, rfl⟩
  · constructor
    · rintro ⟨ev, hev, h⟩
      exact absurd h (hput ev (by simpa using hev))
    · intro b hb
      cases hb
      exact hedit.symm
  · refine ⟨fun _ => hedit, ?_⟩
    intro b hb
    rw [hedit]
    rcases r' with _ | _ | _ <;> cases hb
    rfl

namespace Rule

/-- Rules of one role in two spellings of a part of its name. -/
def twice : List Rule :=
  [⟨["users/alice"], "roles/marketplace.admin"⟩, ⟨["users/alice"], "roles/marketplace.admin.viewer"⟩]

/-- A revocation need not be complete. -/
theorem revoke_leaves_others : ¬∀ (m : RoleMatch) (p : PrincipalName) (rules : List Rule),
    p.key ≠ "" → '/' ∉ p.key.toList → (revoke m p rules).1 = true →
    ∀ r ∈ (revoke m p rules).2, m.accepts r.role = true → r.holds p = false := by
  intro h
  have := h (.containing "marketplace.admin") ⟨.user, "alice"⟩ twice
    (by decide) (by decide) (by decide +kernel)
  revert this
  decide +kernel

/-- A revocation that changes anything takes the principal out of the first rule that matches and
holds it. The matching rules that hold it are one less then; none is left, and the next revocation
changes nothing, exactly if there was only that one. Whatever the next one is answered, it writes nothing
then if it reads those rules; made to a peer that keeps them, it comes back with that. -/
theorem revoke_takes_one {m : RoleMatch} {p : PrincipalName} {rules : List Rule}
    (h : (revoke m p rules).1 = true) :
    (∃ before r after, rules = before ++ r :: after ∧ (∀ x ∈ before, x.grants m p = false) ∧
      r.grants m p = true ∧ (revoke m p rules).2 = before ++ r.without p ++ after) ∧
    (revoke m p rules).2.countP (grants m p) + 1 = rules.countP (grants m p) ∧
    ((∀ r ∈ (revoke m p rules).2, m.accepts r.role = true → r.holds p = false) ↔
      rules.countP (grants m p) = 1) ∧
    (rules.countP (grants m p) = 1 →
      revoke m p (revoke m p rules).2 = (false, (revoke m p rules).2)) ∧
    (∀ (c : Client) (scope : Scope) (target : AccessTarget) (es : List Event)
      (r : Option (Except Halt Bool)), (c.revokeRole scope target m p).Does es r →
      Client.Finds (revoke m p rules).2 es →
      ((∃ ev ∈ es, ev.IsPut) → rules.countP (grants m p) ≠ 1) ∧
      ∀ b, r = some (.ok b) → (b = false ↔ rules.countP (grants m p) = 1)) ∧
    ∀ {σ : Type} (w : World σ) (c : Client) (scope : Scope) (target : AccessTarget)
      (stored : σ → List Rule) (st : Memory × σ), w.KeepsRules c scope target stored →
      stored st.2 = (revoke m p rules).2 →
      (w.ChangesNothing stored (c.revokeRole scope target m p) st ↔ rules.countP (grants m p) = 1) := by
  have hcount := countP_revoke h
  have hnone : (∀ r ∈ (revoke m p rules).2, r.grants m p = false) ↔
      rules.countP (grants m p) = 1 := by
    rw [← hcount, Nat.add_eq_right, List.countP_eq_zero]
    simp only [Bool.not_eq_true]
  have hfst : (revoke m p (revoke m p rules).2).1 = false ↔ rules.countP (grants m p) = 1 :=
    revoke_fst_eq_false_iff.trans hnone
  refine ⟨?_, hcount, ?_, fun hone => revoke_of_none (hnone.2 hone), ?_, ?_⟩
  · rcases none_or_first m p rules with hn | ⟨before, r, after, rfl, hb, hr⟩
    · rw [revoke_of_none hn] at h
      cases h
    · exact ⟨before, r, after, rfl, hb, hr, by rw [revoke_eq hb hr]⟩
  · simpa only [grants_eq_false_iff] using hnone
  · intro c scope target es r hd hf
    obtain ⟨hput, hvalue⟩ := Client.editRules_of_finds hd hf
    constructor
    · intro hp hone
      rw [hfst.2 hone] at hput
      exact absurd (hput hp) (by decide)
    · intro b hb
      rw [hvalue b hb, hfst]
  · intro σ w c scope target stored st hkeeps hstored
    rw [Client.revokeRole, Client.changesNothing_editRules_iff hkeeps, hstored, hfst]

theorem revoke_takes_one_of_two :
    (revoke (.containing "marketplace.admin") ⟨.user, "alice"⟩ twice).1 = true ∧
    (revoke (.containing "marketplace.admin") ⟨.user, "alice"⟩ twice).2.countP
        (grants (.containing "marketplace.admin") ⟨.user, "alice"⟩) + 1 =
      twice.countP (grants (.containing "marketplace.admin") ⟨.user, "alice"⟩) := by
  have h : (revoke (.containing "marketplace.admin") ⟨.user, "alice"⟩ twice).1 = true := by
    decide +kernel
  exact ⟨h, (revoke_takes_one h).2.1⟩

end Rule

end AccessSync
