import AccessSync.Proofs.Rule.Grant
import AccessSync.Proofs.Rule.RoleMatch
import AccessSync.Proofs.RuleSet.Revocation
/-!
# Granting twice

A grant writes the name of the principal, and later calls look for it by reading the entries again.
`granted_is_found`: for a name that can be read this works, so a second grant says that nothing has changed
and writes nothing, and a revocation takes the principal out. A name whose key is empty or holds a slash is
written by every grant and found by no call.
-/

namespace AccessSync

namespace Rule

/-- The rules have what was granted: no grant of it changes them or is written, one made to a peer that keeps
them comes back with that, and a revocation changes them and is written. -/
structure Settled (m : RoleMatch) (newRole : String) (p : PrincipalName) (rules : List Rule) :
    Prop where
  grant : grant m newRole p rules = (false, rules)
  revoke : (revoke m p rules).1 = true
  grantRole : ∀ (c : Client) (scope : Scope) (target : AccessTarget) (es : List Event)
    (r : Option (Except Halt Bool)), (c.grantRole scope target m newRole p).Does es r →
    Client.Finds rules es → (∀ ev ∈ es, ¬ev.IsPut) ∧ ∀ b, r = some (.ok b) → b = false
  served : ∀ {σ : Type} (w : World σ) (c : Client) (scope : Scope) (target : AccessTarget)
    (stored : σ → List Rule) (st : Memory × σ), w.KeepsRules c scope target stored → stored st.2 = rules →
    w.ChangesNothing stored (c.grantRole scope target m newRole p) st
  revokeRole : ∀ (c : Client) (scope : Scope) (target : AccessTarget) (es : List Event)
    (r : Option (Except Halt Bool)), (c.revokeRole scope target m p).Does es r →
    Client.Finds rules es → ∀ b, r = some (.ok b) → b = true ∧ ∃ ev ∈ es, ev.IsPut

variable {m : RoleMatch} {newRole : String} {p : PrincipalName} {rules : List Rule}

theorem settled_of_grants {r : Rule} (hr : r ∈ rules) (h : r.grants m p = true) :
    Settled m newRole p rules := by
  have hgrant : grant m newRole p rules = (false, rules) := grant_of_held hr h
  have hrevoke : (revoke m p rules).1 = true := by
    rw [← Bool.not_eq_false, revoke_fst_eq_false_iff]
    intro hnone
    rw [hnone r hr] at h
    cases h
  refine ⟨hgrant, hrevoke, ?_, ?_, ?_⟩
  · intro c scope target es r hd hf
    obtain ⟨hput, hvalue⟩ := Client.editRules_of_finds hd hf
    rw [hgrant] at hput hvalue
    constructor
    · intro ev hev hp
      have := hput ⟨ev, hev, hp⟩
      cases this
    · exact hvalue
  · intro σ w c scope target stored st hkeeps hstored
    rw [Client.grantRole, Client.changesNothing_editRules_iff hkeeps, hstored, hgrant]
  · intro c scope target es r hd hf b hb
    obtain ⟨-, hvalue⟩ := Client.editRules_of_finds hd hf
    obtain rfl : b = true := (hvalue b hb).trans hrevoke
    subst hb
    exact ⟨rfl, Client.put_of_editRules_true hd⟩

/-- The text of the principal stands in a matching rule after a grant that changed something. -/
theorem exists_text_of_grant (hm : m.accepts newRole = true)
    (h : (grant m newRole p rules).1 = true) :
    ∃ r ∈ (grant m newRole p rules).2, m.accepts r.role = true ∧ p.text ∈ r.principals := by
  rcases grant_cases m newRole p rules with ⟨-, hg⟩ | ⟨-, ⟨r, hr, hacc⟩, hg⟩ | ⟨-, hg⟩
  · rw [hg] at h
    cases h
  · rw [hg]
    refine ⟨r.addTo m p, List.mem_map_of_mem hr, ?_, ?_⟩
    · rw [role_addTo]
      exact hacc
    · rw [addTo_of_accepts hacc]
      simp [add]
  · rw [hg]
    exact ⟨⟨[p.text], newRole⟩, by simp, hm, by simp⟩

/-- Where a principal cannot be found, a grant writes it once more into the rule that has it. -/
theorem two_le_count_of_grant (hnone : ∀ r ∈ rules, r.grants m p = false) {r : Rule} (hr : r ∈ rules)
    (hacc : m.accepts r.role = true) (hmem : p.text ∈ r.principals) :
    ∃ r ∈ (grant m newRole p rules).2, m.accepts r.role = true ∧ 2 ≤ r.principals.count p.text := by
  rcases grant_cases m newRole p rules with ⟨⟨s, hs, hheld⟩, -⟩ | ⟨-, -, hg⟩ | ⟨hunmatched, -⟩
  · rw [hnone s hs] at hheld
    cases hheld
  · rw [hg]
    refine ⟨r.addTo m p, List.mem_map_of_mem hr, ?_, ?_⟩
    · rw [role_addTo]
      exact hacc
    · have hone : 1 ≤ r.principals.count p.text := List.one_le_count_iff.2 hmem
      rw [addTo_of_accepts hacc, add, List.count_append, List.count_singleton_self]
      omega
  · rw [hunmatched r hr] at hacc
    cases hacc

/-- A grant that has changed the rules is found by the next grant and by a revocation exactly if the
name of the principal can be read; otherwise the next grant writes it a second time and a revocation
finds nothing. The role that is made always matches the role that is asked for. -/
theorem granted_is_found (hm : m.accepts newRole = true) (h : (grant m newRole p rules).1 = true) :
    (p.Readable → Settled m newRole p (grant m newRole p rules).2) ∧
    (¬p.Readable →
      (grant m newRole p (grant m newRole p rules).2).1 = true ∧
      (∃ r ∈ (grant m newRole p (grant m newRole p rules).2).2,
        m.accepts r.role = true ∧ 2 ≤ r.principals.count p.text) ∧
      revoke m p (grant m newRole p rules).2 = (false, (grant m newRole p rules).2)) ∧
    ∀ slug, (RoleMatch.exact slug).accepts slug = true ∧
      (RoleMatch.containing slug).accepts (RoleMatch.qualify slug) = true := by
  refine ⟨?_, ?_, ?_⟩
  · intro hp
    obtain ⟨r, hr, hheld⟩ := exists_grants_grant rules hp hm
    exact settled_of_grants hr hheld
  · intro hp
    have hnone : ∀ r ∈ (grant m newRole p rules).2, r.grants m p = false :=
      fun r _ => grants_of_not_readable hp r
    obtain ⟨r, hr, hacc, hmem⟩ := exists_text_of_grant hm h
    exact ⟨grant_fst_eq_true_iff.2 hnone, two_le_count_of_grant hnone hr hacc hmem,
      revoke_of_none hnone⟩
  · intro slug
    exact ⟨RoleMatch.accepts_exact_self slug, RoleMatch.accepts_containing_qualify slug⟩

theorem granted_is_found_by_name :
    (grant (.exact "group.manager") "group.manager" ⟨.user, "alice"⟩ []).1 = true ∧
    Settled (.exact "group.manager") "group.manager" ⟨.user, "alice"⟩
      (grant (.exact "group.manager") "group.manager" ⟨.user, "alice"⟩ []).2 ∧
    revoke (.exact "group.manager") ⟨.group, "sales/emea"⟩
        (grant (.exact "group.manager") "group.manager" ⟨.group, "sales/emea"⟩ []).2 =
      (false, [⟨["groups/sales/emea"], "group.manager"⟩]) := by
  have hm : (RoleMatch.exact "group.manager").accepts "group.manager" = true := by decide +kernel
  have halice : (grant (.exact "group.manager") "group.manager" ⟨.user, "alice"⟩ []).1 = true := rfl
  have hsales :
      (grant (.exact "group.manager") "group.manager" ⟨.group, "sales/emea"⟩ []).1 = true := rfl
  exact ⟨halice, (granted_is_found hm halice).1 (by decide),
    ((granted_is_found hm hsales).2.1 (by decide)).2.2⟩

/-- A group whose name holds a slash is granted twice and cannot be revoked. -/
theorem grant_repeats : ¬∀ (m : RoleMatch) (newRole : String) (p : PrincipalName) (rules : List Rule),
    m.accepts newRole = true → (grant m newRole p rules).1 = true →
    grant m newRole p (grant m newRole p rules).2 = (false, (grant m newRole p rules).2) ∧
    (revoke m p (grant m newRole p rules).2).1 = true := by
  intro h
  obtain ⟨hgrant, -⟩ := h (.exact "group.manager") "group.manager" ⟨.group, "sales/emea"⟩ []
    (by decide +kernel) rfl
  revert hgrant
  decide +kernel

end Rule

end AccessSync
