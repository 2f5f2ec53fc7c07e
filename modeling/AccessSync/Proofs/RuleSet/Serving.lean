import AccessSync.Proofs.Json.Record
import AccessSync.Proofs.RuleSet.Calls
import AccessSync.Proofs.Transport.Serving
/-!
# Calls on a rule set that is served

A peer that keeps the rules of a target answers reads with them, and what a successful write carries
is what it has from then on (`World.KeepsRules`). With such a peer a read has the rules
(`listRules_ends`), a successful edit leaves what it makes of them (`editRules_ok`), and an edit that makes
nothing new of them says so and writes nothing (`changesNothing_editRules_iff`).
-/

namespace AccessSync

/-! ## What a write carries -/

theorem Rule.read_toJson (r : Rule) : Rule.read r.toJson = some r := by
  have hprincipals : Json.list? Json.string? (Json.ofList Json.string r.principals) = some r.principals :=
    Json.list?_ofList (fun _ : String => rfl) r.principals
  simp [Rule.read, toJson, Json.record?, Record.select?, Record.field, Record.required, Record.get?,
    hprincipals, Json.string?]

/-- The rules in the body of a write. -/
def Http.Body.rules? : Http.Body → Option (List Rule)
  | .json (.object [_, (_, ruleSet)]) => (Client.readRuleSet ruleSet).map (·.1)
  | _ => none

theorem Http.Body.rules?_ruleSetToJson (name etag : String) (rules : List Rule) :
    (Http.Body.json (Client.ruleSetToJson name etag rules)).rules? = some rules := by
  have hrules : Json.list? Rule.read (Json.ofList Rule.toJson rules) = some rules :=
    Json.list?_ofList Rule.read_toJson rules
  simp [rules?, Client.ruleSetToJson, Client.readRuleSet, Json.record?, Record.select?, Record.field,
    Record.get?, hrules, Json.string?]

section Serving
variable {σ : Type} {w : World σ} {c : Client} {scope : Scope} {target : AccessTarget}
  {stored : σ → List Rule} {st st₁ st' : Memory × σ}

namespace World

/-- The peer keeps the rules of the target and serves them in that scope. -/
structure KeepsRules (w : World σ) (c : Client) (scope : Scope) (target : AccessTarget)
    (stored : σ → List Rule) : Prop where
  signs : w.Signs c.credentials scope stored
  reachable : ∃ url base, c.resolver.resolve .ruleSets scope = .ok url ∧ Transport.Reachable url base
  reads : ∀ url etag, c.resolver.resolve .ruleSets scope = .ok url →
    Transport.Answers w stored
      (Transport.Asks .get url none [.ruleSet (target.ruleSetName c.accountId) etag])
      Client.readRuleSet fun rules found => found.1 = rules
  writes : ∀ url etag rules request s reply s', c.resolver.resolve .ruleSets scope = .ok url →
    Transport.Asks .put url (some (Client.ruleSetToJson (target.ruleSetName c.accountId) etag rules))
      [.ruleSet (target.ruleSetName c.accountId) etag] request →
    w.answer request s = (some reply, s') → reply.status.isSuccess = true → stored s' = rules

/-- The peer has these rules in the end, and the client remembers what it did, but tokens and
versions. -/
structure Stores (stored : σ → List Rule) (rules : List Rule) (st st' : Memory × σ) : Prop where
  stored : stored st'.2 = rules
  groups : st'.1.groups = st.1.groups
  availability : st'.1.availability = st.1.availability

theorem Keeps.stores (h : Keeps stored st st') : Stores stored (stored st.2) st st' :=
  ⟨h.stored, h.groups, h.availability⟩

theorem Keeps.trans_stores {rules : List Rule} (h : Keeps stored st st₁) (h' : Stores stored rules st₁ st') :
    Stores stored rules st st' :=
  ⟨h'.stored, h'.groups.trans h.groups, h'.availability.trans h.availability⟩

/-- The call ends with `false`, without having sent a write, and the peer has what it had. -/
structure ChangesNothing (w : World σ) (stored : σ → List Rule) (call : Call Bool) (st : Memory × σ) : Prop where
  ends : ∃ st', w.Ends call st (.ok false) st' ∧ Keeps stored st st'
  not_put : ∀ ev ∈ w.events call.run st, ¬ev.IsPut

end World

namespace Client

theorem ends_lastEtag (name : String) (st : Memory × σ) :
    w.Ends (lastEtag name) st (.ok ((st.1.etags.get? name).getD "")) st := by
  have hread : w.act (.readEtag name) st = (st.1.etags.get? name, st) := rfl
  refine World.ends_perform_bind.2 (World.ends_pure.2 ?_)
  rw [hread]
  exact ⟨rfl, rfl⟩

theorem ends_writeEtag (w : World σ) (stored : σ → List Rule) (name etag : String) (st : Memory × σ) :
    ∃ st', w.Ends (Call.perform (.writeEtag name etag)) st (.ok ()) st' ∧ World.Keeps stored st st' :=
  ⟨({ st.1 with etags := st.1.etags.put name etag }, st.2), rfl, rfl, rfl, rfl⟩

theorem ruleSet_ne_empty (c : Client) (target : AccessTarget) (etag : String) :
    (Query.ofTerms [.ruleSet (target.ruleSetName c.accountId) etag]).isEmpty = false := by
  simp [Query.isEmpty, Query.ofTerms_ruleSet etag (target.ruleSetName_ne_empty c.accountId)]

/-- A read has the rules. -/
theorem listRules_ends (h : w.KeepsRules c scope target stored) (st : Memory × σ) :
    ∃ rateLimit st', w.Ends (c.listRules scope target) st (.ok (stored st.2, rateLimit)) st' ∧
      World.Keeps stored st st' := by
  obtain ⟨url, base, hurl, hreach⟩ := h.reachable
  have hresolved : w.Ends (Call.ofExcept id (c.resolver.resolve .ruleSets scope)) st (.ok url) st :=
    World.ends_ofExcept_ok.2 ⟨hurl, rfl⟩
  obtain ⟨⟨rules, etag⟩, rateLimit, st₁, hends, hkeeps, rfl⟩ :=
    (h.reads url ((st.1.etags.get? (target.ruleSetName c.accountId)).getD "") hurl).exchange h.signs hreach
      (ruleSet_ne_empty c target _) st
  obtain ⟨st₂, hwrite, hkeeps'⟩ := ends_writeEtag w stored (target.ruleSetName c.accountId) etag st₁
  refine ⟨rateLimit, st₂, ?_, hkeeps.trans hkeeps'⟩
  refine hresolved.bind_iff.2 ((ends_lastEtag _ st).bind_iff.2 ?_)
  rw [exchange_ok c _ _ scope rfl]
  exact hends.bind_iff.2 (hwrite.bind_iff.2 (World.ends_pure.2 ⟨rfl, rfl⟩))

/-- What a successful write carries is what the peer has then. -/
theorem putRules_ok (h : w.KeepsRules c scope target stored) {rules : List Rule}
    {rateLimit : Http.RateLimit}
    (hends : w.Ends (c.putRules scope target rules) st (.ok rateLimit) st') :
    World.Stores stored rules st st' := by
  obtain ⟨url, base, hurl, hreach⟩ := h.reachable
  obtain ⟨_, hok, hrest⟩ := World.ends_ofExcept_bind_ok.1 hends
  rw [hurl] at hok
  cases hok
  replace hrest := (ends_lastEtag _ st).bind_iff.1 hrest
  obtain ⟨⟨written, _⟩, st₂, hexchange, htail⟩ := World.ends_bind_ok.1 hrest
  obtain ⟨request, st₁, reply, hasks, hkeeps, hanswer, hmemory, hsuccess⟩ :=
    Transport.exchange_of_ok h.signs hreach (ruleSet_ne_empty c target _) hexchange
  have hstores : World.Stores stored rules st st₂ :=
    ⟨h.writes url _ rules request _ reply _ hurl hasks hanswer hsuccess,
      (congrArg Memory.groups hmemory).trans hkeeps.groups,
      (congrArg Memory.availability hmemory).trans hkeeps.availability⟩
  -- What is left is to remember the version that the reply tells, if it tells one.
  have hlast : World.Keeps stored st₂ st' := by
    dsimp only at htail
    split at htail
    · split_ifs at htail with hetag
      · obtain ⟨_, st₃, hwrite, hdone⟩ := World.ends_bind_ok.1 htail
        obtain ⟨-, rfl⟩ := World.ends_pure.1 hdone
        cases hwrite
        exact ⟨rfl, rfl, rfl⟩
      · obtain ⟨-, rfl⟩ := World.ends_pure.1 htail
        exact World.Keeps.refl _
    · obtain ⟨-, rfl⟩ := World.ends_pure.1 htail
      exact World.Keeps.refl _
  exact ⟨hlast.stored.trans hstores.stored, hlast.groups.trans hstores.groups,
    hlast.availability.trans hstores.availability⟩

section Edits
variable {edit : List Rule → Bool × List Rule} {b : Bool}

/-- An edit has the rules first. If it makes nothing new of them it ends there, and else with a write of
what it makes. -/
theorem editRules_ends_ok (h : w.KeepsRules c scope target stored) (edit : List Rule → Bool × List Rule)
    (st : Memory × σ) :
    ∃ st₁, World.Keeps stored st st₁ ∧ ∀ b st', w.Ends (c.editRules scope target edit) st (.ok b) st' ↔
      (edit (stored st.2)).1 = b ∧
        if b then ∃ rateLimit, w.Ends (c.putRules scope target (edit (stored st.2)).2) st₁ (.ok rateLimit) st'
        else st' = st₁ := by
  obtain ⟨rateLimit, st₁, hlist, hkeeps⟩ := listRules_ends h st
  refine ⟨st₁, hkeeps, fun b st' => hlist.bind_iff.trans ?_⟩
  dsimp only
  generalize edit (stored st.2) = edited
  obtain ⟨changed, rules⟩ := edited
  cases changed with
  | false =>
    refine World.ends_pure.trans ?_
    cases b <;> simp
  | true =>
    refine World.ends_bind_ok.trans ?_
    cases b <;> simp [World.ends_pure]

/-- A successful edit leaves what it makes of the rules. -/
theorem editRules_ok (h : w.KeepsRules c scope target stored)
    (hedit : ∀ rules, (edit rules).1 = false → (edit rules).2 = rules)
    (hends : w.Ends (c.editRules scope target edit) st (.ok b) st') :
    World.Stores stored (edit (stored st.2)).2 st st' := by
  obtain ⟨st₁, hkeeps, hiff⟩ := editRules_ends_ok h edit st
  obtain ⟨hchanged, hrest⟩ := (hiff b st').1 hends
  cases b with
  | false =>
    obtain rfl : st' = st₁ := hrest
    rw [hedit _ hchanged]
    exact hkeeps.stores
  | true =>
    obtain ⟨rateLimit, hput⟩ := hrest
    exact hkeeps.trans_stores (putRules_ok h hput)

/-- An edit changes nothing exactly if it makes nothing new of the rules that the peer has. -/
theorem changesNothing_editRules_iff (h : w.KeepsRules c scope target stored) :
    w.ChangesNothing stored (c.editRules scope target edit) st ↔ (edit (stored st.2)).1 = false := by
  obtain ⟨st₁, hkeeps, hiff⟩ := editRules_ends_ok h edit st
  constructor
  · rintro ⟨⟨st', hends, -⟩, -⟩
    exact ((hiff false st').1 hends).1
  · intro hedit
    have hends : w.Ends (c.editRules scope target edit) st (.ok false) st₁ := (hiff false st₁).2 ⟨hedit, rfl⟩
    have hdoes := w.call_does_events (c.editRules scope target edit) st
    rw [hends] at hdoes
    exact ⟨⟨st₁, hends, hkeeps⟩, not_put_of_editRules_false hdoes⟩

end Edits

end Client

end Serving

end AccessSync
