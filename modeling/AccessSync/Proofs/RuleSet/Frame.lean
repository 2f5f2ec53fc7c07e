import AccessSync.Proofs.Client.Calls
import AccessSync.Proofs.Rule.Grant
import AccessSync.Sync.RuleGrants
/-!
# What a write leaves alone

A rule set is written as a whole, so whatever an edit loses is lost to everybody. `Change.Spares` says
what a grant and a revocation keep of the rules they have read: all entries that are not the
principal's, all rules of other roles, and the roles themselves but for one rule that is made or
emptied. `write_spares_others`: the rules that a call writes are spared so, compared with those it has
read.
-/

namespace AccessSync

namespace Rule

variable {m : RoleMatch} {newRole : String} {p : PrincipalName} {r : Rule} {rules before after : List Rule}

/-- The entry names the principal or is what the principal is written as. -/
def isOwn (p : PrincipalName) (entry : String) : Bool := names p entry || entry = p.text

/-- Role and entry of all entries but those of the principal. -/
def others (p : PrincipalName) (rules : List Rule) : List (String × String) :=
  (entries rules).filter fun x => !isOwn p x.2

/-- The rules of roles that do not match. -/
def unmatched (m : RoleMatch) (rules : List Rule) : List Rule := rules.filter fun r => !m.accepts r.role

theorem isOwn_text (p : PrincipalName) : isOwn p p.text = true := by
  simp [isOwn]

theorem isOwn_of_names {entry : String} (h : names p entry = true) : isOwn p entry = true := by
  rw [isOwn, h]
  rfl

theorem others_append : others p (before ++ after) = others p before ++ others p after := by
  simp only [others, entries, List.flatMap_append, List.filter_append]

theorem others_cons : others p (r :: rules) = others p [r] ++ others p rules := by
  rw [← others_append, List.singleton_append]

theorem others_single : others p [r] =
    (r.principals.filter fun entry => !isOwn p entry).map fun entry => (r.role, entry) := by
  simp only [others, entries, List.flatMap_cons, List.flatMap_nil, List.append_nil, List.filter_map]
  rfl

theorem others_made (p : PrincipalName) (role : String) : others p [⟨[p.text], role⟩] = [] := by
  simp [others_single, isOwn_text]

theorem others_addTo : others p [r.addTo m p] = others p [r] := by
  rw [others_single, others_single, role_addTo, addTo]
  split
  · simp [add, isOwn_text]
  · rfl

theorem others_map_addTo : others p (rules.map (addTo m p)) = others p rules := by
  induction rules with
  | nil => rfl
  | cons r rules ih => rw [List.map_cons, others_cons, ih, others_addTo, ← others_cons]

/-- The entries that go are the principal's. -/
theorem others_drop : others p [r.drop p] = others p [r] := by
  rw [others_single, others_single, drop, List.filter_filter]
  congr 1
  apply List.filter_congr
  intro entry _
  cases h : names p entry with
  | true => simp [isOwn_of_names h]
  | false => simp

theorem others_without : others p (r.without p) = others p [r] := by
  rw [← others_drop, without]
  split
  · rename_i hnobody
    rw [others_single, hnobody]
    rfl
  · rfl

theorem unmatched_append : unmatched m (before ++ after) = unmatched m before ++ unmatched m after :=
  List.filter_append ..

theorem unmatched_map_addTo : unmatched m (rules.map (addTo m p)) = unmatched m rules := by
  induction rules with
  | nil => rfl
  | cons r rules ih =>
    unfold unmatched at ih ⊢
    rw [List.map_cons, List.filter_cons, List.filter_cons, ih, role_addTo]
    cases h : m.accepts r.role with
    | true => rfl
    | false => rw [addTo_of_not h]

/-- A rule that matches is none of the others, and neither is what is left of it. -/
theorem unmatched_of_accepts (h : m.accepts r.role = true) : unmatched m [r] = [] := by
  simp [unmatched, h]

theorem unmatched_without (h : m.accepts r.role = true) : unmatched m (r.without p) = [] := by
  rw [without]
  split
  · rfl
  · exact unmatched_of_accepts h

theorem map_role_addTo : (rules.map (addTo m p)).map (·.role) = rules.map (·.role) := by
  rw [List.map_map]
  apply List.map_congr_left
  intro r _
  exact role_addTo m p r

end Rule

namespace Change

open Rule

def role : Change → RoleMatch
  | .grant role _ _ | .revoke role _ => role

def principal : Change → PrincipalName
  | .grant _ _ p | .revoke _ p => p

/-- The rule that a grant makes where none matches. -/
def made : Change → List Rule → List Rule
  | .grant role newRole p, rules =>
    if rules.any fun r => role.accepts r.role then [] else [⟨[p.text], newRole⟩]
  | .revoke _ _, _ => []

/-- A revocation has emptied one matching rule, all of whose entries name the principal, and that
rule is gone. -/
def Empties (change : Change) (rules written : List Rule) : Prop :=
  ∃ role p before r after, change = .revoke role p ∧ rules = before ++ r :: after ∧
    written = before ++ after ∧ r.grants role p = true ∧ ∀ entry ∈ r.principals, names p entry = true

/-- What a change keeps of the rules. -/
structure Spares (change : Change) (rules written : List Rule) : Prop where
  /-- The entries that are not the principal's are the same, with their roles and in their order. -/
  others : others change.principal written = others change.principal rules
  /-- The rules of other roles are the same in their order, before one that may have been made. -/
  unmatched : unmatched change.role written =
    unmatched change.role rules ++ unmatched change.role (change.made rules)
  /-- The roles are the same in their order, but for one rule that is made or gone. -/
  roles : written.map (·.role) = rules.map (·.role) ++ (change.made rules).map (·.role) ∨
    change.Empties rules written

variable {rules : List Rule}

theorem spares_grant {role : RoleMatch} {newRole : String} {p : PrincipalName}
    (h : (Rule.grant role newRole p rules).1 = true) :
    (grant role newRole p).Spares rules (Rule.grant role newRole p rules).2 := by
  rcases grant_cases role newRole p rules with ⟨-, hg⟩ | ⟨-, ⟨r, hr, hacc⟩, hg⟩ | ⟨hunmatched, hg⟩
  · rw [hg] at h
    cases h
  · have hmade : (grant role newRole p).made rules = [] := by
      rw [made, if_pos]
      exact List.any_eq_true.2 ⟨r, hr, hacc⟩
    rw [hg]
    refine ⟨others_map_addTo, ?_, .inl ?_⟩
    · rw [hmade]
      exact unmatched_map_addTo.trans (List.append_nil _).symm
    · rw [hmade, map_role_addTo, List.map_nil, List.append_nil]
  · have hmade : (grant role newRole p).made rules = [⟨[p.text], newRole⟩] := by
      rw [made, if_neg]
      simpa using hunmatched
    rw [hg]
    refine ⟨?_, ?_, .inl ?_⟩
    · rw [others_append]
      exact (congrArg _ (others_made p newRole)).trans (List.append_nil _)
    · rw [hmade, unmatched_append]
    · rw [hmade, List.map_append]

theorem spares_revoke {role : RoleMatch} {p : PrincipalName}
    (h : (Rule.revoke role p rules).1 = true) :
    (revoke role p).Spares rules (Rule.revoke role p rules).2 := by
  rcases none_or_first role p rules with hnone | ⟨before, r, after, rfl, hbefore, hr⟩
  · rw [revoke_of_none hnone] at h
    cases h
  · have hacc : role.accepts r.role = true := (Bool.and_eq_true _ _ ▸ hr).1
    rw [revoke_eq hbefore hr]
    refine ⟨?_, ?_, ?_⟩
    · rw [others_append, others_append, others_append, others_cons]
      change _ ++ Rule.others p (r.without p) ++ _ = _
      rw [others_without, List.append_assoc]
      rfl
    · change Rule.unmatched role _ = Rule.unmatched role _ ++ []
      rw [List.append_nil, ← List.singleton_append, unmatched_append, unmatched_append,
        unmatched_append, unmatched_append, unmatched_without hacc, unmatched_of_accepts hacc,
        List.append_nil, List.nil_append]
    · by_cases hempty : (r.drop p).principals = []
      · refine .inr ⟨role, p, before, r, after, rfl, rfl, ?_, hr, ?_⟩
        · rw [without, if_pos hempty, List.append_nil]
        · intro entry hentry
          simpa using List.filter_eq_nil_iff.1 hempty entry hentry
      · left
        rw [without, if_neg hempty]
        simp [made, drop]

theorem spares_edit {change : Change} (h : (change.edit rules).1 = true) :
    change.Spares rules (change.edit rules).2 := by
  cases change with
  | grant role newRole p => exact spares_grant h
  | revoke role p => exact spares_revoke h

end Change

/-- When a grant or a revocation writes, it has read the rules before, and what it writes spares
everything in them but the entries of its principal. -/
theorem Change.write_spares_others {c : Client} {scope : Scope} {target : AccessTarget} {change : Change}
    {es before after : List Event} {request : Http.Request} {answer : Option Http.Reply}
    {r : Option (Except Halt Bool)} (h : (change.call c scope target).Does es r)
    (hes : es = before ++ ⟨.send request, answer⟩ :: after) (hm : request.method = .put) :
    ∃ get reply rules own asked etag written, ⟨.send get, some reply⟩ ∈ before ∧
      get.Reads (target.ruleSetName c.accountId) asked ∧
      Transport.content? Client.readRuleSet reply = some (rules, own) ∧
      request.Writes (target.ruleSetName c.accountId) etag written ∧ change.Spares rules written := by
  rw [Change.call_eq] at h
  obtain ⟨⟨reply, rules, own, told, hread, hwrites⟩, -⟩ := Client.put_of_editRules h hes hm
  obtain ⟨asked, fetch, get, now, prep, rfl, -, hget⟩ := hread.events
  exact ⟨get, reply, rules, own, asked.getD "", told.getD "", (change.edit rules).2, by simp, hget,
    hread.found, hwrites, Change.spares_edit hread.changed⟩

/-- Two rules, as they are read. -/
def sharedText : String :=
  "\x7b\"etag\":\"1\",\"grant_rules\":[\x7b\"role\":\"reader\",\"principals\":[\"Users/alice\",\"anybody\"]\x7d," ++
    "\x7b\"role\":\"writer\"\x7d]\x7d"

def sharedRules : List Rule := [⟨["Users/alice", "anybody"], "reader"⟩, ⟨[], "writer"⟩]

theorem Change.write_spares_others_of_alice : ∃ es before after request answer,
    ((Change.revoke (.exact "reader") ⟨.user, "alice"⟩).call Client.plain .account .account).Does es
      (some (.ok true)) ∧
    es = before ++ ⟨.send request, answer⟩ :: after ∧ request.method = .put ∧
    ∃ name rules etag written, request.Writes name etag written ∧
      (Change.revoke (.exact "reader") ⟨.user, "alice"⟩).Spares rules written := by
  have hread : (Transport.readBody (Utf8.encode sharedText.toList)).bind Client.readRuleSet =
      some (sharedRules, "1") := by decide +kernel
  have hwritten : (Transport.readBody (Utf8.encode ("\x7b\"etag\":\"2\"\x7d").toList)).bind
      (Json.nullable? Client.readRuleSet) = some (some ([], "2")) := by decide +kernel
  have hedit : ((Change.revoke (.exact "reader") ⟨.user, "alice"⟩).edit sharedRules).1 = true := by
    decide +kernel
  have hdoes := Client.editRules_does
    (Client.plain_reaches.listRules_does .account none (Transport.decode_replyOf hread ⟨0⟩)) hedit
    (Client.plain_reaches.putRules_does .account _ (some "1")
      (Transport.decode_replyOf hwritten ⟨0⟩) (by decide))
  rw [← Change.call_eq] at hdoes
  -- The write stands somewhere among the events.
  obtain ⟨before, after, hes⟩ := List.append_of_mem
    (List.mem_append_right _ (List.mem_cons_of_mem _ (List.mem_cons_self ..)))
  obtain ⟨-, -, rules, -, -, etag, written, -, -, -, hwrites, hspares⟩ :=
    Change.write_spares_others hdoes hes rfl
  exact ⟨_, before, after, _, _, hdoes, hes, rfl, _, rules, etag, written, hwrites, hspares⟩

end AccessSync
