import AccessSync.Proofs.Client.Calls
import AccessSync.Proofs.Program.Interleaving
/-!
# A peer that keeps rule sets

A keeper has for every name a list of rules and its version. A read is answered with both. A write
is accepted exactly if it names the present version; it replaces the rules, and the version becomes
one that the rule set never had. Any other write is refused with a conflict. What a request says is
unique (`Reads.name_eq`, `Writes.eq`), so the keeper has no choice but that of the new version.
-/

namespace AccessSync

/-! ## What a request says -/

theorem Rule.toJson_injective : Function.Injective Rule.toJson := by
  rintro ⟨principals, role⟩ ⟨principals', role'⟩ h
  simp only [toJson, Json.ofList, Json.object.injEq, List.cons.injEq, Prod.mk.injEq, true_and,
    Json.array.injEq, Json.string.injEq, and_true] at h
  obtain ⟨hp, rfl⟩ := h
  rw [List.map_injective_iff.2 (fun _ _ h => Json.string.inj h) hp]

namespace Http.Request

variable {request : Http.Request} {name name' etag etag' : String} {rules rules' : List Rule}

theorem Reads.name_eq (h : request.Reads name etag) (h' : request.Reads name' etag') : name = name' := by
  have := h.parameters.symm.trans h'.parameters
  simp only [List.cons.injEq, Prod.mk.injEq, true_and, and_true] at this
  exact this.2

theorem Writes.eq (h : request.Writes name etag rules) (h' : request.Writes name' etag' rules') :
    name = name' ∧ etag = etag' ∧ rules = rules' := by
  have hp := h.parameters.symm.trans h'.parameters
  simp only [List.cons.injEq, Prod.mk.injEq, true_and, and_true] at hp
  have hb := h.body.symm.trans h'.body
  simp only [Client.ruleSetToJson, Json.ofList, Http.Body.json.injEq, Json.object.injEq, List.cons.injEq,
    Prod.mk.injEq, true_and, Json.array.injEq, and_true] at hb
  exact ⟨hp.2, hp.1, List.map_injective_iff.2 Rule.toJson_injective hb.2.2.2⟩

theorem Reads.not_writes (h : request.Reads name etag) : ¬request.Writes name' etag' rules := by
  intro h'
  have := h.method.symm.trans h'.method
  cases this

end Http.Request

/-! ## The keeper -/

/-- The rules of every set, its version, and all versions that it has had. -/
structure Keeper where
  rules : String → List Rule
  etag : String → String
  used : String → List String
  etag_used : ∀ name, etag name ∈ used name

namespace Keeper

/-- Other rules for one name, with another version. -/
def replace (k : Keeper) (name : String) (rules : List Rule) (etag : String) : Keeper where
  rules := Function.update k.rules name rules
  etag := Function.update k.etag name etag
  used := Function.update k.used name (etag :: k.used name)
  etag_used other := by
    by_cases h : other = name
    · subst h
      simp
    · rw [Function.update_of_ne h, Function.update_of_ne h]
      exact k.etag_used other

section Replace
variable (k : Keeper) {name other : String} (rules : List Rule) (etag : String)

theorem rules_replace : (k.replace name rules etag).rules name = rules := Function.update_self ..

theorem rules_replace_of_ne (h : other ≠ name) :
    (k.replace name rules etag).rules other = k.rules other := Function.update_of_ne h ..

theorem etag_replace : (k.replace name rules etag).etag name = etag := Function.update_self ..

theorem etag_replace_of_ne (h : other ≠ name) :
    (k.replace name rules etag).etag other = k.etag other := Function.update_of_ne h ..

theorem used_replace : (k.replace name rules etag).used name = etag :: k.used name :=
  Function.update_self ..

theorem used_replace_of_ne (h : other ≠ name) :
    (k.replace name rules etag).used other = k.used other := Function.update_of_ne h ..

end Replace

/-- What a keeper does with a request. -/
inductive Serves : Pool.PeerRule Keeper
  /-- What a read is answered with, unless the answer is lost, are the rules and their version. -/
  | read {request : Http.Request} {name asked : String} {answer : Option Http.Reply} {k : Keeper} :
      request.Reads name asked →
      (∀ reply, answer = some reply →
        Transport.content? Client.readRuleSet reply = some (k.rules name, k.etag name)) →
      Serves request answer k k
  /-- A write of the present version is accepted, though the answer may be lost. -/
  | accept {request : Http.Request} {name fresh : String} {rules : List Rule}
      {answer : Option Http.Reply} {k : Keeper} :
      request.Writes name (k.etag name) rules → fresh ≠ "" → fresh ∉ k.used name →
      (∀ reply, answer = some reply → reply.status ≠ .conflict) →
      Serves request answer k (k.replace name rules fresh)
  /-- A write of another version is refused. -/
  | refuse {request : Http.Request} {name etag : String} {rules : List Rule} {reply : Http.Reply}
      {k : Keeper} :
      request.Writes name etag rules → etag ≠ k.etag name → reply.status = .conflict →
      Serves request (some reply) k k
  /-- Requests that have nothing to do with rule sets may be answered in any way. -/
  | other {request : Http.Request} {answer : Option Http.Reply} {k : Keeper} :
      (∀ name etag, ¬request.Reads name etag) → (∀ name etag rules, ¬request.Writes name etag rules) →
      Serves request answer k k

section Served
variable {ι : Type} {k : Keeper} {name : String} {told : Option String} {request : Http.Request}
  {reply : Http.Reply}

theorem served_read (i : ι) (hreads : request.Reads name (told.getD ""))
    (hfound : Transport.content? Client.readRuleSet reply = some (k.rules name, k.etag name))
    (now : Instant) (etag : String) :
    Pool.Served Serves k ((Client.exchangeEvents name told request reply now etag).map (Prod.mk i)) k := by
  have hanswer : Serves request (some reply) k k := by
    refine .read hreads ?_
    rintro _ ⟨⟩
    exact hfound
  exact .cons rfl (.cons hanswer (.cons rfl (.cons rfl (.nil _))))

theorem served_write (i : ι) {rules : List Rule} {fresh : String}
    (hwrites : request.Writes name (k.etag name) rules) (hne : fresh ≠ "") (hfresh : fresh ∉ k.used name)
    (hreply : reply.status ≠ .conflict) (now : Instant) (etag : String) :
    Pool.Served Serves k ((Client.exchangeEvents name told request reply now etag).map (Prod.mk i))
      (k.replace name rules fresh) := by
  have hanswer : Serves request (some reply) k (k.replace name rules fresh) := by
    refine .accept hwrites hne hfresh ?_
    rintro _ ⟨⟩
    exact hreply
  exact .cons rfl (.cons hanswer (.cons rfl (.cons rfl (.nil _))))

end Served

/-- A keeper of nothing yet. -/
def empty : Keeper := ⟨fun _ => [], fun _ => "1", fun _ => ["1"], by simp⟩

end Keeper

end AccessSync
