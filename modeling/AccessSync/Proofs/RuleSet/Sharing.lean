import AccessSync.Proofs.RuleSet.Keeper
/-!
# Calls that share a client

The read of an edit and its write are two requests, and the version goes from the one to the other
through what the client remembers. Another call of the same client may record a version in between.
Main statement: the write names the version that any call of the client recorded last since the
edit's own read (`put_names_last_recorded`), which is that of the own read if none did. If another
call did, the write may name the present version although its rules come from an older one, and a
keeper accepts it (`grant_is_lost`).
-/

namespace AccessSync

namespace Pool

variable {ι κ σ α : Type} [DecidableEq ι] [DecidableEq κ] {home : ι → κ} {rule : PeerRule σ}
  {begin st : Stage ι κ σ α} {es : List (ι × Event)}

/-- What a program looks up after it has recorded a version is what its client recorded last since
then. -/
theorem lookup_after_record (h : Run home rule begin es st) {i : ι} {xs ys : List Event}
    {name recorded : String} {told : Option String}
    (hown : own i es = xs ++ ⟨.writeEtag name recorded, ()⟩ :: ⟨.readEtag name, told⟩ :: ys) :
    ∃ first second third,
      es = first ++ (i, ⟨.writeEtag name recorded, ()⟩) :: second ++
        (i, ⟨.readEtag name, told⟩) :: third ∧
      own i first = xs ∧ own i second = [] ∧ own i third = ys ∧
      told.getD "" = (Memory.lastRecorded name (ofClient home (home i) second)).getD recorded := by
  obtain ⟨first, rest, rfl, hfirst, hrest⟩ := eq_of_own_eq hown
  obtain ⟨second, third, rfl, hsecond, hthird⟩ := eq_of_own_eq (show own i rest = [] ++ _ from hrest)
  refine ⟨first, second, third, by simp, hfirst, hsecond, hthird, ?_⟩
  -- The memory of the client, followed to the point where the version is looked up.
  have hf := h.follows (home i)
  rw [ofClient_append, ofClient_cons_self, ofClient_append, ofClient_cons_self] at hf
  obtain ⟨m, -, hf⟩ := Memory.follows_append.1 hf
  obtain ⟨m', hm', hf⟩ := Memory.follows_append.1 (Memory.follows_cons.1 hf).2
  have htold : told = m'.etags.get? name := (Memory.follows_cons.1 hf).1
  rw [hm'.etags, Memory.etags_after] at htold
  simp only [Event.recorded?, if_true, Option.some_or] at htold
  rw [htold]
  cases Memory.lastRecorded name (ofClient home (home i) second) <;> rfl

end Pool

open Pool

section Shared
variable {ι κ σ : Type} [DecidableEq ι] [DecidableEq κ] {home : ι → κ} {rule : PeerRule σ}
  (clients : κ → Client) (calls : ι → ClientCall) {memory : κ → Memory} {peer : σ}

/-- Of any calls that are under way at once, the write of an edit carries what the edit made of its
own read, and the version that any call of its client recorded last since then. That is the version
of its own read only if no other call recorded another one; and when the read is outdated, the write
names the present version exactly if another call recorded this one. -/
theorem put_names_last_recorded {es before after : List (ι × Event)}
    {st : Stage ι κ σ (Except Halt Unit)}
    (h : Run home rule (.ofCalls (fun i => (calls i).call (clients (home i))) memory peer) es st)
    {i : ι} {scope : Scope} {target : AccessTarget} {change : Change}
    (hi : calls i = .rules (.edit scope target change))
    {request : Http.Request} {answer : Option Http.Reply}
    (hes : es = before ++ (i, ⟨.send request, answer⟩) :: after) (hm : request.method = .put) :
    ∃ name get reply rules own first second told third etag,
      name = target.ruleSetName (clients (home i)).accountId ∧
      before = first ++ (i, ⟨.writeEtag name own, ()⟩) :: second ++
        (i, ⟨.readEtag name, told⟩) :: third ∧
      (i, ⟨.send get, some reply⟩) ∈ first ∧ get.method = .get ∧
      Transport.content? Client.readRuleSet reply = some (rules, own) ∧
      request.Writes name etag (change.edit rules).2 ∧
      etag = (Memory.lastRecorded name (ofClient home (home i) second)).getD own ∧
      (∀ other, Memory.lastRecorded name (ofClient home (home i) second) = some other →
        ∃ j, j ≠ i ∧ home j = home i ∧ (j, ⟨.writeEtag name other, ()⟩) ∈ second) ∧
      (etag = own ↔ ∀ other,
        Memory.lastRecorded name (ofClient home (home i) second) = some other → other = own) ∧
      ∀ current, current ≠ own → (etag = current ↔
        Memory.lastRecorded name (ofClient home (home i) second) = some current) := by
  subst hes
  -- What the run has done of this call.
  have hdoes := h.call_does i
  rw [own_append, own_cons_self, hi] at hdoes
  obtain ⟨r, hcall, -⟩ := Call.does_forget.1 hdoes
  rw [Change.call_eq] at hcall
  obtain ⟨⟨reply, rules, own, told, ⟨⟨asked, fetch, get, now, prep, hown, -, hreads⟩, hfound, -⟩,
    hwrites⟩, -⟩ := Client.put_of_editRules hcall rfl hm
  -- Where its read and its lookup stand in the whole record.
  obtain ⟨st', hbefore⟩ := h.of_append
  obtain ⟨first, second, third, rfl, hfirst, hsecond, -, htold⟩ :=
    lookup_after_record hbefore hown
  refine ⟨_, get, reply, rules, own, first, second, told, third, _, rfl, rfl, ?_, hreads.method, hfound,
    hwrites, htold, ?_, ?_, ?_⟩
  · exact mem_own.1 (by rw [hfirst]; simp)
  · intro other hother
    obtain ⟨j, hj, hmem⟩ := mem_ofClient.1 (Memory.mem_of_lastRecorded hother)
    refine ⟨j, ?_, hj, hmem⟩
    -- This call has done nothing in between, so it was another one.
    rintro rfl
    have := mem_own.2 hmem
    rw [hsecond] at this
    cases this
  · rw [htold]
    cases Memory.lastRecorded _ _ <;> simp
  · intro current hne
    rw [htold]
    cases Memory.lastRecorded _ _ <;> simp [Ne.symm hne]

end Shared

/-! ## A grant that is lost -/

/-- One of two grants of a role. -/
def granting (second : Bool) : Change :=
  .grant (.exact "reader") "reader" ⟨.user, if second then "bob" else "alice"⟩

def bothGrant (second : Bool) : ClientCall := .rules (.edit .account .account (granting second))

def raceName : String := AccessTarget.account.ruleSetName Client.plain.accountId

/-- What reads and writes of the race are answered with. -/
def versionReply (etag : String) : Http.Reply := Transport.replyOf ("\x7b\"etag\":\"" ++ etag ++ "\"\x7d")

def raceRead (told : Option String) : List Event :=
  Client.exchangeEvents raceName told (Client.readRequest Client.plainUrl none raceName (told.getD ""))
    (versionReply "1") ⟨0⟩ "1"

def raceWrite (told : Option String) (rules : List Rule) (etag : String) : List Event :=
  Client.exchangeEvents raceName told
    (Client.writeRequest Client.plainUrl none raceName (told.getD "") rules) (versionReply etag) ⟨0⟩ etag

/-- Both calls read, the second writes, and then the first writes. -/
def race : List (Bool × Event) :=
  (raceRead none).map (Prod.mk false) ++
  ((raceRead (some "1")).map (Prod.mk true) ++
  ((raceWrite (some "1") [⟨["users/bob"], "reader"⟩] "2").map (Prod.mk true) ++
  (raceWrite (some "2") [⟨["users/alice"], "reader"⟩] "3").map (Prod.mk false)))

theorem content_one : Transport.content? Client.readRuleSet (versionReply "1") = some ([], "1") := by
  decide +kernel

theorem read_one (told : Option String) :
    ∃ rateLimit, (Client.plain.listRules .account .account).Does (raceRead told)
      (some (.ok ([], rateLimit))) := by
  have hread : (Transport.readBody (Utf8.encode ("\x7b\"etag\":\"" ++ "1" ++ "\"\x7d").toList)).bind
      Client.readRuleSet = some ([], "1") := by decide +kernel
  exact ⟨_, Client.plain_reaches.listRules_does .account told (Transport.decode_replyOf hread ⟨0⟩)⟩

theorem granting_does (second : Bool) {told told' : Option String} {rules : List Rule} {etag : String}
    (hrules : (granting second).edit [] = (true, rules)) (he : etag ≠ "")
    (hwritten : (Transport.readBody (Utf8.encode ("\x7b\"etag\":\"" ++ etag ++ "\"\x7d").toList)).bind
      (Json.nullable? Client.readRuleSet) = some (some ([], etag))) :
    ((granting second).call Client.plain .account .account).Does
      (raceRead told ++ raceWrite told' rules etag) (some (.ok true)) := by
  obtain ⟨_, hx⟩ := read_one told
  have hy := Client.plain_reaches.putRules_does .account rules told'
    (Transport.decode_replyOf hwritten ⟨0⟩) he
  have hnew : rules = ((granting second).edit []).2 := by rw [hrules]
  rw [hnew] at hy ⊢
  rw [Change.call_eq]
  exact Client.editRules_does hx (by rw [hrules]) hy

theorem race_does (second : Bool) :
    Program.Does ((bothGrant second).call Client.plain).run (own second race) (.done (.ok ())) := by
  refine Call.does_some.1 (Call.does_forget.2 ⟨some (.ok true), ?_, rfl⟩)
  cases second with
  | false =>
    rw [race, own_append, own_append, own_append, own_map_self, own_map_of_ne (by decide),
      own_map_of_ne (by decide), own_map_self, List.nil_append, List.nil_append]
    exact granting_does false (by decide +kernel) (by decide) (by decide +kernel)
  | true =>
    rw [race, own_append, own_append, own_append, own_map_of_ne (by decide), own_map_self,
      own_map_self, own_map_of_ne (by decide), List.nil_append, List.append_nil]
    exact granting_does true (by decide +kernel) (by decide) (by decide +kernel)

theorem race_follows : ∃ m, Memory.fresh.Follows (ofClient (fun _ : Bool => ()) () race) m := by
  rw [race, ofClient_append, ofClient_append, ofClient_append, ofClient_map rfl, ofClient_map rfl,
    ofClient_map rfl, ofClient_map rfl]
  have hstep : ∀ (m : Memory) (told : Option String), told = m.etags.get? raceName →
      ∀ request reply now etag fs,
        (∃ m', Memory.Follows { m with etags := m.etags.put raceName etag } fs m') →
        ∃ m', m.Follows (Client.exchangeEvents raceName told request reply now etag ++ fs) m' := by
    intro m told h request reply now etag fs hrest
    obtain ⟨m', hm'⟩ := hrest
    exact ⟨m', Memory.follows_append.2
      ⟨_, Client.follows_exchangeEvents h request reply now etag, hm'⟩⟩
  -- Each part looks up what the one before it has recorded.
  refine hstep _ _ rfl _ _ _ _ _ ?_
  refine hstep _ _ (by decide +kernel) _ _ _ _ _ ?_
  refine hstep _ _ (by decide +kernel) _ _ _ _ _ ?_
  exact ⟨_, Client.follows_exchangeEvents (by decide +kernel) _ _ _ _⟩

theorem race_served : Served Keeper.Serves Keeper.empty race
    ((Keeper.empty.replace raceName [⟨["users/bob"], "reader"⟩] "2").replace raceName
      [⟨["users/alice"], "reader"⟩] "3") := by
  have hne : raceName ≠ "" := AccessTarget.ruleSetName_ne_empty .account Client.plain.accountId
  refine (Keeper.served_read false (Client.plain_reaches.reads hne _) content_one _ _).append ?_
  refine (Keeper.served_read true (Client.plain_reaches.reads hne _) content_one _ _).append ?_
  have hsecond : Served Keeper.Serves Keeper.empty
      ((raceWrite (some "1") [⟨["users/bob"], "reader"⟩] "2").map (Prod.mk true))
      (Keeper.empty.replace raceName [⟨["users/bob"], "reader"⟩] "2") :=
    Keeper.served_write true (Client.plain_reaches.writes hne _ _) (by decide) (by decide) (by decide) _ _
  refine hsecond.append (Keeper.served_write false ?_ (by decide) ?_ (by decide) _ _)
  · rw [Keeper.etag_replace]
    exact Client.plain_reaches.writes hne _ _
  · rw [Keeper.used_replace]
    decide

theorem race_run : ∃ m, Run (fun _ : Bool => ()) Keeper.Serves
    (.ofCalls (fun i => (bothGrant i).call Client.plain) (fun _ => .fresh) Keeper.empty) race
    ⟨fun _ => .done (.ok ()), fun _ => m,
      (Keeper.empty.replace raceName [⟨["users/bob"], "reader"⟩] "2").replace raceName
        [⟨["users/alice"], "reader"⟩] "3"⟩ := by
  obtain ⟨m, hm⟩ := race_follows
  exact ⟨m, run_of race_does (fun _ => hm) race_served⟩

theorem put_names_last_recorded_in_race : ∃ st before after request answer,
    Run (fun _ : Bool => ()) Keeper.Serves
      (.ofCalls (fun i => (bothGrant i).call Client.plain) (fun _ => .fresh) Keeper.empty) race st ∧
    bothGrant false = .rules (.edit .account .account (granting false)) ∧
    race = before ++ (false, ⟨.send request, answer⟩) :: after ∧ request.method = .put ∧
    ∃ name rules own first second told third etag, name = raceName ∧
      before = first ++ (false, ⟨.writeEtag name own, ()⟩) :: second ++
        (false, ⟨.readEtag name, told⟩) :: third ∧
      request.Writes name etag ((granting false).edit rules).2 ∧
      etag = (Memory.lastRecorded name (ofClient (fun _ => ()) () second)).getD own := by
  obtain ⟨m, hm⟩ := race_run
  have hes : race = ((raceRead none).map (Prod.mk false) ++ ((raceRead (some "1")).map (Prod.mk true) ++
      ((raceWrite (some "1") [⟨["users/bob"], "reader"⟩] "2").map (Prod.mk true) ++
        [(false, ⟨.readEtag raceName, some "2"⟩)]))) ++ (false, ⟨.send _, _⟩) :: _ := rfl
  obtain ⟨name, -, -, rules, own, first, second, told, third, etag, hname, hbefore, -, -, -, hwrites,
    hetag, -⟩ := put_names_last_recorded (fun _ => Client.plain) bothGrant hm rfl hes rfl
  exact ⟨_, _, _, _, _, hm, rfl, hes, rfl, name, rules, own, first, second, told, third, etag, hname,
    hbefore, hwrites, hetag⟩

/-- The first of two grants names the version that the second has brought about, so the keeper accepts
it. Both say that they succeeded, and that of the second is gone. -/
theorem grant_is_lost : ∃ st, Run (fun _ : Bool => ()) Keeper.Serves
    (.ofCalls (fun i => (bothGrant i).call Client.plain) (fun _ => .fresh) Keeper.empty) race st ∧
    st.left false = .done (.ok ()) ∧ st.left true = .done (.ok ()) ∧
    st.peer.rules raceName = [⟨["users/alice"], "reader"⟩] := by
  obtain ⟨m, hm⟩ := race_run
  exact ⟨_, hm, rfl, rfl, Keeper.rules_replace _ _ _⟩

end AccessSync
