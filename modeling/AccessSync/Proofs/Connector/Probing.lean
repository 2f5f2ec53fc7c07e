import AccessSync.Proofs.Connector.Availability
import AccessSync.Proofs.Connector.Conclusion
/-!
# Probing the credentials

A probe tries the credentials in the account, finds the workspaces and makes a trial in one after the other
(`Tours`). What comes of it is decided by what comes of these parts, and it alone says what is available. Main
statement: `probe_verdict`, of whatever a probe can do; a probe that is broken off by the calendar has no result.
-/

namespace AccessSync

/-- The call came to that value or error. -/
def Call.Returns {α : Type} (x : Call α) (es : List Event) (v : Except Error α) : Prop :=
  x.Does es (some (v.mapError .error))

/-- A call that came to an end returned, unless it was broken off. -/
theorem Call.returns_of_does {α : Type} {x : Call α} {es : List Event} {r : Except Halt α} (h : x.Does es (some r)) :
    r = .error .beyondCalendar ∨ ∃ v : Except Error α, x.Returns es v ∧ r = v.mapError .error := by
  rcases r with (e | _) | a
  · exact .inr ⟨.error e, h, rfl⟩
  · exact .inl rfl
  · exact .inr ⟨.ok a, h, rfl⟩

/-- A call that came to an end was stopped in its first part or went through both. -/
theorem Call.does_bind_some {α β : Type} {x : Call α} {f : α → Call β} {es : List Event} {r : Except Halt β} :
    (x >>= f).Does es (some r) ↔ (∃ h, x.Does es (some (.error h)) ∧ r = .error h) ∨
      ∃ a xs ys, es = xs ++ ys ∧ x.Does xs (some (.ok a)) ∧ (f a).Does ys (some r) := by
  rw [Call.does_bind]
  simp

/-- What is returned by an attempted call is looked at. -/
theorem Call.returns_of_attempt {α β : Type} {x : Call α} {f : Except Error α → Call β} {es : List Event}
    {r : Except Halt β} (h : (attempt x >>= f).Does es (some r)) :
    r = .error .beyondCalendar ∨ ∃ v xs ys, es = xs ++ ys ∧ x.Returns xs v ∧ (f v).Does ys (some r) := by
  rcases Call.does_bind_some.1 h with ⟨h, hx, rfl⟩ | ⟨v, xs, ys, rfl, hx, hy⟩
  · obtain ⟨r', -, hr'⟩ := Call.does_attempt.1 hx
    rcases r' with _ | (_ | _) | _ <;> cases hr'
    exact .inl rfl
  · obtain ⟨r', hr, hr'⟩ := Call.does_attempt.1 hx
    rcases r' with _ | (e | _) | a <;> cases hr'
    · exact .inr ⟨.error e, xs, ys, rfl, hr, hy⟩
    · exact .inr ⟨.ok a, xs, ys, rfl, hr, hy⟩

/-- What is available stays as it is until it is said. -/
theorem Memory.Follows.availability_eq {m m' : Memory} {es : List Event} (h : m.Follows es m')
    (hes : ∀ ev ∈ es, ev.Exchanges) : m'.availability = m.availability := by
  induction h with
  | nil => rfl
  | @cons m m' ev es _ _ ih =>
    rw [ih fun ev' hev' => hes ev' (List.mem_cons_of_mem ev hev')]
    have hwrite := (hes ev List.mem_cons_self).not_writes
    obtain ⟨e, answer⟩ := ev
    cases e with
    | writeAvailability a => exact absurd rfl (hwrite a)
    | _ => rfl

namespace Connector

variable {c : Connector} {es : List Event}

/-- The credentials are tried in one workspace. -/
structure Trial where
  name : String
  events : List Event
  outcome : Except Error (List Role × Http.RateLimit)

/-- The workspace accepts the credentials. -/
def Trial.accepts (t : Trial) : Bool := t.outcome.isOk

/-- The credentials are tried in the account and accepted or not. Those of single workspaces are not tried, and
so not accepted. -/
inductive TriesAccount (c : Client) : List Event → Bool → Prop
  | spared : c.isTokenOnly = true → TriesAccount c [] false
  | tried {es : List Event} {v : Except Error (List Role × Http.RateLimit)} : c.isTokenOnly = false →
      (c.listRoles .account .account).Returns es v → TriesAccount c es v.isOk

/-- The workspaces are those that are configured or, if none are, those that the account lists. -/
inductive Finds (c : Connector) : List Event → Except Error (List String) → Prop
  | configured : c.config.workspaces ≠ [] → Finds c [] (.ok c.config.workspaces)
  | listed {es : List Event} {v : Except Error (List Workspace × Http.RateLimit)} : c.config.workspaces = [] →
      c.client.listWorkspaces.Returns es v → Finds c es (v.map fun found => found.1.map (·.deploymentName))

/-- All of the workspaces were tried and accept the credentials. -/
def AllAccept (names : List String) (trials : List Trial) : Prop :=
  trials.map (·.name) = names ∧ ∀ t ∈ trials, t.accepts = true

/-- One workspace after the other is tried, each once: all of them if the account accepts the credentials, and
otherwise up to the first that does not. -/
structure Tours (c : Client) (account : Bool) (names : List String) (trials : List Trial) : Prop where
  tried : ∀ t ∈ trials, (c.listRoles (.workspace t.name) .account).Returns t.events t.outcome
  ordered : trials.map (·.name) <+: names
  all : account = true → trials.map (·.name) = names
  up_to_first : account = false → AllAccept names trials ∨
    ∃ accepting last, trials = accepting ++ [last] ∧ (∀ t ∈ accepting, t.accepts = true) ∧ last.accepts = false

/-! ## The parts of a probe -/

theorem exchanges_probeAccount {c : Client} : (probeAccount c).Always Event.Exchanges := by
  unfold probeAccount
  split_ifs
  · exact Call.always_pure
  · refine Call.always_bind (Call.always_attempt Client.always_exchange) fun listed => ?_
    cases listed <;> exact Call.always_pure

theorem exchanges_targets : c.targets.Always Event.Exchanges := by
  unfold targets
  split_ifs
  · refine Call.always_bind (Call.always_bind Client.always_exchange fun _ => ?_) fun _ => ?_ <;>
      exact Call.always_pure
  · exact Call.always_pure

theorem exchanges_probeWorkspace {c : Client} {account : Bool} {name : String} :
    (probeWorkspace c account name).Always Event.Exchanges := by
  refine Call.always_bind (Call.always_attempt Client.always_exchange) fun listed => ?_
  cases listed with
  | ok => exact Call.always_pure
  | error e =>
    dsimp only
    split_ifs
    · exact Call.always_pure
    · exact Call.always_fail

theorem does_probeAccount {c : Client} {r : Except Halt Bool} (h : (probeAccount c).Does es (some r)) :
    r = .error .beyondCalendar ∨ ∃ account, TriesAccount c es account ∧ r = .ok account := by
  unfold probeAccount at h
  split_ifs at h with htoken
  · obtain ⟨rfl, hr⟩ := Call.does_pure.1 h
    cases hr
    exact .inr ⟨false, .spared htoken, rfl⟩
  · rcases Call.returns_of_attempt h with hbroken | ⟨v, xs, ys, rfl, hreturns, hrest⟩
    · exact .inl hbroken
    · have htried := TriesAccount.tried (Bool.eq_false_iff.2 htoken) hreturns
      cases v <;>
        obtain ⟨rfl, hr⟩ := Call.does_pure.1 hrest <;>
        cases hr <;>
        exact .inr ⟨_, (List.append_nil xs).symm ▸ htried, rfl⟩

theorem does_targets {r : Except Halt (List String)} (h : c.targets.Does es (some r)) :
    r = .error .beyondCalendar ∨
      ∃ names : Except Error (List String), Finds c es names ∧ r = names.mapError .error := by
  unfold targets at h
  split_ifs at h with hnone
  · obtain ⟨r', hlisted, hr⟩ := Call.does_bind_pure.1 h
    cases r' with
    | none => cases hr
    | some r' =>
      cases hr
      rcases Call.returns_of_does hlisted with rfl | ⟨v, hreturns, rfl⟩
      · exact .inl rfl
      · refine .inr ⟨_, .listed (List.isEmpty_iff.1 hnone) hreturns, ?_⟩
        cases v <;> rfl
  · obtain ⟨rfl, hr⟩ := Call.does_pure.1 h
    cases hr
    exact .inr ⟨_, .configured (mt List.isEmpty_iff.2 hnone), rfl⟩

/-- A refusal by a workspace ends the probe unless the account accepts the credentials. -/
theorem does_probeWorkspace {c : Client} {account : Bool} {name : String} {r : Except Halt Unit}
    (h : (probeWorkspace c account name).Does es (some r)) :
    r = .error .beyondCalendar ∨ ∃ t : Trial, t.name = name ∧ t.events = es ∧
      (c.listRoles (.workspace t.name) .account).Returns t.events t.outcome ∧
      ((r = .ok () ∧ (t.accepts = true ∨ account = true)) ∨
        ∃ e, r = .error (.error e) ∧ t.accepts = false ∧ account = false) := by
  rcases Call.returns_of_attempt h with hbroken | ⟨v, xs, ys, rfl, hreturns, hrest⟩
  · exact .inl hbroken
  · refine .inr ⟨⟨name, xs ++ ys, v⟩, rfl, rfl, ?_⟩
    cases v with
    | ok roles =>
      obtain ⟨rfl, hr⟩ := Call.does_pure.1 hrest
      cases hr
      exact ⟨(List.append_nil xs).symm ▸ hreturns, .inl ⟨rfl, .inl rfl⟩⟩
    | error e =>
      dsimp only at hrest
      split_ifs at hrest with haccount
      · obtain ⟨rfl, hr⟩ := Call.does_pure.1 hrest
        cases hr
        exact ⟨(List.append_nil xs).symm ▸ hreturns, .inl ⟨rfl, .inr haccount⟩⟩
      · obtain ⟨rfl, hr⟩ := Call.does_fail.1 hrest
        cases hr
        exact ⟨(List.append_nil xs).symm ▸ hreturns, .inr ⟨_, rfl, rfl, Bool.eq_false_iff.2 haccount⟩⟩

/-! ## The trials in the workspaces -/

section Tour
variable {account : Bool} {name : String} {names : List String} {t : Trial} {trials : List Trial}

theorem allAccept_cons : AllAccept (name :: names) (t :: trials) ↔
    t.name = name ∧ t.accepts = true ∧ AllAccept names trials := by
  simp only [AllAccept, List.map_cons, List.cons.injEq, List.forall_mem_cons]
  tauto

theorem tours_nil {c : Client} : Tours c account [] [] :=
  ⟨by simp, List.nil_prefix, fun _ => rfl, fun _ => .inl ⟨rfl, by simp⟩⟩

/-- Behind a workspace that does not end the probe the others are tried. -/
theorem Tours.cons {c : Client} (h : Tours c account names trials)
    (htried : (c.listRoles (.workspace t.name) .account).Returns t.events t.outcome)
    (hpasses : t.accepts = true ∨ account = true) : Tours c account (t.name :: names) (t :: trials) where
  tried := List.forall_mem_cons.2 ⟨htried, h.tried⟩
  ordered := (List.prefix_cons_inj t.name).2 h.ordered
  all haccount := congrArg (List.cons t.name) (h.all haccount)
  up_to_first haccount := by
    have haccepts : t.accepts = true := hpasses.resolve_right (Bool.eq_false_iff.1 haccount)
    rcases h.up_to_first haccount with hall | ⟨accepting, last, rfl, haccepting, hlast⟩
    · exact .inl (allAccept_cons.2 ⟨rfl, haccepts, hall⟩)
    · exact .inr ⟨t :: accepting, last, rfl, List.forall_mem_cons.2 ⟨haccepts, haccepting⟩, hlast⟩

/-- A workspace that ends the probe is the last that is tried. -/
theorem tours_refused {c : Client} (htried : (c.listRoles (.workspace t.name) .account).Returns t.events t.outcome)
    (hrefuses : t.accepts = false) (haccount : account = false) : Tours c account (t.name :: names) [t] where
  tried := List.forall_mem_singleton.2 htried
  ordered := (List.prefix_cons_inj t.name).2 List.nil_prefix
  all hno := absurd hno (Bool.eq_false_iff.1 haccount)
  up_to_first _ := .inr ⟨[], t, rfl, by simp, hrefuses⟩

/-- The trials end with an error exactly if they are ended by a workspace. -/
theorem does_tour {c : Client} {r : Except Halt Unit}
    (h : (names.forM (probeWorkspace c account)).Does es (some r)) :
    r = .error .beyondCalendar ∨ ∃ trials, Tours c account names trials ∧ es = trials.flatMap (·.events) ∧
      ((r = .ok () ∧ (account = true ∨ AllAccept names trials)) ∨
        ∃ e, r = .error (.error e) ∧ account = false ∧ ¬AllAccept names trials) := by
  induction names generalizing es with
  | nil =>
    obtain ⟨rfl, hr⟩ := Call.does_pure.1 h
    cases hr
    exact .inr ⟨[], tours_nil, rfl, .inl ⟨rfl, .inr ⟨rfl, by simp⟩⟩⟩
  | cons name names ih =>
    rcases Call.does_bind_some.1 h with ⟨halt, hfirst, rfl⟩ | ⟨_, xs, ys, rfl, hfirst, hrest⟩
    · rcases does_probeWorkspace hfirst with hbroken | ⟨t, rfl, rfl, htried, hpasses | ⟨e, he, hrefuses, haccount⟩⟩
      · cases hbroken
        exact .inl rfl
      · cases hpasses.1
      · cases he
        refine .inr ⟨[t], tours_refused htried hrefuses haccount, by simp, .inr ⟨e, rfl, haccount, ?_⟩⟩
        exact fun hall => Bool.eq_false_iff.1 hrefuses (hall.2 t (by simp))
    · rcases does_probeWorkspace hfirst with hbroken | ⟨t, rfl, rfl, htried, ⟨-, hpasses⟩ | ⟨e, he, -⟩⟩
      · cases hbroken
      · rcases ih hrest with hbroken | ⟨trials, htours, rfl, hend⟩
        · exact .inl hbroken
        · refine .inr ⟨t :: trials, htours.cons htried hpasses, by simp, ?_⟩
          rcases hend with ⟨hr, hall⟩ | ⟨e, hr, haccount, hnot⟩
          · refine .inl ⟨hr, ?_⟩
            rcases hpasses with haccepts | haccount
            · exact hall.imp_right fun hall => allAccept_cons.2 ⟨rfl, haccepts, hall⟩
            · exact .inl haccount
          · exact .inr ⟨e, hr, haccount, fun hall => hnot (allAccept_cons.1 hall).2.2⟩
      · cases he

end Tour

/-! ## The probe -/

/-- What is said in the end to be available: what the probe has for a value, if it has one. -/
def said (r : Except Halt Availability) : List Event :=
  r.toOption.toList.map fun a => ⟨.writeAvailability a, ()⟩

/-- The probe has a value exactly if the workspaces were found and the account accepts the credentials, or there
are workspaces and all of them do. -/
def Verdict (account : Bool) (names : Except Error (List String)) (trials : List Trial)
    (r : Except Halt Availability) : Prop :=
  ∀ a, r = .ok a ↔ ∃ ws, names = .ok ws ∧ (account = true ∨ ws ≠ [] ∧ AllAccept ws trials) ∧
    a = ⟨account, !ws.isEmpty⟩

section Verdict
variable {account : Bool} {names : Except Error (List String)} {trials : List Trial}

@[simp]
theorem said_error {halt : Halt} : said (.error halt) = [] := rfl

theorem verdict_ok {ws : List String} (h : account = true ∨ ws ≠ [] ∧ AllAccept ws trials) :
    Verdict account (.ok ws) trials (.ok ⟨account, !ws.isEmpty⟩) := by
  intro a
  constructor
  · intro ha
    exact ⟨ws, rfl, h, (Except.ok.inj ha).symm⟩
  · rintro ⟨_, hws, -, rfl⟩
    cases hws
    rfl

theorem verdict_error {halt : Halt}
    (h : ∀ ws, names = .ok ws → account = false ∧ (ws = [] ∨ ¬AllAccept ws trials)) :
    Verdict account names trials (.error halt) := by
  intro a
  constructor
  · nofun
  · rintro ⟨ws, hws, hyes, -⟩
    obtain ⟨haccount, hno⟩ := h ws hws
    rcases hyes with hyes | ⟨hsome, hall⟩
    · exact absurd hyes (Bool.eq_false_iff.1 haccount)
    · exact absurd hall (hno.resolve_left hsome)

end Verdict

/-- What is said when no workspace has ended the probe. -/
theorem does_saying {account : Bool} {ws : List String} {trials : List Trial} {r : Except Halt Availability}
    (h : (if account || !ws.isEmpty then
        Call.perform (.writeAvailability ⟨account, !ws.isEmpty⟩) >>= fun _ => pure ⟨account, !ws.isEmpty⟩
      else Call.fail (.credential .refusedEverywhere) : Call Availability).Does es (some r))
    (hall : account = true ∨ AllAccept ws trials) : Verdict account (.ok ws) trials r ∧ es = said r := by
  split_ifs at h with hsome
  · rcases Call.does_perform_bind.1 h with ⟨-, hr⟩ | ⟨_, rest, rfl, hrest⟩
    · cases hr
    obtain ⟨rfl, hr⟩ := Call.does_pure.1 hrest
    cases hr
    have hyes : account = true ∨ ws ≠ [] := by simpa using hsome
    refine ⟨verdict_ok ?_, rfl⟩
    rcases hall with haccount | hall
    · exact .inl haccount
    · exact hyes.imp_right fun hws => ⟨hws, hall⟩
  · obtain ⟨rfl, hr⟩ := Call.does_fail.1 h
    cases hr
    have hno : account = false ∧ ws = [] := by simpa using hsome
    refine ⟨verdict_error fun _ hws => ?_, rfl⟩
    cases hws
    exact ⟨hno.1, .inl hno.2⟩

/-- What is done of a probe, part by part. -/
theorem does_probe {r : Except Halt Availability} (h : c.probe.Does es (some r)) :
    (r = .error .beyondCalendar ∧ ∀ ev ∈ es, ev.Exchanges) ∨
    ∃ first account listing names trials, TriesAccount c.client first account ∧ Finds c listing names ∧
      Tours c.client account (names.toOption.getD []) trials ∧ Verdict account names trials r ∧
      es = first ++ listing ++ trials.flatMap (·.events) ++ said r ∧
      ∀ ev ∈ first ++ listing ++ trials.flatMap (·.events), ev.Exchanges := by
  -- Each part ends the probe or is followed by the next.
  rcases Call.does_bind_some.1 h with ⟨halt, hfirst, rfl⟩ | ⟨account, first, later, rfl, hfirst, hlater⟩
  · rcases does_probeAccount hfirst with hbroken | ⟨account, -, hr⟩
    · cases hbroken
      exact .inl ⟨rfl, exchanges_probeAccount _ _ hfirst⟩
    · cases hr
  obtain ⟨_, htries, hr⟩ := (does_probeAccount hfirst).resolve_left nofun
  cases hr
  have hxs := exchanges_probeAccount _ _ hfirst
  rcases Call.does_bind_some.1 hlater with ⟨halt, hlisting, rfl⟩ | ⟨ws, listing, rest, rfl, hlisting, hrest⟩
  · have hys := List.forall_mem_append.2 ⟨hxs, exchanges_targets _ _ hlisting⟩
    rcases does_targets hlisting with hbroken | ⟨e | ws, hfinds, hr⟩
    · cases hbroken
      exact .inl ⟨rfl, hys⟩
    · cases hr
      exact .inr ⟨first, account, _, .error e, [], htries, hfinds, tours_nil, verdict_error nofun, by simp,
        by simpa using hys⟩
    · cases hr
  obtain ⟨e | _, hfinds, hr⟩ := (does_targets hlisting).resolve_left nofun <;> cases hr
  have hys := List.forall_mem_append.2 ⟨hxs, exchanges_targets _ _ hlisting⟩
  rcases Call.does_bind_some.1 hrest with ⟨halt, htrials, rfl⟩ | ⟨_, mid, last, rfl, htrials, hlast⟩
  · have hzs := List.forall_mem_append.2 ⟨hys, Call.always_forM (fun _ _ => exchanges_probeWorkspace) _ _ htrials⟩
    rcases does_tour htrials with hbroken | ⟨trials, htours, rfl, ⟨hr, -⟩ | ⟨e, hr, haccount, hnot⟩⟩
    · cases hbroken
      exact .inl ⟨rfl, by rwa [List.append_assoc] at hzs⟩
    · cases hr
    · cases hr
      have hverdict : Verdict account (.ok ws) trials (.error (.error e)) := by
        refine verdict_error fun _ hws => ?_
        cases hws
        exact ⟨haccount, .inr hnot⟩
      exact .inr ⟨first, account, listing, .ok ws, trials, htries, hfinds, htours, hverdict, by simp, hzs⟩
  have hzs := List.forall_mem_append.2 ⟨hys, Call.always_forM (fun _ _ => exchanges_probeWorkspace) _ _ htrials⟩
  obtain ⟨trials, htours, rfl, ⟨-, hall⟩ | ⟨e, hr, -⟩⟩ := (does_tour htrials).resolve_left nofun
  · obtain ⟨hverdict, rfl⟩ := does_saying hlast hall
    exact .inr ⟨first, account, listing, .ok ws, trials, htries, hfinds, htours, hverdict, by simp, hzs⟩
  · cases hr

/-- Whatever is answered, a probe that is not broken off by an untimely reply has a value exactly if the workspaces
were found and the account accepts the credentials, or there are workspaces and all of them do. The account is tried
first, once, and then the workspaces in their order. What is remembered of what is available is the value,
and without one what it was before. -/
theorem probe_verdict {m m' : Memory} {r : Except Halt Availability} (hdoes : c.probe.Does es (some r))
    (hfollows : m.Follows es m') :
    ((r = .error .beyondCalendar ∧ Transport.Untimely c.client.credentials es) ∨
      ∃ first account listing names trials, TriesAccount c.client first account ∧ Finds c listing names ∧
        Tours c.client account (names.toOption.getD []) trials ∧ Verdict account names trials r ∧
        es = first ++ listing ++ trials.flatMap (·.events) ++ said r) ∧
    (∀ a, r = .ok a → m'.availability = a) ∧ ∀ halt, r = .error halt → m'.availability = m.availability := by
  rcases does_probe hdoes with
    ⟨rfl, hes⟩ | ⟨first, account, listing, names, trials, htries, hfinds, htours, hverdict, rfl, hes⟩
  · have huntimely := (composed_probe.stops es _ hdoes).1 rfl
    exact ⟨.inl ⟨rfl, huntimely⟩, nofun, fun _ _ => hfollows.availability_eq hes⟩
  · refine ⟨.inr ⟨first, account, listing, names, trials, htries, hfinds, htours, hverdict, rfl⟩, ?_, ?_⟩
    · rintro a rfl
      obtain ⟨k, -, -, rfl⟩ := Memory.follows_concat.1 hfollows
      rfl
    · rintro halt rfl
      rw [said_error, List.append_nil] at hfollows
      exact hfollows.availability_eq hes

/-- The account refuses the password of a user and the one workspace accepts it. -/
theorem probe_verdict_lone : ∃ es first listing trials,
    lone.probe.Does es (some (.ok ⟨false, true⟩)) ∧ TriesAccount lone.client first false ∧
    Finds lone listing (.ok ["w"]) ∧ Tours lone.client false ["w"] trials ∧ AllAccept ["w"] trials ∧
    refusedState.1.availability = ⟨false, true⟩ := by
  obtain ⟨es, hdoes, hfollows⟩ := ends_probe_lone.does
  obtain ⟨hcourse, havailable, -⟩ := probe_verdict hdoes hfollows
  obtain ⟨first, account, listing, names, trials, htries, hfinds, htours, hverdict, -⟩ :=
    hcourse.resolve_left fun hbroken => nomatch hbroken.1
  obtain ⟨ws, rfl, hyes, ha⟩ := (hverdict _).1 rfl
  obtain rfl : false = account := congrArg Availability.account ha
  have hall := (hyes.resolve_left nofun).2
  obtain rfl : ["w"] = ws := by
    generalize hnames : (Except.ok ws : Except Error (List String)) = names at hfinds
    cases hfinds with
    | configured => exact (Except.ok.inj hnames).symm
    | listed hnone => cases hnone
  exact ⟨es, first, listing, trials, hdoes, htries, hfinds, htours, hall, havailable _ rfl⟩

end Connector
end AccessSync
