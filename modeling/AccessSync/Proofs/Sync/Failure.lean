import AccessSync.Proofs.Json.Rereading
import AccessSync.Proofs.Sync.Operations
import AccessSync.Proofs.Transport.Failure
/-!
# Failures are told

No operation goes on behind a request that failed: it ends with the error that tells of the failure
(`failures_are_told`). The one exception are the grants of a workspace that knows no assignments, of
which there are none.
-/

namespace AccessSync

variable {α : Type} {c : Client} {M : Http.Method → Prop} {L : ResourceId → Prop}

/-- A call that is made of exchanges and of effects on the memory tells of failures. -/
theorem Client.Consists.tells {x : Call α} (h : c.Consists M L x) : x.TellsFailures c.credentials := by
  induction h with
  | pure => exact Call.tells_pure
  | fail => exact Call.tells_fail
  | @perform e he =>
    refine Call.tells_of_quiet (Call.always_perform fun _ => ?_)
    cases e with
    | send | now | readToken => exact he.elim
    | _ => exact trivial
  | exchange => exact Transport.exchange_tells
  | bind _ _ ihx ihf => exact ihx.bind ihf

/-- Without exchanges there are no requests. -/
theorem Client.Consists.always_quiet {x : Call α} (h : c.Consists (fun _ => False) L x) :
    x.Always Event.Quiet := by
  refine h.always (fun e _ he => ?_) fun _ hno => hno.elim
  cases e with
  | send | now | readToken => exact he.elim
  | _ => exact trivial

namespace Sync

namespace Operation

/-- How the operation ends after a failure. -/
def afterFailure : (op : Operation) → Halt → Except Halt op.Result
  | .grants .workspace _ _, .error (.api e) =>
    if e.isUnavailable then .ok (.last [] e.rateLimit) else .error (.error (.api e))
  | _, h => .error h

theorem afterFailure_of_not_tolerates {op : Operation} (hop : ¬op.Tolerates) (h : Halt) :
    op.afterFailure h = .error h := by
  cases op with
  | grants t resource token =>
    cases t with
    | workspace => exact absurd (.grants resource token) hop
    | _ => rfl
  | _ => rfl

end Operation

/-- The assignments of a workspace are the one thing that may fail without an error. -/
theorem tells_workspaceGrants (c : Client) (resource : Resource) (token : String) :
    (workspaceGrants c resource).TellsBy c.credentials
      (Operation.grants .workspace resource token).afterFailure := by
  refine Call.TellsBy.behind (Call.always_bind (Call.always_perform fun _ => trivial) fun _ => Call.always_pure) ?_
  intro available
  cases available with
  | false => exact Call.tells_of_quiet Call.always_pure
  | true =>
    refine Call.TellsBy.behind Call.always_ofExcept fun id => ?_
    refine Call.TellsBy.attempt_bind Client.reads_listAssignments.tells ?_ ?_ rfl
    · rintro ⟨assignments, rateLimit⟩
      have hgrants : (assignments.mapM (assignmentGrant c resource)).Always Event.Quiet :=
        (Client.consists_mapM (L := fun _ => True) (fun _ => consists_assignmentGrant) _).always_quiet
      exact Call.tells_of_quiet (Call.always_bind hgrants fun _ => Call.always_pure)
    · intro e ys result h
      cases e with
      | api refusal =>
        simp only [Error.api?, Operation.afterFailure] at h ⊢
        split_ifs at h ⊢
        · obtain ⟨rfl, hresult⟩ := Call.does_pure.1 h
          exact ⟨rfl, Option.some.inj hresult⟩
        · obtain ⟨rfl, hresult⟩ := Call.does_fail.1 h
          exact ⟨rfl, Option.some.inj hresult⟩
      | _ =>
        obtain ⟨rfl, hresult⟩ := Call.does_fail.1 h
        exact ⟨rfl, Option.some.inj hresult⟩

/-- At the first request that fails an operation stops, and its error tells of that: a refusal with its
status and what its reply says of the quota. Only if the assignments of a workspace are refused because
there are none, its grants are an empty page instead. -/
theorem failures_are_told {op : Operation} {allowed : List String} {es before rest : List Event}
    {result : Except Halt op.Result} (h : (op.call c allowed).Does es (some result))
    (hes : es = before ++ rest) (hfails : Transport.Fails c.credentials rest) :
    ∃ h, Transport.Told c.credentials rest h ∧ result = op.afterFailure h := by
  have htells : (op.call c allowed).TellsBy c.credentials op.afterFailure := by
    by_cases hop : op.Tolerates
    · cases hop with
      | grants resource token => exact tells_workspaceGrants c resource token
    · have hafter : op.afterFailure = .error := funext (Operation.afterFailure_of_not_tolerates hop)
      rw [hafter]
      exact (consists_operation c allowed (op.listsUnder_of_forall fun _ => trivial) hop).tells
  have hne : rest ≠ [] := by
    rintro rfl
    cases hfails
  exact htells es result before rest [] h hes hne (by simpa using hfails)

/-! ## A workspace without assignments -/

/-- What a workspace answers that does not know assignments. -/
def unavailableReply : Http.Reply :=
  ⟨⟨400⟩, [], some (Utf8.encode (Json.object [("message", .string ApiError.unavailable)]).toText.toList)⟩

def unavailableRefusal : ApiError := ⟨⟨400⟩, "", ApiError.unavailable, ⟨.unknown, none, none, none⟩⟩

theorem decode_unavailableReply (read : Json → Option α) (now : Instant) :
    Transport.decode read now unavailableReply = .error (.error (.api unavailableRefusal)) := by
  have hquota : Http.RateLimit.ofReply? now ⟨400⟩ [] = some ⟨.unknown, none, none, none⟩ := rfl
  have hfailed : Http.Status.isSuccess ⟨400⟩ = false := by decide
  have hbody : Json.ofBytes (Utf8.encode (Json.object [("message", .string ApiError.unavailable)]).toText.toList) =
      some (.object [("message", .string ApiError.unavailable)]) := Json.ofBytes_toText rfl
  have htexts : Transport.readErrorTexts (.object [("message", .string ApiError.unavailable)]) =
      some ("", ApiError.unavailable) := rfl
  simp only [Transport.decode, unavailableReply, hquota, hfailed, Bool.not_false, if_true, Transport.readError,
    hbody, Option.bind_some, htexts, unavailableRefusal]

/-- Where a client of the account without credentials finds the workspaces, or something within one. -/
def workspacesUrl (within : List String) : Url :=
  ⟨['h', 't', 't', 'p'], some ⟨[], [], .name ['h'], none⟩, false,
    .segments ((["api", "2.0", "accounts", "a", "workspaces"] ++ within).map (·.toList)), none, none⟩

def refusedWorkspace : Resource := workspaceResource ⟨7, "w", "", "w"⟩ (.ofType .account "a")

/-- A request at a URL is refused in that way. -/
def refusedAt (url : Url) : List Event :=
  [⟨.send (Transport.requestAt url none .get none), some unavailableReply⟩, ⟨.now, ⟨0⟩⟩]

theorem refusedAt_fails (url : Url) : Transport.Fails Client.plain.credentials (refusedAt url) :=
  .unserved (by rintro ⟨_, hissued, -⟩; cases hissued) (.inl rfl)

theorem refused_does {read : Json → Option α} {url : Except Error Url} {base : Url} (hurl : url = .ok base)
    (hsendable : Transport.Sendable Client.plain.credentials .account base base none) :
    (Client.plain.exchange read .get .account url none []).Does (refusedAt base)
      (some (.error (.error (.api unavailableRefusal)))) := by
  rw [← decode_unavailableReply read ⟨0⟩]
  exact Call.does_ofExcept_bind.2 (.inr ⟨base, hurl, Transport.exchange_does_bare hsendable _ _⟩)

theorem listing_refused_does : ((Operation.client .listWorkspaces).call Client.plain []).Does
    (refusedAt (workspacesUrl [])) (some (.error (.error (.api unavailableRefusal)))) := by
  have hurl : Client.plain.resolver.resolve .workspaces .account = .ok (workspacesUrl []) :=
    Client.ok_of_toOption (by decide +kernel)
  have hsendable : Transport.Sendable Client.plain.credentials .account (workspacesUrl []) (workspacesUrl []) none := by
    refine ⟨rfl, Client.ok_of_toOption ?_, ?_, ?_⟩ <;> decide +kernel
  have hlist : Client.plain.listWorkspaces.Does (refusedAt (workspacesUrl []))
      (some (.error (.error (.api unavailableRefusal)))) :=
    Call.does_bind.2 (.inr (.inl ⟨_, refused_does hurl hsendable, rfl⟩))
  exact Call.does_forget.2 ⟨_, hlist, rfl⟩

theorem grants_refused_does : ((Operation.grants .workspace refusedWorkspace "").call Client.plain []).Does
    (⟨.readAvailability, ⟨true, true⟩⟩ :: refusedAt (workspacesUrl ["7", "permissionassignments"]))
    (some (.ok (.last [] ⟨.unknown, none, none, none⟩))) := by
  have hurl : Client.plain.assignmentsUrl 7 [] = .ok (workspacesUrl ["7", "permissionassignments"]) :=
    Client.ok_of_toOption (by decide +kernel)
  have hsendable : Transport.Sendable Client.plain.credentials .account
      (workspacesUrl ["7", "permissionassignments"]) (workspacesUrl ["7", "permissionassignments"]) none := by
    refine ⟨rfl, Client.ok_of_toOption ?_, ?_, ?_⟩ <;> decide +kernel
  have hunavailable : unavailableRefusal.isUnavailable = true := by decide +kernel
  have hid : workspaceId refusedWorkspace = .ok 7 := rfl
  refine Call.does_bind.2 (.inr (.inr ⟨true, [⟨.readAvailability, ⟨true, true⟩⟩], _, rfl, ?_, ?_⟩))
  · exact Call.does_bind_pure.2 ⟨_, Call.does_perform.2 (.inr ⟨_, rfl, rfl⟩), rfl⟩
  refine Call.does_ofExcept_bind.2 (.inr ⟨7, hid, ?_⟩)
  have hlist : (Call.attempt (Client.plain.listAssignments 7)).Does
      (refusedAt (workspacesUrl ["7", "permissionassignments"])) (some (.ok (.error (.api unavailableRefusal)))) :=
    Call.does_attempt.2 ⟨_, refused_does hurl hsendable, rfl⟩
  refine Call.does_bind.2 (.inr (.inr ⟨_, _, [], (List.append_nil _).symm, hlist, ?_⟩))
  simp only [Error.api?, hunavailable, if_true]
  exact Call.does_pure.2 ⟨rfl, rfl⟩

/-- One reply that refuses makes the listing of workspaces fail and the grants of a workspace empty. -/
theorem failures_are_told_of_unavailable :
    (∃ h, Transport.Told Client.plain.credentials (refusedAt (workspacesUrl [])) h ∧
      .error (.error (.api unavailableRefusal)) = (Operation.client .listWorkspaces).afterFailure h) ∧
    ∃ h, Transport.Told Client.plain.credentials (refusedAt (workspacesUrl ["7", "permissionassignments"])) h ∧
      .ok (.last [] ⟨.unknown, none, none, none⟩) =
        (Operation.grants .workspace refusedWorkspace "").afterFailure h :=
  ⟨failures_are_told listing_refused_does (List.nil_append _).symm (refusedAt_fails _),
    failures_are_told grants_refused_does (List.singleton_append).symm (refusedAt_fails _)⟩

end Sync

end AccessSync
