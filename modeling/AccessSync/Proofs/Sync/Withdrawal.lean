import AccessSync.Proofs.Client.Wire
import AccessSync.Proofs.Sync.RolePermission
/-!
# Withdrawing a role

A role is withdrawn by fetching the principal and replacing it without the first occurrence of the role. What
is left has the role still if it was held more than once, and only then does withdrawing it again write something.
Main statement: `withdraw_takes_one`, of every role, listed or not.
-/

namespace AccessSync

/-! ## Permissions without one occurrence -/

namespace Permissions

variable {l l' : Permissions} {kind : PermissionKind} {value : String}

/-- One occurrence of the value has been taken from the list of that kind, if there was one, and nothing else. -/
structure LosesOne (kind : PermissionKind) (value : String) (l l' : Permissions) : Prop where
  elsewhere : ∀ k ≠ kind, l'.list k = l.list k
  others : (l'.list kind).filter (· ≠ value) = (l.list kind).filter (· ≠ value)
  count : (l'.list kind).count value = (l.list kind).count value - 1

theorem list_setList (values : List String) (k : PermissionKind) :
    (l.setList kind values).list k = if k = kind then values else l.list k := by
  cases kind <;> cases k <;> rfl

theorem losesOne_remove : LosesOne kind value l (l.remove kind value).2 := by
  unfold remove
  split_ifs with hheld
  · refine ⟨fun k hk => by rw [list_setList, if_neg hk], ?_, by rw [list_setList, if_pos rfl, List.count_erase_self]⟩
    obtain ⟨us, vs, -, hlist, herase⟩ := List.exists_erase_eq (of_decide_eq_true hheld)
    rw [list_setList, if_pos rfl, herase, hlist]
    simp
  · have hnone : (l.list kind).count value = 0 := List.count_eq_zero.2 (by simpa [contains] using hheld)
    exact ⟨fun _ _ => rfl, rfl, by rw [hnone]⟩

theorem remove_fst : (l.remove kind value).1 = l.contains kind value := by
  unfold remove
  split_ifs with hheld
  · exact hheld.symm
  · simpa using hheld

/-- Whoever has lost one occurrence has another only if there were two. -/
theorem LosesOne.contains_iff (h : LosesOne kind value l l') :
    l'.contains kind value = true ↔ 2 ≤ (l.list kind).count value := by
  unfold contains
  rw [decide_eq_true_iff, ← List.count_pos_iff, h.count]
  omega

end Permissions

namespace Principal

variable {p : Principal} {kind : PermissionKind} {value : String}

theorem permissions_setPermissions (l : Permissions) : (p.setPermissions l).permissions = l := by
  cases p <;> rfl

theorem kind_setPermissions (l : Permissions) : (p.setPermissions l).kind = p.kind := by
  cases p <;> rfl

theorem removePermission_of_missing (h : p.permissions.contains kind value = false) :
    (p.removePermission kind value).2 = p := by
  have hsame : p.permissions.remove kind value = (false, p.permissions) :=
    if_neg (Bool.eq_false_iff.1 h)
  unfold removePermission
  rw [hsame]
  cases p <;> rfl

end Principal

/-! ## What was fetched and what was written -/

namespace Client

variable {α : Type} {c : Client} {es : List Event} {scope : Scope} {d : Directory α} {id : String} {a : α}
  {rateLimit : Http.RateLimit}

/-- A fetch sends one GET, so its object is the only one that was fetched. -/
theorem read_of_fetched {v : Json} (h : (c.get d scope id).Does es (some (.ok (a, rateLimit))))
    (hfetched : c.Fetched d.endpoint scope id v es) : d.read 0 v = some a := by
  obtain ⟨_, request, reply, -, hasks, hev, hcontent⟩ := hfetched
  have hget : Event.Asks ⟨.send request, some reply⟩ := ⟨request, rfl, by rw [hasks.method]; decide⟩
  rcases does_exchange_resolved h with ⟨-, hno⟩ | ⟨_, sent, xs, ys, -, rfl, hprepares, -, hcourse⟩
  · exact absurd rfl (hno _)
  generalize hq : some (Except.ok (a, rateLimit)) = q at hcourse
  cases hcourse with
  | unanswered => cases hq
  | answered => cases hq
  | read reply' now =>
    obtain ⟨v', hcontent', hread⟩ :=
      Transport.json_of_content? (Transport.content?_of_decode (Option.some.inj hq).symm)
    rcases List.mem_append.1 hev with hev | hev
    · exact absurd hget (hprepares _ hev).not_asks
    rcases List.mem_cons.1 hev with heq | hev
    · cases heq
      obtain rfl : v' = v := Option.some.inj (hcontent'.symm.trans hcontent)
      exact hread
    · rw [List.mem_singleton] at hev
      cases hev

theorem principal_of_fetched {kind : PrincipalKind} {p : Principal} {v : Json}
    (h : (c.getPrincipal scope kind id).Does es (some (.ok (p, rateLimit))))
    (hfetched : c.Fetched kind.endpoint scope id v es) : Principal.read v kind = some p := by
  cases kind <;>
    obtain ⟨r, hget, hr⟩ := Call.does_bind_pure.1 h <;>
    rcases r with _ | _ | ⟨found, _⟩ <;>
    cases hr
  · exact congrArg (Option.map Principal.user) (read_of_fetched (d := .users) hget hfetched)
  · exact congrArg (Option.map Principal.group) (read_of_fetched (d := .groups) hget hfetched)
  · exact congrArg (Option.map Principal.servicePrincipal)
      (read_of_fetched (d := .servicePrincipals) hget hfetched)

/-- A replacement sends nothing but a PUT, and a request for a token before it. -/
theorem put_of_asks {p : Principal} {r : Option (Except Halt Http.RateLimit)} {ev : Event}
    (h : (c.putPrincipal scope p).Does es r) (hev : ev ∈ es) (hasks : ev.Asks) : ev.IsPut := by
  obtain ⟨request, hrequest, hm⟩ := hasks
  obtain ⟨answer, rfl⟩ := Event.eq_send hrequest
  have hput : ∀ {β : Type} {d : Directory β} {b : β} {r : Option (Except Halt Http.RateLimit)},
      (c.put d scope b).Does es r → request.method = .put := by
    intro β d b r h
    obtain ⟨r', hx, -⟩ := (Call.does_bind_pure (g := fun x : Unit × Http.RateLimit => x.2)).1 h
    obtain ⟨url, -, hasks⟩ := asks_of_exchange hx hev hm
    exact hasks.method
  refine ⟨request, rfl, ?_⟩
  cases p <;> exact hput h

/-- A replacement that has succeeded was sent. -/
theorem put_of_ok {p : Principal} (h : (c.putPrincipal scope p).Does es (some (.ok rateLimit))) :
    ∃ ev ∈ es, ev.IsPut := by
  generalize hr : some (Except.ok rateLimit) = r at h
  cases putPrincipal_writesOnce h with
  | unwritten _ hno => exact (hno rateLimit hr.symm).elim
  | written _ hput hcourse _ _ =>
    obtain ⟨answer, fs, rfl, -⟩ := hcourse.sends
    exact ⟨⟨.send _, answer⟩, by simp, _, rfl, hput⟩

end Client

namespace Sync

variable {c : Client} {es : List Event} {parent : ResourceId} {role : String}

/-- How often a role under that parent is held. -/
def timesHeld (parent : ResourceId) (role : String) (l : Permissions) : Nat :=
  (l.list (.ofScope (.ofParent (some parent)))).count role

/-- The principal was fetched, and `p` was found. -/
def Found (c : Client) (scope : Scope) (principal : ResourceId) (p : Principal) (es : List Event) : Prop :=
  ∃ kind id v, principal.principalKind? = some kind ∧ principal.platformId = .ok id ∧
    c.Fetched kind.endpoint scope id v es ∧ Principal.read v kind = some p

/-- Where `p` was found, the peer holds `p'` then: it is what has been written, and what was found if nothing has. -/
def Leaves (p p' : Principal) (es : List Event) : Prop :=
  (∀ request answer, ⟨.send request, answer⟩ ∈ es → request.method = .put →
    ∃ written, request.body = .json written ∧ Principal.read written p.kind = some p') ∧
  ((∀ ev ∈ es, ¬ev.IsPut) → p' = p)

/-- The course of a withdrawal that has fetched a principal: if that holds the role it is replaced, and otherwise
nothing is left to do. -/
inductive Withdraws (c : Client) (scope : Scope) (role : String) (p : Principal) :
    List Event → Option (Except Halt Unit) → Prop
  | idle : p.permissions.contains (.ofScope scope) role = false → Withdraws c scope role p [] (some (.ok ()))
  | replaced {ys : List Event} {r : Option (Except Halt Http.RateLimit)} :
      p.permissions.contains (.ofScope scope) role = true →
      (c.putPrincipal scope (p.removePermission (.ofScope scope) role).2).Does ys r →
      Withdraws c scope role p ys (r.map (·.map fun _ => ()))

/-- A withdrawal fails without a write or fetches the principal and goes on from there. -/
theorem does_withdrawal {g : Grant} (hgranted : g.entitlement.resource = roleResource role parent)
    {r : Option (Except Halt Unit)} (h : ((roles c).revoke g).Does es r) :
    ((∀ ev ∈ es, ¬ev.IsPut) ∧ r ≠ some (.ok ())) ∨
    ∃ kind id p rateLimit xs ys, g.principal.principalKind? = some kind ∧ g.principal.platformId = .ok id ∧
      es = xs ++ ys ∧
      (c.getPrincipal (.ofParent (some parent)) kind id).Does xs (some (.ok (p, rateLimit))) ∧
      Withdraws c (.ofParent (some parent)) role p ys r := by
  by_cases hleads : ∃ kind id, g.principal.LeadsTo kind id
  · obtain ⟨kind, id, hleads⟩ := hleads
    have hkind := principalKind?_of_require (hleads.kind "role membership")
    have hheld : ∀ {p : Principal} {changed : Bool},
        ((Edit.revoke g).ofPermissions p (.ofScope (.ofParent (some parent))) role).1 = changed →
        p.permissions.contains (.ofScope (.ofParent (some parent))) role = changed := fun hchanged =>
      Permissions.remove_fst.symm.trans hchanged
    cases (does_roleEdit (x := .revoke g) hgranted hleads).1 h with
    | @unfetched _ r hget hno =>
      refine .inl ⟨(Client.get_of_getPrincipal hget).1, ?_⟩
      rcases r with _ | halt | found
      · exact nofun
      · exact nofun
      · exact absurd rfl (hno found)
    | idle hget hsame =>
      exact .inr ⟨kind, id, _, _, _, [], hkind, hleads.id, by simp, hget, .idle (hheld hsame)⟩
    | replaced hget hchanged hput =>
      exact .inr ⟨kind, id, _, _, _, _, hkind, hleads.id, rfl, hget, .replaced (hheld hchanged) hput⟩
  · obtain ⟨rfl, e, rfl⟩ := does_roleEdit_of_not_leads (x := .revoke g) (fun kind id h => hleads ⟨kind, id, h⟩) h
    exact .inl (by simp)

section Withdraws
variable {p : Principal} {scope : Scope} {xs ys : List Event} {r : Option (Except Halt Unit)}

theorem Withdraws.put_of_asks (h : Withdraws c scope role p ys r) {ev : Event} (hev : ev ∈ ys) (hasks : ev.Asks) :
    ev.IsPut := by
  cases h with
  | idle => cases hev
  | replaced _ hput => exact Client.put_of_asks hput hev hasks

/-- It writes something only if the principal holds the role, and then it does if it succeeds. -/
theorem Withdraws.writes_iff (h : Withdraws c scope role p ys r) :
    ((∃ ev ∈ ys, ev.IsPut) → p.permissions.contains (.ofScope scope) role = true) ∧
    (p.permissions.contains (.ofScope scope) role = true → r = some (.ok ()) → ∃ ev ∈ ys, ev.IsPut) := by
  cases h with
  | idle hno =>
    constructor
    · rintro ⟨_, hev, -⟩
      cases hev
    · intro hheld
      rw [hno] at hheld
      cases hheld
  | @replaced _ r' hheld hput =>
    refine ⟨fun _ => hheld, fun _ hr => ?_⟩
    rcases r' with _ | _ | rateLimit <;> cases hr
    exact Client.put_of_ok hput

/-- What a withdrawal leaves has lost one occurrence of the role, and nothing else of the principal changes. -/
theorem Withdraws.leaves (h : Withdraws c scope role p ys r) (hr : r = some (.ok ()))
    (hxs : ∀ ev ∈ xs, ¬ev.IsPut) :
    Leaves p (p.removePermission (.ofScope scope) role).2 (xs ++ ys) := by
  constructor
  · intro request answer hev hm
    have hev : ⟨.send request, answer⟩ ∈ ys :=
      (List.mem_append.1 hev).resolve_left fun hev => hxs _ hev ⟨request, rfl, hm⟩
    cases h with
    | idle => cases hev
    | replaced _ hput =>
      obtain ⟨_, -, hasks⟩ := Client.replaces_of_putPrincipal hput hev hm
      exact ⟨_, hasks.body, p.kind_setPermissions _ ▸ Principal.read_toJson _⟩
  · intro hno
    have hheld : ¬p.permissions.contains (.ofScope scope) role = true := by
      intro hheld
      obtain ⟨ev, hev, hput⟩ := h.writes_iff.2 hheld hr
      exact hno ev (List.mem_append_right xs hev) hput
    exact Principal.removePermission_of_missing (Bool.eq_false_iff.2 hheld)

end Withdraws

/-- Whatever principal was found is the one that the withdrawal goes on with. -/
theorem withdraws_of_found {g : Grant} (hgranted : g.entitlement.resource = roleResource role parent)
    {r : Option (Except Halt Unit)} {p : Principal}
    (h : ((roles c).revoke g).Does es r) (hfound : Found c (.ofParent (some parent)) g.principal p es) :
    ((∀ ev ∈ es, ¬ev.IsPut) ∧ r ≠ some (.ok ())) ∨
      ∃ xs ys, es = xs ++ ys ∧ (∀ ev ∈ xs, ¬ev.IsPut) ∧ Withdraws c (.ofParent (some parent)) role p ys r := by
  rcases does_withdrawal hgranted h with hno | ⟨kind, id, q, rateLimit, xs, ys, hkind, hid, rfl, hget, hys⟩
  · exact .inl hno
  obtain ⟨_, _, v, hkind', hid', hfetched, hread⟩ := hfound
  obtain rfl := Option.some.inj (hkind.symm.trans hkind')
  obtain rfl := Except.ok.inj (hid.symm.trans hid')
  -- What follows the fetch sends no other GET.
  have hfetched : c.Fetched kind.endpoint (.ofParent (some parent)) id v xs := by
    obtain ⟨url, request, reply, hurl, hasks, hev, hcontent⟩ := hfetched
    refine ⟨url, request, reply, hurl, hasks, (List.mem_append.1 hev).resolve_right fun hev => ?_, hcontent⟩
    obtain ⟨_, hsent, hput⟩ : Event.IsPut ⟨.send request, some reply⟩ :=
      hys.put_of_asks hev ⟨request, rfl, by rw [hasks.method]; decide⟩
    cases hsent
    cases hasks.method.symm.trans hput
  obtain rfl : q = p := Option.some.inj ((Client.principal_of_fetched hget hfetched).symm.trans hread)
  exact .inr ⟨xs, ys, rfl, (Client.get_of_getPrincipal hget).1, hys⟩

/-- A role is withdrawn from a principal by one occurrence: all other permissions stay as they were and in
order, and so does everything else that is known of the principal. The role is taken away entirely, and
withdrawing it again writes nothing, exactly if the principal held it no more than once. -/
theorem withdraw_takes_one {g : Grant} (hgranted : g.entitlement.resource = roleResource role parent)
    (h : ((roles c).revoke g).Does es (some (.ok ()))) :
    ∃ p l, Found c (.ofParent (some parent)) g.principal p es ∧ Leaves p (p.setPermissions l) es ∧
      p.permissions.LosesOne (.ofScope (.ofParent (some parent))) role l ∧
      (holdsRole parent role l = true ↔ 2 ≤ timesHeld parent role p.permissions) ∧
      ∀ es' r', ((roles c).revoke g).Does es' r' →
        Found c (.ofParent (some parent)) g.principal (p.setPermissions l) es' →
        ((∃ ev ∈ es', ev.IsPut) → 2 ≤ timesHeld parent role p.permissions) ∧
        (2 ≤ timesHeld parent role p.permissions → r' = some (.ok ()) → ∃ ev ∈ es', ev.IsPut) := by
  obtain ⟨-, hno⟩ | ⟨kind, id, p, rateLimit, xs, ys, hkind, hid, rfl, hget, hys⟩ := does_withdrawal hgranted h
  · exact absurd rfl hno
  obtain ⟨hreads, hfound⟩ := Client.get_of_getPrincipal hget
  obtain ⟨v, hfetched, hread⟩ := hfound p rateLimit rfl
  have hloses : p.permissions.LosesOne (.ofScope (.ofParent (some parent))) role (p.permissions.remove _ role).2 :=
    Permissions.losesOne_remove
  have hleft := hloses.contains_iff
  refine ⟨p, (p.permissions.remove _ role).2, ?_, hys.leaves rfl hreads, hloses, ?_, fun es' r' h' hfound' => ?_⟩
  · exact ⟨kind, id, v, hkind, hid, hfetched.mono (List.subset_append_left xs ys), hread⟩
  · rwa [contains_ofParent] at hleft
  rcases withdraws_of_found hgranted h' hfound' with ⟨hno, hr⟩ | ⟨xs', ys', rfl, hreads', hys'⟩
  · exact ⟨fun ⟨ev, hev, hput⟩ => absurd hput (hno ev hev), fun _ hr' => absurd hr' hr⟩
  · obtain ⟨hwrites, hwritten⟩ := hys'.writes_iff
    rw [Principal.permissions_setPermissions, hleft] at hwrites hwritten
    constructor
    · rintro ⟨ev, hev, hput⟩
      exact hwrites ⟨ev, (List.mem_append.1 hev).resolve_left fun hev => hreads' ev hev hput, hput⟩
    · intro htwice hr
      obtain ⟨ev, hev, hput⟩ := hwritten htwice hr
      exact ⟨ev, List.mem_append_right xs' hev, hput⟩

/-! ## A user with a role twice -/

/-- The user with as many of the account's role. -/
def adminTimes (n : Nat) : User := { alice with permissions := ⟨List.replicate n "account_admin", []⟩ }

/-- The user has the account's role. -/
def adminGranted : Grant :=
  .ofSlug (roleResource "account_admin" (.ofType .account "a")) Entitlement.member (.ofType .user "1") none

/-- The user is fetched. -/
def adminFetch (n : Nat) : List Event :=
  [⟨.send aliceRead, some (Transport.replyOf (adminTimes n).toJson.toText)⟩, ⟨.now, ⟨0⟩⟩]

/-- The user is replaced. -/
def adminPut (n : Nat) : List Event :=
  [⟨.send (Transport.requestAt aliceUrl none .put (some (adminTimes n).toJson)), some (Transport.replyOf "")⟩,
    ⟨.now, ⟨0⟩⟩]

theorem adminPut_does (n : Nat) : (Client.plain.putPrincipal .account (.user (adminTimes n))).Does (adminPut n)
    (some (.ok ⟨.unknown, none, none, none⟩)) := user_put_does rfl

section Admin
variable (n : Nat)

theorem admin_body : Transport.readBody (Utf8.encode (adminTimes n).toJson.toText.toList) =
    some (adminTimes n).toJson :=
  Transport.readBody_object (User.fieldsPlain_record _)

theorem admin_found {rest : List Event} : Found Client.plain .account (.ofType .user "1")
    (.user (adminTimes n)) (adminFetch n ++ rest) := by
  obtain ⟨hurl, hsendable⟩ := alice_reachable
  refine ⟨.user, "1", _, rfl, rfl, ⟨aliceUrl, aliceRead, _, hurl, ⟨rfl, rfl, aliceUrl, hsendable.prepared, rfl⟩,
    List.mem_cons_self, ?_⟩, Principal.read_toJson (.user (adminTimes n))⟩
  simp [Transport.content?, Transport.replyOf, admin_body, Http.Status.isSuccess, Principal.toJson]

theorem adminFetch_does : (Client.plain.getPrincipal .account .user "1").Does (adminFetch n)
    (some (.ok (.user (adminTimes n), ⟨.unknown, none, none, none⟩))) := by
  have hread : (Transport.readBody (Utf8.encode (adminTimes n).toJson.toText.toList)).bind (User.read 0) =
      some (adminTimes n) := by
    rw [admin_body]
    exact User.read_toJson (by decide) _
  exact user_get_does hread

/-- The user is fetched and replaced by one who has the role once less. -/
theorem withdrawal_does :
    ((roles Client.plain).revoke adminGranted).Does (adminFetch (n + 1) ++ adminPut n) (some (.ok ())) :=
  user_change_does (adminFetch_does (n + 1)) rfl (adminPut_does n)

end Admin

/-- A role that the user has once is taken away from the user. -/
theorem withdraw_takes_one_of_once :
    ((roles Client.plain).revoke adminGranted).Does (adminFetch 1 ++ adminPut 0) (some (.ok ())) ∧
    ∃ p l, Found Client.plain .account (.ofType .user "1") p (adminFetch 1 ++ adminPut 0) ∧
      Leaves p (p.setPermissions l) (adminFetch 1 ++ adminPut 0) ∧
      p.permissions.LosesOne .role "account_admin" l ∧
      (holdsRole (.ofType .account "a") "account_admin" l = true ↔
        2 ≤ timesHeld (.ofType .account "a") "account_admin" p.permissions) := by
  have hdoes := withdrawal_does 0
  obtain ⟨p, l, hfound, hleaves, hloses, hholds, -⟩ := withdraw_takes_one rfl hdoes
  exact ⟨hdoes, p, l, hfound, hleaves, hloses, hholds⟩

/-- One that the user has twice is still there, and withdrawing it again writes again. -/
theorem withdrawn_role_is_left :
    "account_admin" ∈ rolesUnder (.ofType .account "a") ∧
    ((roles Client.plain).revoke adminGranted).Does (adminFetch 2 ++ adminPut 1) (some (.ok ())) ∧
    Found Client.plain .account (.ofType .user "1") (.user (adminTimes 2)) (adminFetch 2 ++ adminPut 1) ∧
    Leaves (.user (adminTimes 2)) (.user (adminTimes 1)) (adminFetch 2 ++ adminPut 1) ∧
    holdsRole (.ofType .account "a") "account_admin" (adminTimes 1).permissions = true ∧
    ((roles Client.plain).revoke adminGranted).Does (adminFetch 1 ++ adminPut 0) (some (.ok ())) ∧
    Found Client.plain .account (.ofType .user "1") (.user (adminTimes 1)) (adminFetch 1 ++ adminPut 0) ∧
    ∃ ev ∈ adminFetch 1 ++ adminPut 0, ev.IsPut := by
  have hleaves : Leaves (.user (adminTimes 2)) (.user (adminTimes 1)) (adminFetch 2 ++ adminPut 1) := by
    have hreplaced : Withdraws Client.plain .account "account_admin" (.user (adminTimes 2)) (adminPut 1)
        (some (.ok ())) := .replaced (r := some (.ok _)) rfl (adminPut_does 1)
    exact hreplaced.leaves rfl (Client.get_of_getPrincipal (adminFetch_does 2)).1
  obtain ⟨ev, hev, hput⟩ := Client.put_of_ok (adminPut_does 0)
  exact ⟨by decide, withdrawal_does 1, admin_found 2, hleaves, by decide, withdrawal_does 0, admin_found 1, ev,
    List.mem_append_right _ hev, hput⟩

end Sync

end AccessSync
