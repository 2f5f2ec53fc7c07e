import AccessSync.Proofs.Client.Writing
import AccessSync.Proofs.Program.Course
import AccessSync.Proofs.Text.Integer
import AccessSync.Proofs.Transport.Naming
/-!
# Calls that name one object

A call that fetches, replaces, assigns or deletes one object names it by its id, and so the id stands in the
URL of its request (`Addressee`). Main statement: that URL names the object under this id exactly if the id
can be one segment (`ClientCall.addresses_object`). Where there is no URL the call fails and sends nothing.
-/

namespace AccessSync

/-! ## The texts before the id -/

namespace Text

theorem alphanum_digit {d : Nat} (h : d < 10) : (digit d).isAlphanum = true := by
  interval_cases d <;> decide

theorem plain_decimal (n : Nat) : Url.IsPlain (decimal n) := by
  constructor
  · obtain ⟨d, cs, -, hcons⟩ := decimal_cons n
    rw [hcons]
    exact List.cons_ne_nil _ _
  · intro c hc
    rw [decimal_eq] at hc
    obtain ⟨d, hd, rfl⟩ := List.mem_map.1 hc
    exact .inl (alphanum_digit (lt_of_mem_digits hd))

/-- A number is written without anything that parts a URL. -/
theorem plain_ofInt (z : Int) : Url.IsPlain (ofInt z).toList := by
  cases z with
  | ofNat n =>
    have htext : (ofInt (.ofNat n)).toList = decimal n := String.toList_ofList
    rw [htext]
    exact plain_decimal n
  | negSucc n =>
    have htext : (ofInt (.negSucc n)).toList = '-' :: decimal (n + 1) := by
      simp [ofInt]
    rw [htext]
    refine ⟨List.cons_ne_nil _ _, List.forall_mem_cons.2 ⟨.inr rfl, ?_⟩⟩
    exact (plain_decimal (n + 1)).2

end Text

namespace Transport

variable {α : Type}

theorem takeUser_scheme (url : Url) : (takeUser url).1.scheme = url.scheme := by
  unfold takeUser
  split
  · rfl
  · split
    · rfl
    · dsimp only
      split_ifs <;> rfl

/-- What a URL names it names without its user. -/
theorem names_takeUser {url : Url} {path : List (List Char)} {id : List Char} :
    (takeUser url).1.Names path id ↔ url.Names path id := by
  rw [Url.Names, Url.Names, takeUser_query, takeUser_path]

/-- A request goes to the web if it can be sent. -/
theorem web_of_faultless {request : Http.Request} (h : fault? request = none) : request.url.isWeb = true := by
  unfold fault? at h
  split_ifs at h with hdestination
  simp only [Bool.not_eq_true, Bool.not_eq_false'] at hdestination
  exact (Bool.and_eq_true_iff.1 hdestination).1

/-- Only a request that can be sent leaves an event. -/
theorem faultless_of_send {read : Json → Option α} {request : Http.Request} {es : List Event}
    {r : Option (Except Halt (α × Http.RateLimit))} (h : (send read request).Does es r) (hne : es ≠ []) :
    fault? request = none := by
  unfold send at h
  split at h
  · exact absurd (Call.does_fail.1 h).1 hne
  · assumption

/-- The URL that an exchange comes to from what was found. -/
def Prepares (found : Except Error Url) (terms : List Query.Term) (prepared : Url) : Prop :=
  ∃ url, found = .ok url ∧ prepareUrl url (Query.ofTerms terms) = .ok prepared

end Transport

/-! ## Where the object is -/

/-- The object that a call names: the id, the endpoint and the texts behind which it stands there, and the
scope, which may have to be the account. -/
structure Addressee where
  endpoint : Endpoint
  scope : Scope
  within : List String
  id : String
  accountOnly : Bool

/-- The requests of a call for that object go to the prepared URL. -/
def Addressee.Located (a : Addressee) (c : Client) (prepared : Url) : Prop :=
  (a.accountOnly = true → a.scope.isAccount = true) ∧
  ∃ url, c.resolver.resolveWith a.endpoint a.scope (a.within ++ [a.id]) = .ok url ∧
    Transport.prepareUrl url Query.empty = .ok prepared

/-- There is a URL for the object to which requests can be sent. -/
def Addressee.Reachable (a : Addressee) (c : Client) : Prop :=
  (a.accountOnly = true → a.scope.isAccount = true) ∧
  ∃ url base credential, c.resolver.resolveWith a.endpoint a.scope (a.within ++ [a.id]) = .ok url ∧
    Transport.Sendable c.credentials a.scope url base credential

namespace Client

variable {α β : Type} {c : Client} {a : Addressee}

/-- Among these events is a request that is none for a token. -/
def AsksApi (c : Client) (es : List Event) : Prop :=
  ∃ request answer, (⟨.send request, answer⟩ : Event) ∈ es ∧ ¬c.credentials.AsksToken request

/-- Tokens apart, the call sends requests only to where the object is. It has no value without one, and
fails at once where the object has no URL. If the object can be reached there is a request. -/
structure Addresses (c : Client) (a : Addressee) (x : Call α) : Prop where
  sent : ∀ {es r}, x.Does es r → ∀ {request answer}, (⟨.send request, answer⟩ : Event) ∈ es →
    ¬c.credentials.AsksToken request →
    ∃ prepared, a.Located c prepared ∧ request.url = (Transport.takeUser prepared).1 ∧ request.url.isWeb = true
  unlocated : ∀ {es r}, x.Does es r → (∀ prepared, ¬a.Located c prepared) →
    es = [] ∧ ∃ e, r = some (.error (.error e))
  asks : ∀ {es v}, x.Does es (some (.ok v)) → c.AsksApi es
  reaches : a.Reachable c → ∃ es r, x.Does es r ∧ c.AsksApi es

theorem Addresses.value {x : Call α} (h : c.Addresses a x) (g : α → β) : c.Addresses a (x >>= fun v => pure (g v)) := by
  constructor
  · intro es r hdoes
    obtain ⟨r', hx, -⟩ := Call.does_bind_pure.1 hdoes
    exact h.sent hx
  · intro es r hdoes hnone
    obtain ⟨r', hx, rfl⟩ := Call.does_bind_pure.1 hdoes
    obtain ⟨hnil, e, rfl⟩ := h.unlocated hx hnone
    exact ⟨hnil, e, rfl⟩
  · intro es v hdoes
    obtain ⟨v', xs, ys, rfl, hx, -⟩ := Call.does_bind_ok.1 hdoes
    obtain ⟨request, answer, hev, hno⟩ := h.asks hx
    exact ⟨request, answer, List.mem_append_left _ hev, hno⟩
  · intro hreachable
    obtain ⟨es, r, hx, hasks⟩ := h.reaches hreachable
    exact ⟨es, _, Call.does_bind_pure.2 ⟨r, hx, rfl⟩, hasks⟩

section Exchange
variable {read : Json → Option α} {method : Http.Method} {scope : Scope} {found : Except Error Url}
  {body : Option Json} {terms : List Query.Term} {es : List Event} {r : Option (Except Halt (α × Http.RateLimit))}

/-- An exchange fails at once, or comes to a URL, may ask for a token and then send one request there. -/
theorem does_exchange_prepared (h : (c.exchange read method scope found body terms).Does es r) :
    (es = [] ∧ (∃ e, r = some (.error (.error e))) ∧ ∀ prepared, ¬Transport.Prepares found terms prepared) ∨
    ∃ prepared, Transport.Prepares found terms prepared ∧
      ∃ xs ys, es = xs ++ ys ∧ (∀ ev ∈ xs, ev.Sends c.credentials fun _ => False) ∧
        ((ys = [] ∧ ∀ v, r ≠ some (.ok v)) ∨
          ∃ request, Transport.Exchanged read request ys r ∧ request.body = Transport.bodyOf body ∧
            request.url = (Transport.takeUser prepared).1 ∧ Transport.fault? request = none) := by
  rcases Call.does_ofExcept_bind.1 h with ⟨fault, hfault, rfl, rfl⟩ | ⟨url, hurl, h⟩
  · refine .inl ⟨rfl, ⟨_, rfl⟩, ?_⟩
    rintro prepared ⟨url, hurl, -⟩
    cases hfault.symm.trans hurl
  rcases Call.does_ofExcept_bind.1 h with ⟨fault, hfault, rfl, rfl⟩ | ⟨prepared, hprepared, h⟩
  · refine .inl ⟨rfl, ⟨_, rfl⟩, ?_⟩
    rintro prepared ⟨url', hurl', hprepared⟩
    obtain rfl : url = url' := Except.ok.inj (hurl.symm.trans hurl')
    cases hfault.symm.trans hprepared
  refine .inr ⟨prepared, ⟨url, hurl, hprepared⟩, ?_⟩
  have hcredential := Transport.credential_sends c.credentials scope fun _ => False
  rcases Call.does_bind.1 h with ⟨hx, rfl⟩ | ⟨_, hx, rfl⟩ | ⟨credential, xs, ys, rfl, hx, hy⟩
  · exact ⟨es, [], by simp, hcredential _ _ hx, .inl ⟨rfl, by simp⟩⟩
  · exact ⟨es, [], by simp, hcredential _ _ hx, .inl ⟨rfl, by simp⟩⟩
  refine ⟨xs, ys, rfl, hcredential _ _ hx, ?_⟩
  rcases Transport.does_send hy with hno | hexchanged
  · exact .inl hno
  · have hne : ys ≠ [] := by cases hexchanged <;> simp
    exact .inr ⟨_, hexchanged, rfl, rfl, Transport.faultless_of_send hy hne⟩

/-- Tokens apart, an exchange sends requests only to the URL that it comes to. -/
theorem exchange_sends_prepared (h : (c.exchange read method scope found body terms).Does es r)
    {request : Http.Request} {answer : Option Http.Reply} (hev : (⟨.send request, answer⟩ : Event) ∈ es)
    (hno : ¬c.credentials.AsksToken request) :
    ∃ prepared, Transport.Prepares found terms prepared ∧ request.url = (Transport.takeUser prepared).1 ∧
      request.url.isWeb = true := by
  rcases does_exchange_prepared h with ⟨rfl, -⟩ | ⟨prepared, hprepared, xs, ys, rfl, htoken, hrest⟩
  · cases hev
  rcases List.mem_append.1 hev with hev | hev
  · exact ((htoken _ hev request rfl).elim id hno).elim
  rcases hrest with ⟨rfl, -⟩ | ⟨sent, hexchanged, -, hurl, hfault⟩
  · cases hev
  obtain ⟨answer', fs, rfl, hfs⟩ := hexchanged.sends
  rcases List.mem_cons.1 hev with heq | hev
  · cases heq
    exact ⟨prepared, hprepared, hurl, Transport.web_of_faultless hfault⟩
  · cases hfs _ hev

/-- Where it comes to no URL an exchange fails at once. -/
theorem exchange_unprepared (h : (c.exchange read method scope found body terms).Does es r)
    (hnone : ∀ prepared, ¬Transport.Prepares found terms prepared) : es = [] ∧ ∃ e, r = some (.error (.error e)) := by
  rcases does_exchange_prepared h with ⟨hnil, herror, -⟩ | ⟨prepared, hprepared, -⟩
  · exact ⟨hnil, herror⟩
  · exact absurd hprepared (hnone prepared)

theorem addresses_exchange (haccount : a.accountOnly = true → a.scope.isAccount = true) :
    c.Addresses a (c.exchange read method a.scope
      (c.resolver.resolveWith a.endpoint a.scope (a.within ++ [a.id])) body []) := by
  constructor
  · intro es r hdoes request answer hev hno
    obtain ⟨prepared, hprepared, hsent⟩ := exchange_sends_prepared hdoes hev hno
    exact ⟨prepared, ⟨haccount, hprepared⟩, hsent⟩
  · intro es r hdoes hnone
    exact exchange_unprepared hdoes fun prepared hprepared => hnone prepared ⟨haccount, hprepared⟩
  · intro es v hdoes
    rcases does_exchange_prepared hdoes with ⟨-, ⟨e, he⟩, -⟩ | ⟨prepared, -, xs, ys, rfl, -, hrest⟩
    · cases he
    rcases hrest with ⟨-, hno⟩ | ⟨request, hexchanged, hbody, -⟩
    · exact absurd rfl (hno v)
    obtain ⟨answer, fs, rfl, -⟩ := hexchanged.sends
    exact ⟨request, answer, by simp, Transport.not_asksToken hbody⟩
  · rintro ⟨-, url, base, credential, hurl, hsendable⟩
    have hdoes : (Transport.exchange c.credentials read method a.scope url body []).Does _ _ :=
      Transport.exchange_does_bare hsendable (Transport.replyOf "") ⟨0⟩
    have hbody : (Transport.requestAt base credential method body).body = Transport.bodyOf body := rfl
    exact ⟨_, _, Call.does_ofExcept_bind.2 (.inr ⟨url, hurl, hdoes⟩), _, _, List.mem_cons_self,
      Transport.not_asksToken hbody⟩

end Exchange

/-! ## The calls -/

theorem addresses_getPrincipal {scope : Scope} {kind : PrincipalKind} {id : String} :
    c.Addresses ⟨kind.endpoint, scope, [], id, false⟩ (c.getPrincipal scope kind id) := by
  have haccount : false = true → scope.isAccount = true := fun h => by cases h
  cases kind with
  | user => exact (addresses_exchange haccount).value _
  | group => exact (addresses_exchange haccount).value _
  | servicePrincipal => exact (addresses_exchange haccount).value _

theorem addresses_putPrincipal {scope : Scope} {p : Principal} :
    c.Addresses ⟨p.kind.endpoint, scope, [], p.id, false⟩ (c.putPrincipal scope p) := by
  have haccount : false = true → scope.isAccount = true := fun h => by cases h
  cases p with
  | user => exact (addresses_exchange haccount).value _
  | group => exact (addresses_exchange haccount).value _
  | servicePrincipal => exact (addresses_exchange haccount).value _

theorem addresses_putAssignment {workspace : Int64} {id : String} {body : Option Json} :
    c.Addresses ⟨.workspaces, .account, [Text.ofInt workspace.toInt, "permissionassignments", "principals"], id, false⟩
      (c.putAssignment workspace id body) :=
  (addresses_exchange fun h => by cases h).value _

/-- Outside the account no user is deleted, and none has a URL. -/
theorem addresses_deleteUser {scope : Scope} {id : String} :
    c.Addresses ⟨.users, scope, [], id, true⟩ (c.deleteUser scope id) := by
  unfold deleteUser requireAccount
  split_ifs with hscope
  · exact (addresses_exchange fun _ => hscope).value _
  have hrefused : ∀ {es r}, (Call.fail (.accountOnly "delete_user" scope) >>= fun _ : Unit =>
      c.exchange Transport.ignore .delete scope (c.resolver.resolveWith .users scope [id]) none [] >>=
        fun x => pure x.2).Does es r → es = [] ∧ ∃ e, r = some (.error (.error e)) := by
    intro es r hdoes
    obtain ⟨rfl, rfl⟩ := Call.does_fail.1 hdoes
    exact ⟨rfl, _, rfl⟩
  constructor
  · intro es r hdoes request answer hev
    rw [(hrefused hdoes).1] at hev
    cases hev
  · intro es r hdoes _
    exact hrefused hdoes
  · intro es v hdoes
    obtain ⟨-, e, he⟩ := hrefused hdoes
    cases he
  · rintro ⟨haccount, -⟩
    exact absurd (haccount rfl) hscope

end Client

/-- The object that a call names by its id. -/
def ClientCall.addressee? : ClientCall → Option Addressee
  | .get kind scope id => some ⟨kind.endpoint, scope, [], id, false⟩
  | .put scope p => some ⟨p.kind.endpoint, scope, [], p.id, false⟩
  | .deleteUser scope id => some ⟨.users, scope, [], id, true⟩
  | .assign workspace id | .unassign workspace id =>
    some ⟨.workspaces, .account, [Text.ofInt workspace.toInt, "permissionassignments", "principals"], id, false⟩
  | _ => none

namespace ClientCall

variable {call : ClientCall} {a : Addressee}

/-- The texts before an id are plain. -/
theorem plain_within (h : call.addressee? = some a) : ∀ text ∈ a.within, Url.IsPlain text.toList := by
  cases call with
  | get | put | deleteUser =>
    cases h
    simp
  | assign | unassign =>
    cases h
    simp only [List.forall_mem_cons]
    exact ⟨Text.plain_ofInt _, by decide, by decide, by simp⟩
  | _ => cases h

/-- Every call that names an object is made to where it is. -/
theorem addresses (c : Client) (h : call.addressee? = some a) : c.Addresses a (call.call c) := by
  cases call with
  | get =>
    cases h
    exact Client.addresses_getPrincipal.value _
  | put =>
    cases h
    exact Client.addresses_putPrincipal.value _
  | deleteUser =>
    cases h
    exact Client.addresses_deleteUser.value _
  | assign | unassign =>
    cases h
    exact Client.addresses_putAssignment.value _
  | _ => cases h

/-- A call that names an object by its id. If the URL of the endpoint serves a path, then each of its
requests, but for a token, goes to one segment for the id directly behind that path and the fixed texts, and
has no query, exactly if the id is a segment of which nothing is lost. Where the object has no URL the call
fails without any request, it has no value unless it has sent one, and it can send one where the object can
be reached. -/
theorem addresses_object (c : Client) (h : call.addressee? = some a) :
    (∀ url served, c.resolver.resolve a.endpoint a.scope = .ok url → url.Serves served →
      ∀ es r, (call.call c).Does es r → ∀ request answer, (⟨.send request, answer⟩ : Event) ∈ es →
        ¬c.credentials.AsksToken request →
        (request.url.Names (served ++ a.within.map String.toList) a.id.toList ↔
          Url.IsSegment a.id.toList ∧ (url.fragment = none → Url.EndsPlainly a.id.toList))) ∧
    (∀ es r, (call.call c).Does es r →
      ((∀ prepared, ¬a.Located c prepared) → es = [] ∧ ∃ e, r = some (.error (.error e))) ∧
      (∀ v, r = some (.ok v) → c.AsksApi es)) ∧
    (a.Reachable c → ∃ es r, (call.call c).Does es r ∧ c.AsksApi es) := by
  have haddresses := addresses c h
  refine ⟨?_, fun es r hdoes => ⟨haddresses.unlocated hdoes, ?_⟩, haddresses.reaches⟩
  · intro url served hurl hserves es r hdoes request answer hev hno
    obtain ⟨prepared, ⟨-, found, hfound, hprepared⟩, hrequest, hweb⟩ := haddresses.sent hdoes hev hno
    have hweb' : prepared.isWeb = true := by
      rwa [hrequest, Url.isWeb, Transport.takeUser_scheme] at hweb
    rw [hrequest, Transport.names_takeUser]
    exact Resolver.names_iff hurl hserves (plain_within h) hfound hprepared hweb'
  · rintro v rfl
    exact haddresses.asks hdoes

end ClientCall

/-! ## Users by their ids -/

/-- A peer that has an empty object for every request. -/
def servant : World Unit where
  now _ := ⟨0⟩
  answer _ _ := (some (Transport.replyOf "\x7b\x7d"), ())

namespace ClientCall

/-- The requests of the call to such a peer. -/
def requests (call : ClientCall) (c : Client) : List Http.Request :=
  (servant.events (call.call c).run (Memory.fresh, ())).filterMap (·.request?)

/-- Each of them is sent in the course of the call. -/
theorem does_of_requests {call : ClientCall} {c : Client} {request : Http.Request} (h : request ∈ call.requests c) :
    ∃ es r answer, (call.call c).Does es r ∧ (⟨.send request, answer⟩ : Event) ∈ es := by
  obtain ⟨answer, hev⟩ := Event.send_of_mem h
  exact ⟨_, _, answer, servant.call_does_events (call.call c) (Memory.fresh, ()), hev⟩

/-- The path of the users of the plain client. -/
def usersPath : List (List Char) := ["api", "2.0", "accounts", "a", "scim", "v2", "Users"].map (·.toList)

/-- Where the plain client finds users. -/
def usersUrl : Url := { Client.plainUrl with path := .segments usersPath }

def fetchSeven : ClientCall := .get .user .account "7"

/-- The user `7` is asked for under this id. -/
theorem addresses_object_of_seven : ∃ es r request answer, (fetchSeven.call Client.plain).Does es r ∧
    (⟨.send request, answer⟩ : Event) ∈ es ∧ request.url.Names usersPath "7".toList := by
  have hurl : Client.plain.resolver.resolve .users .account = .ok usersUrl :=
    Client.ok_of_toOption (by decide +kernel)
  have hserves : usersUrl.Serves usersPath :=
    ⟨⟨usersUrl, Client.ok_of_toOption (by decide +kernel), rfl, rfl, rfl⟩, by decide⟩
  have hno : ∀ request, ¬Client.plain.credentials.AsksToken request := by
    rintro request ⟨issuer, hissued, -⟩
    cases hissued
  have hsegment : Url.IsSegment "7".toList :=
    ⟨by decide, by decide, List.forall_mem_singleton.2 (by decide), by decide⟩
  have hrequests : (fetchSeven.requests Client.plain).length = 1 := by decide +kernel
  obtain ⟨request, hrequest⟩ := List.length_eq_one_iff.1 hrequests
  obtain ⟨es, r, answer, hdoes, hev⟩ := does_of_requests (hrequest ▸ List.mem_singleton_self request)
  have haddressee : fetchSeven.addressee? = some ⟨.users, .account, [], "7", false⟩ := rfl
  have hnames := (addresses_object Client.plain haddressee).1 usersUrl usersPath hurl hserves es r hdoes
    request answer hev (hno request)
  exact ⟨es, r, request, answer, hdoes, hev, by simpa using hnames.2 ⟨hsegment, fun _ => rfl⟩⟩

def strayDelete : ClientCall := .deleteUser .account "../Groups/7"

/-- A client of an account whose id holds a question mark. -/
def questioned : Client := ⟨{ Client.plain.resolver with accountId := "a?b" }, .anonymous⟩

/-- Deleting the user `../Groups/7` deletes the group `7`, and in an account `a?b` the user `7` is asked for
by a query. -/
theorem stray_ids :
    (Client.plain.resolver.resolve .users .account = .ok usersUrl ∧
      ∃ es r request answer, (strayDelete.call Client.plain).Does es r ∧ (⟨.send request, answer⟩ : Event) ∈ es ∧
        request.method = .delete ∧
        request.url.path = .segments (["api", "2.0", "accounts", "a", "scim", "v2", "Groups", "7"].map (·.toList)) ∧
        ¬request.url.Names usersPath "../Groups/7".toList) ∧
    ∃ es r request answer, (fetchSeven.call questioned).Does es r ∧ (⟨.send request, answer⟩ : Event) ∈ es ∧
      request.url.query = some "b/scim/v2/Users/7".toList := by
  refine ⟨⟨Client.ok_of_toOption (by decide +kernel), ?_⟩, ?_⟩
  · have hrequests : (strayDelete.requests Client.plain).map (fun request => (request.method, request.url.path)) =
        [(.delete, .segments (["api", "2.0", "accounts", "a", "scim", "v2", "Groups", "7"].map (·.toList)))] := by
      decide +kernel
    obtain ⟨request, hrequest, hfields⟩ := List.mem_map.1 (hrequests ▸ List.mem_cons_self)
    obtain ⟨hmethod, hpath⟩ := Prod.mk.inj hfields
    obtain ⟨es, r, answer, hdoes, hev⟩ := does_of_requests hrequest
    refine ⟨es, r, request, answer, hdoes, hev, hmethod, hpath, ?_⟩
    rintro ⟨-, segment, -, hnamed⟩
    have hprefix : usersPath <+: ["api", "2.0", "accounts", "a", "scim", "v2", "Groups", "7"].map (·.toList) :=
      ⟨[segment], (UrlPath.segments.inj (hpath.symm.trans hnamed)).symm⟩
    revert hprefix
    decide
  · have hrequests : (fetchSeven.requests questioned).map (·.url.query) = [some "b/scim/v2/Users/7".toList] := by
      decide +kernel
    obtain ⟨request, hrequest, hquery⟩ := List.mem_map.1 (hrequests ▸ List.mem_cons_self)
    obtain ⟨es, r, answer, hdoes, hev⟩ := does_of_requests hrequest
    exact ⟨es, r, request, answer, hdoes, hev, hquery⟩

end ClientCall

end AccessSync
