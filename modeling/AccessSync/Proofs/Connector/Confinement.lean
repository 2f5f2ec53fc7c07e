import AccessSync.Proofs.Client.Replacement
import AccessSync.Proofs.Client.Scoping
import AccessSync.Proofs.Connector.Tasks
/-!
# Confined tokens

A configuration with access tokens gives one to each of its workspaces. Whatever a connector of it is asked
to do, each request is sent in the scope of a workspace that is listed and signed with a token that stands
at the workspace's place (`Config.Signs`); in any other scope there are no requests, and calls of the client
fail: `tokens_are_confined`.
-/

namespace AccessSync

namespace Config

/-- The scope is that of a workspace which the configuration lists. -/
def Lists (config : Config) (scope : Scope) : Prop := ∃ name ∈ config.workspaces, scope = .workspace name

/-- In that scope the request carries an access token that the configuration has for the workspace, and no
other one. -/
def Signs (config : Config) (scope : Scope) (request : Http.Request) : Prop :=
  ∃ (name : String) (i : Nat) (token : Secret), scope = .workspace name ∧ config.workspaces[i]? = some name ∧
    config.workspaceTokens[i]? = some token ∧ .bearer token.expose ∈ request.credentials ∧
    ∀ text, .bearer text ∈ request.credentials → text = token.expose

/-- The tokens of a configuration by their workspaces. -/
def tokens (config : Config) : Store Secret := Store.ofList (config.workspaces.zip config.workspaceTokens)

/-- What is found for a workspace stands at its place. -/
theorem tokens_get? {config : Config} {name : String} {token : Secret} (h : config.tokens.get? name = some token) :
    ∃ i : Nat, config.workspaces[i]? = some name ∧ config.workspaceTokens[i]? = some token := by
  obtain ⟨i, hi⟩ := List.mem_iff_getElem?.1 (Store.mem_of_get?_ofList h)
  exact ⟨i, List.getElem?_zip_eq_some.1 hi⟩

theorem tokens_get?_of_not_lists {config : Config} {name : String} (h : ¬config.Lists (.workspace name)) :
    config.tokens.get? name = none := by
  cases hget : config.tokens.get? name with
  | none => rfl
  | some token =>
    obtain ⟨i, hname, -⟩ := tokens_get? hget
    exact absurd ⟨name, List.mem_of_getElem? hname, rfl⟩ h

end Config

/-- What a URL says of a user is no access token. -/
theorem Transport.takeUser_ne_bearer (url : Url) (text : String) : (takeUser url).2 ≠ some (.bearer text) := by
  unfold takeUser
  split
  · simp
  · split
    · simp
    · dsimp only
      split_ifs <;> simp

namespace Client

variable {config : Config} {c : Client} {scope : Scope}

/-- A client of a configuration signs with what that says, and with tokens from its account. -/
theorem credentials_ofConfig (hclient : ofConfig config = .ok c) :
    c.credentials = Credentials.ofConfig config c.resolver.tokenUrl := by
  unfold ofConfig at hclient
  cases hresolver : Resolver.ofConfig config with
  | error e =>
    rw [hresolver] at hclient
    cases hclient
  | ok resolver =>
    rw [hresolver] at hclient
    cases hclient
    rfl

theorem credentials_of_family (hclient : ofConfig config = .ok c) (hfamily : config.family = .workspaceTokens) :
    c.credentials = .workspaceTokens config.tokens := by
  simp [credentials_ofConfig hclient, Credentials.ofConfig, hfamily, Config.tokens]

theorem unsigned_of_not_lists (hcredentials : c.credentials = .workspaceTokens config.tokens)
    (h : ¬config.Lists scope) : c.Unsigned scope := by
  unfold Unsigned
  rw [hcredentials]
  cases scope with
  | account => exact ⟨_, rfl⟩
  | workspace name =>
    rw [Transport.credential, Config.tokens_get?_of_not_lists h]
    exact ⟨_, rfl⟩

/-- Every request is signed with a token for the workspace of its scope. -/
theorem signs_of_sends (hcredentials : c.credentials = .workspaceTokens config.tokens) {es : List Event}
    {request : Http.Request} (h : c.Sends es scope request) : config.Signs scope request := by
  obtain ⟨α, read, method, url, body, terms, mid, r, answer, -, -, hdoes, hsend⟩ := h
  by_cases hlists : config.Lists scope
  case neg =>
    obtain ⟨rfl, -⟩ := does_exchange_unsigned (unsigned_of_not_lists hcredentials hlists) hdoes
    cases hsend
  obtain ⟨name, -, rfl⟩ := hlists
  rcases Call.does_ofExcept_bind.1 hdoes with ⟨_, -, rfl, -⟩ | ⟨prepared, -, hdoes⟩
  · cases hsend
  rw [hcredentials, Transport.credential] at hdoes
  cases hget : config.tokens.get? name with
  | none =>
    rw [hget] at hdoes
    obtain ⟨rfl, -⟩ := Call.does_fail.1 hdoes
    cases hsend
  | some token =>
    rw [hget] at hdoes
    rcases Transport.does_send hdoes with ⟨rfl, -⟩ | hcourse
    · cases hsend
    obtain ⟨answer', rest, rfl, hrest⟩ := hcourse.sends
    rcases List.mem_cons.1 hsend with heq | hmem
    · cases heq
      obtain ⟨i, hname, htoken⟩ := Config.tokens_get? hget
      refine ⟨name, i, token, rfl, hname, htoken, ?_, ?_⟩
      · simp [Transport.sign]
      · -- The one credential besides is that of the URL.
        intro text htext
        rcases List.mem_append.1 htext with htext | htext
        · exact absurd (Option.mem_toList.1 htext) (Transport.takeUser_ne_bearer _ text)
        · simpa using htext
    · cases hrest _ hmem

end Client

/-- Every request of what is made of exchanges is sent in some scope. -/
theorem Client.Composed.sendsIn {α : Type} {c : Client} {x : Call α} (h : c.Composed x) :
    c.SendsIn (fun _ => True) x := by
  induction h with
  | pure => exact sendsIn_of_silent Call.always_pure
  | fail => exact sendsIn_of_silent Call.always_fail
  | perform he => exact sendsIn_of_silent (Call.always_perform fun _ => request?_of_remembers he)
  | exchange hurl => exact sendsIn_exchange trivial hurl
  | bind _ _ ihx ihf => exact ihx.bind ihf
  | attempt _ ih => exact ih.attempt

namespace Connector

/-- With access tokens of workspaces every request of a task is sent in some scope, and whatever is sent in
a scope is signed with a token that is configured for its workspace. The requests of a call of the client are
sent in the call's own scope; if that is the account or a workspace that is not listed, there are none and
the call ends with an error. -/
theorem tokens_are_confined {c : Connector} (hclient : Client.ofConfig c.config = .ok c.client)
    (hfamily : c.config.family = .workspaceTokens) :
    (∀ (task : Task) es r, (task.call c).Does es r →
      ∀ request answer, (⟨.send request, answer⟩ : Event) ∈ es → ∃ scope, c.client.Sends es scope request) ∧
    (∀ es scope request, c.client.Sends es scope request → c.config.Signs scope request) ∧
    ∀ (call : ClientCall) (scope : Scope), call.scope? = some scope →
      (∀ es r, (call.call c.client).Does es r →
        ∀ request answer, (⟨.send request, answer⟩ : Event) ∈ es → c.client.Sends es scope request) ∧
      (¬c.config.Lists scope →
        (∀ es r, (call.call c.client).Does es r → ∀ ev ∈ es, ev.request? = none) ∧
        ∀ {σ : Type} (w : World σ) (st : Memory × σ),
          ∃ e st', w.Ends (call.call c.client) st (.error (.error e)) st') := by
  have hcredentials := Client.credentials_of_family hclient hfamily
  refine ⟨?_, fun _ _ _ => Client.signs_of_sends hcredentials, fun call scope hscope => ⟨?_, fun hlists => ?_⟩⟩
  · intro task es r hdoes request answer hev
    obtain ⟨scope, -, hsends⟩ := (composed_task c task).sendsIn es r hdoes request answer hev
    exact ⟨scope, hsends⟩
  · intro es r hdoes request answer hev
    obtain ⟨_, rfl, hsends⟩ := (Client.scoped_call c.client hscope).sendsIn es r hdoes request answer hev
    exact hsends
  · exact (Client.scoped_call c.client hscope).refused (Client.unsigned_of_not_lists hcredentials hlists)

/-! ## A workspace that is listed twice -/

/-- A configuration with two access tokens for the one workspace and one for another. -/
def twinConfig : Config where
  accountId := "a"
  hostname := "h"
  accountHostname := none
  clientId := none
  clientSecret := none
  username := none
  password := none
  workspaces := ["w", "v", "w"]
  workspaceTokens := [⟨"t1"⟩, ⟨"t2"⟩, ⟨"t3"⟩]
  accountBaseUrl := some Client.plain.resolver.accountBase
  workspaceBaseUrl := some Client.plain.resolver.accountBase
  timeoutSecs := 30

def twin : Connector :=
  ⟨twinConfig, ⟨⟨"a", Client.plain.resolver.accountBase, .fixed Client.plain.resolver.accountBase⟩,
    .workspaceTokens twinConfig.tokens⟩⟩

/-- A peer that answers all requests alike. -/
def obliging : World Unit where
  now _ := ⟨0⟩
  answer _ _ := (some (Transport.replyOf "\x7b\x7d"), ())

/-- Asking for the roles in that workspace. -/
def twinRoles : ClientCall := .listRoles (.workspace "w") .account

/-- The request there is signed with the later token of the two, and the account is not asked at all. -/
theorem tokens_are_confined_of_twin :
    (∃ request answer, (⟨.send request, answer⟩ : Event) ∈
        obliging.events (twinRoles.call twin.client).run (Memory.fresh, ()) ∧
      request.credentials = [.bearer "t3"] ∧ twinConfig.Signs (.workspace "w") request) ∧
    ∃ e st', obliging.Ends (ClientCall.listWorkspaces.call twin.client) (Memory.fresh, ()) (.error (.error e)) st' := by
  have hclient : Client.ofConfig twin.config = .ok twin.client := rfl
  have hfamily : twin.config.family = .workspaceTokens := by decide
  have hno : ¬twin.config.Lists .account := by rintro ⟨_, -, ⟨⟩⟩
  obtain ⟨-, hsigns, hcalls⟩ := tokens_are_confined hclient hfamily
  refine ⟨?_, ((hcalls .listWorkspaces .account rfl).2 hno).2 obliging (Memory.fresh, ())⟩
  have hrequests : ((obliging.events (twinRoles.call twin.client).run (Memory.fresh, ())).filterMap
      (·.request?)).map (·.credentials) = [[.bearer "t3"]] := by decide +kernel
  obtain ⟨request, hrequest, hcredentials⟩ := List.mem_map.1 (hrequests ▸ List.mem_cons_self)
  obtain ⟨ev, hev, hsent⟩ := List.mem_filterMap.1 hrequest
  obtain ⟨answer, rfl⟩ := Event.eq_send hsent
  have hdoes := obliging.call_does_events (twinRoles.call twin.client) (Memory.fresh, ())
  exact ⟨request, answer, hev, hcredentials,
    hsigns _ _ _ ((hcalls twinRoles _ rfl).1 _ _ hdoes request answer hev)⟩

end Connector

end AccessSync
