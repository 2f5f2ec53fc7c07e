import AccessSync.Proofs.Connector.Confinement
import AccessSync.Proofs.Program.Interleaving
import AccessSync.Proofs.Transport.Reuse
/-!
# Signed requests

A valid configuration sets the credentials of one family, and that is the one that is used
(`Config.sets_iff`). However many tasks of its connector run at once and whatever they are answered, each
request they send asks the issuer for a token or is `Connector.Signed`: it carries one credential of the
family, which the configuration holds or which the issuer has delivered before, and nothing else but what
its URL says of a user: `requests_are_signed`. So a client secret, which is there exactly where tokens are
issued (`Config.isSecretSet_iff`), goes to the token URL only. What a URL says of a user may be a credential
of another family (`url_adds_a_credential`).
-/

namespace AccessSync

/-! ## Families of credentials -/

namespace Config

/-- The configuration begins credentials of that family. -/
def Sets (config : Config) : CredentialFamily → Prop
  | .basic => isSet config.username = true
  | .oauth2 => isSet config.clientId = true
  | .workspaceTokens => config.workspaceTokens ≠ []
  | .none => False

/-- A credential of the family that is used: it is in the configuration, or its text is a given one where
tokens are issued. -/
inductive Provides (config : Config) (given : String → Prop) : Http.Credential → Prop
  | user {username : String} {password : Secret} : config.family = .basic → config.username = some username →
      config.password = some password → Provides config given (.basic username password.expose)
  | issued {text : String} : config.family = .oauth2 → given text → Provides config given (.bearer text)
  | token {token : Secret} : config.family = .workspaceTokens → token ∈ config.workspaceTokens →
      Provides config given (.bearer token.expose)

variable {config : Config}

theorem Provides.mono {given given' : String → Prop} {credential : Http.Credential}
    (h : config.Provides given credential) (hgiven : ∀ text, given text → given' text) :
    config.Provides given' credential := by
  cases h with
  | user hfamily husername hpassword => exact .user hfamily husername hpassword
  | issued hfamily htext => exact .issued hfamily (hgiven _ htext)
  | token hfamily htoken => exact .token hfamily htoken

/-- Only where they are used there are username and password. -/
theorem Provides.family_of_basic {given : String → Prop} {username password : String}
    (h : config.Provides given (.basic username password)) : config.family = .basic := by
  generalize hcredential : Http.Credential.basic username password = credential at h
  cases h with
  | user hfamily => exact hfamily
  | issued | token => cases hcredential

/-- What a valid configuration is like: one family is begun, and what is begun is complete. -/
theorem complete_of_valid (h : config.fault? = none) : config.familyCount = 1 ∧
    isSet config.clientId = isSecretSet config.clientSecret ∧
    isSet config.username = isSecretSet config.password ∧
    (config.workspaceTokens ≠ [] → config.workspaces.length = config.workspaceTokens.length) := by
  unfold fault? at h
  split_ifs at h with _ _ hnone hseveral hclient huser htokens
  refine ⟨by omega, by simpa using hclient, by simpa using huser, fun hne => ?_⟩
  by_contra hlength
  exact htokens ⟨hne, hlength⟩

/-- The family of a valid configuration is the one that it sets. -/
theorem sets_iff (h : config.fault? = none) (family : CredentialFamily) :
    config.Sets family ↔ family = config.family := by
  obtain ⟨hcount, hclient, huser, htokens⟩ := complete_of_valid h
  have hlength : config.workspaceTokens.isEmpty = false →
      decide (config.workspaces.length = config.workspaceTokens.length) = true := by
    intro hne
    simpa using htokens (by simpa using hne)
  unfold Config.family
  rw [← hclient, ← huser, Bool.and_self, Bool.and_self]
  unfold familyCount at hcount
  -- One of three is set, so eight cases remain of which three can be.
  cases hid : isSet config.clientId <;> cases hname : isSet config.username <;>
    cases hempty : config.workspaceTokens.isEmpty <;> simp [hid, hname, hempty] at hcount
  · have hne : config.workspaceTokens ≠ [] := by simpa using hempty
    cases family <;> simp [Sets, hid, hname, hne, hlength hempty]
  · have hnil : config.workspaceTokens = [] := by simpa using hempty
    cases family <;> simp [Sets, hid, hname, hnil]
  · have hnil : config.workspaceTokens = [] := by simpa using hempty
    cases family <;> simp [Sets, hid, hname, hnil]

/-- A valid configuration has a client secret exactly where tokens are issued. -/
theorem isSecretSet_iff (h : config.fault? = none) :
    isSecretSet config.clientSecret = true ↔ config.family = .oauth2 := by
  rw [← (complete_of_valid h).2.1]
  exact (sets_iff h .oauth2).trans eq_comm

theorem family_ne_none (h : config.fault? = none) : config.family ≠ .none :=
  fun hnone => (sets_iff h .none).2 hnone.symm

/-- Where username and password are used, both are there. -/
theorem user_of_basic (h : config.family = .basic) :
    ∃ username password, config.username = some username ∧ config.password = some password := by
  unfold Config.family at h
  split_ifs at h with huser
  cases hname : config.username with
  | none => simp [isSet, hname] at huser
  | some username =>
    cases hpassword : config.password with
    | none => simp [isSecretSet, hpassword] at huser
    | some password => exact ⟨username, password, rfl, rfl⟩

end Config

/-! ## Calls that look back -/

namespace Call

variable {α β : Type} {Q : List Event → Event → Prop}

/-- Each event of the call is as `Q` says, given those that the call has done before it. -/
def Guards (x : Call α) (Q : List Event → Event → Prop) : Prop :=
  ∀ es r, x.Does es r → ∀ before ev after, es = before ++ ev :: after → Q before ev

theorem guards_of_always {P : Event → Prop} {x : Call α} (h : x.Always P)
    (hQ : ∀ before ev, P ev → Q before ev) : x.Guards Q := by
  rintro es r hdoes before ev after rfl
  exact hQ before ev (h _ _ hdoes ev (by simp))

/-- Behind its first part a call has the events of that to look back to. -/
theorem guards_bind {x : Call α} {f : α → Call β} (hx : x.Guards Q)
    (hf : ∀ a xs, x.Does xs (some (.ok a)) → (f a).Guards fun before => Q (xs ++ before)) :
    (x >>= f).Guards Q := by
  intro es r hdoes before ev after hes
  rcases does_bind.1 hdoes with ⟨hxs, -⟩ | ⟨_, hxs, -⟩ | ⟨a, xs, ys, rfl, hxs, hys⟩
  · exact hx _ _ hxs before ev after hes
  · exact hx _ _ hxs before ev after hes
  · rcases Event.append_eq_append_cons hes with ⟨mid, rfl⟩ | ⟨mid, rfl, rfl⟩
    · exact hx _ _ hxs before ev mid rfl
    · exact hf a xs hxs _ _ hys mid ev after rfl

theorem Guards.attempt {x : Call α} (hx : x.Guards Q) : (Call.attempt x).Guards Q := by
  intro es r hdoes
  obtain ⟨r', hr', -⟩ := does_attempt.1 hdoes
  exact hx es r' hr'

end Call

/-! ## Where tokens come from -/

namespace Transport

variable {issuer : TokenIssuer} {es fs : List Event} {text : String}

/-- In the course of the events a successful reply of the issuer delivered a token of that text. -/
def Delivered (issuer : TokenIssuer) (es : List Event) (text : String) : Prop :=
  ∃ reply lifetime, (⟨.send (tokenRequest issuer), some reply⟩ : Event) ∈ es ∧ reply.status.isSuccess = true ∧
    (reply.body.bind Json.ofBytes).bind readToken = some (text, lifetime)

/-- A token of that text was delivered, or one was held and looked up. -/
def Known (issuer : TokenIssuer) (es : List Event) (text : String) : Prop :=
  Delivered issuer es text ∨ ∃ token : AccessToken, (⟨.readToken, some token⟩ : Event) ∈ es ∧ token.text = text

theorem Delivered.mono (h : Delivered issuer es text) (hes : es ⊆ fs) : Delivered issuer fs text := by
  obtain ⟨reply, lifetime, hmem, hsuccess, hread⟩ := h
  exact ⟨reply, lifetime, hes hmem, hsuccess, hread⟩

theorem Known.mono (h : Known issuer es text) (hes : es ⊆ fs) : Known issuer fs text := by
  rcases h with h | ⟨token, hmem, htext⟩
  · exact .inl (h.mono hes)
  · exact .inr ⟨token, hes hmem, htext⟩

/-- A token that the issuer was asked for was delivered. -/
theorem delivered_of_acquireToken {token : AccessToken}
    (h : (acquireToken issuer).Does es (some (.ok token))) : Delivered issuer es token.text := by
  have hacquired := does_acquireToken h
  generalize hr : some (Except.ok token) = r at hacquired
  cases hacquired with
  | unlimited hsuccess hread | limited hsuccess hread =>
    cases hr
    exact ⟨_, _, by simp, hsuccess, hread⟩
  | _ => cases hr

theorem delivered_of_renewToken (h : (renewToken issuer).Does es (some (.ok text))) :
    Delivered issuer es text := by
  obtain ⟨token, xs, ys, rfl, hx, hy⟩ := Call.does_bind_ok.1 h
  obtain ⟨_, us, vs, rfl, -, hv⟩ := Call.does_bind_ok.1 hy
  obtain ⟨rfl, rfl⟩ := Call.does_pure_ok.1 hv
  exact (delivered_of_acquireToken hx).mono (List.subset_append_left ..)

theorem known_of_token (h : (token issuer).Does es (some (.ok text))) : Known issuer es text := by
  rcases Call.does_perform_bind.1 h with ⟨-, hr⟩ | ⟨held, ys, rfl, hy⟩
  · cases hr
  cases held with
  | none => exact .inl ((delivered_of_renewToken hy).mono (List.subset_cons_self ..))
  | some token =>
    rcases Call.does_perform_bind.1 hy with ⟨-, hr⟩ | ⟨now, zs, rfl, hz⟩
    · cases hr
    split_ifs at hz
    · refine .inl ((delivered_of_renewToken hz).mono fun ev hev => ?_)
      exact List.mem_cons_of_mem _ (List.mem_cons_of_mem _ hev)
    · obtain ⟨rfl, rfl⟩ := Call.does_pure_ok.1 hz
      exact .inr ⟨token, by simp, rfl⟩

/-- Asking the issuer for a token sends the request for one and looks at the clock. -/
theorem asks_acquireToken (issuer : TokenIssuer) :
    (acquireToken issuer).Always fun ev => ev.effect = .send (tokenRequest issuer) ∨ ev.effect = .now := by
  intro es r h
  cases does_acquireToken h with
  | unsendable | unsent => simp
  | unanswered | refused | unreadable | unlimited | untimed | limited | beyond => simp

/-- Sending a request does that and looks at the clock. -/
theorem asks_send {α : Type} {read : Json → Option α} (request : Http.Request) :
    (send read request).Always fun ev => ev.effect = .send request ∨ ev.effect = .now := by
  intro es r h
  rcases does_send h with ⟨rfl, -⟩ | hs
  · simp
  · cases hs <;> simp

end Transport

/-! ## What a connector sends -/

namespace Connector

open Transport

variable {α : Type} {c : Connector} {config : Config}

/-- Where the connector gets tokens: at the token URL of its account, for the client of its
configuration. -/
def issuer (c : Connector) : TokenIssuer :=
  ⟨Credentials.ofText c.config.clientId, Credentials.ofSecret c.config.clientSecret, c.client.resolver.tokenUrl⟩

/-- The request goes to an API and carries one credential that the configuration provides, behind the one
that its URL makes up, if that does. -/
def Signed (c : Connector) (given : String → Prop) (request : Http.Request) : Prop :=
  ∃ scope url query prepared method body credential, c.client.Resolves scope url ∧
    prepareUrl url query = .ok prepared ∧ request = requestAt prepared (some credential) method body ∧
    request.credentials = (takeUser prepared).2.toList ++ [credential] ∧ c.config.Provides given credential

theorem Signed.mono {given given' : String → Prop} {request : Http.Request} (h : c.Signed given request)
    (hgiven : ∀ text, given text → given' text) : c.Signed given' request := by
  obtain ⟨scope, url, query, prepared, method, body, credential, hurl, hprepared, hrequest, hcredentials,
    hprovides⟩ := h
  exact ⟨scope, url, query, prepared, method, body, credential, hurl, hprepared, hrequest, hcredentials,
    hprovides.mono hgiven⟩

/-- The request goes to an API and carries a token of that sort, behind what its URL says of a user, and no
other credential. -/
def Bears (c : Connector) (given : String → Prop) (request : Http.Request) : Prop :=
  ∃ scope url query prepared text, c.client.Resolves scope url ∧ prepareUrl url query = .ok prepared ∧
    request.url = (takeUser prepared).1 ∧ request.credentials = (takeUser prepared).2.toList ++ [.bearer text] ∧
    given text

/-- Where tokens are issued, requests are signed with nothing else. -/
theorem Signed.bears {given : String → Prop} {request : Http.Request} (h : c.Signed given request)
    (hfamily : c.config.family = .oauth2) : c.Bears given request := by
  obtain ⟨scope, url, query, prepared, _, _, _, hurl, hprepared, rfl, hcredentials, hprovides⟩ := h
  cases hprovides with
  | issued _ htext => exact ⟨scope, url, query, prepared, _, hurl, hprepared, rfl, hcredentials, htext⟩
  | user hother | token hother => cases hfamily.symm.trans hother

/-- What an event is like in a call of the connector that has done those before: a request asks for a token
or is signed with what is known, and a token that is written was delivered. -/
def Guarded (c : Connector) (before : List Event) : Event → Prop
  | ⟨.send request, _⟩ =>
    c.config.family = .oauth2 ∧ request = tokenRequest c.issuer ∨ c.Signed (Known c.issuer before) request
  | ⟨.writeToken (some token), _⟩ => Delivered c.issuer before token.text
  | _ => True

theorem Guarded.mono {before before' : List Event} {ev : Event} (h : c.Guarded before ev)
    (hbefore : before ⊆ before') : c.Guarded before' ev := by
  obtain ⟨e, answer⟩ := ev
  cases e with
  | send request =>
    rcases h with h | h
    · exact .inl h
    · exact .inr (h.mono fun _ htext => htext.mono hbefore)
  | writeToken token =>
    cases token with
    | none => exact trivial
    | some token => exact Delivered.mono h hbefore
  | _ => exact trivial

theorem guards_bind {β : Type} {x : Call α} {f : α → Call β} (hx : x.Guards c.Guarded)
    (hf : ∀ a, (f a).Guards c.Guarded) : (x >>= f).Guards c.Guarded := by
  refine Call.guards_bind hx fun a xs _ es r hdoes before ev after hes => ?_
  exact (hf a es r hdoes before ev after hes).mono (List.subset_append_right ..)

theorem guards_pure {a : α} : (pure a : Call α).Guards c.Guarded :=
  Call.guards_of_always (P := fun _ => False) Call.always_pure fun _ _ hno => hno.elim

theorem guards_fail {e : Error} : (Call.fail e : Call α).Guards c.Guarded :=
  Call.guards_of_always (P := fun _ => False) Call.always_fail fun _ _ hno => hno.elim

theorem guards_perform {e : Effect} (h : ∀ before answer, c.Guarded before ⟨e, answer⟩) :
    (Call.perform e).Guards c.Guarded := by
  refine Call.guards_of_always (P := fun ev => ∃ answer, ev = ⟨e, answer⟩)
    (Call.always_perform fun answer => ⟨answer, rfl⟩) ?_
  rintro before _ ⟨answer, rfl⟩
  exact h before answer

theorem guards_ofExcept_bind {β ε : Type} {error : ε → Error} {v : Except ε α} {f : α → Call β}
    (h : ∀ a, v = .ok a → (f a).Guards c.Guarded) : (Call.ofExcept error v >>= f).Guards c.Guarded := by
  cases v with
  | ok a => exact h a rfl
  | error fault => exact guards_fail

/-! ## Tokens -/

theorem guards_renewToken (hfamily : c.config.family = .oauth2) :
    (renewToken c.issuer).Guards c.Guarded := by
  refine Call.guards_bind (Call.guards_of_always (asks_acquireToken c.issuer) ?_) fun token xs hxs => ?_
  · rintro before ⟨e, answer⟩ (rfl | rfl)
    · exact .inl ⟨hfamily, rfl⟩
    · exact trivial
  · -- The token that is written is the one that was just delivered.
    rintro es r hdoes before ev after rfl
    rcases Call.does_perform_bind.1 hdoes with ⟨hnil, -⟩ | ⟨_, ys, heq, hy⟩
    · simp at hnil
    obtain ⟨rfl, -⟩ := Call.does_pure.1 hy
    obtain ⟨rfl, rfl, -⟩ : before = [] ∧ ev = ⟨.writeToken (some token), ()⟩ ∧ after = [] := by
      cases before <;> simp_all
    exact (delivered_of_acquireToken hxs).mono (List.subset_append_left ..)

theorem guards_token (hfamily : c.config.family = .oauth2) : (token c.issuer).Guards c.Guarded := by
  refine guards_bind (guards_perform fun _ _ => trivial) fun held => ?_
  cases held with
  | none => exact guards_renewToken hfamily
  | some held =>
    refine guards_bind (guards_perform fun _ _ => trivial) fun now => ?_
    split
    · exact guards_renewToken hfamily
    · exact guards_pure

/-! ## Exchanges -/

/-- The connector is one that a valid configuration makes. -/
structure Made (c : Connector) : Prop where
  valid : c.config.fault? = none
  client : Client.ofConfig c.config = .ok c.client

theorem made_of_ofConfig (h : ofConfig config = .ok c) : c.config = config ∧ c.Made := by
  unfold ofConfig Config.validate at h
  cases hfault : config.fault? with
  | some fault =>
    rw [hfault] at h
    cases h
  | none =>
    rw [hfault] at h
    cases hclient : Client.ofConfig config with
    | error e =>
      rw [hclient] at h
      cases h
    | ok client =>
      rw [hclient] at h
      cases h
      exact ⟨rfl, hfault, hclient⟩

/-- A credential is always at hand, and is one that the configuration provides. -/
theorem Made.provides (h : c.Made) {scope : Scope} {es : List Event} {found : Option Http.Credential}
    (hdoes : (credential c.client.credentials scope).Does es (some (.ok found))) :
    ∃ credential, found = some credential ∧ c.config.Provides (Known c.issuer es) credential := by
  rw [Client.credentials_ofConfig h.client, Credentials.ofConfig] at hdoes
  cases hfamily : c.config.family with
  | basic =>
    rw [hfamily] at hdoes
    obtain ⟨-, rfl⟩ := Call.does_pure_ok.1 hdoes
    obtain ⟨username, password, husername, hpassword⟩ := Config.user_of_basic hfamily
    refine ⟨_, rfl, ?_⟩
    rw [husername, hpassword]
    exact .user hfamily husername hpassword
  | oauth2 =>
    rw [hfamily] at hdoes
    obtain ⟨text, xs, ys, rfl, hx, hy⟩ := Call.does_bind_ok.1 hdoes
    obtain ⟨rfl, rfl⟩ := Call.does_pure_ok.1 hy
    rw [List.append_nil]
    exact ⟨_, rfl, .issued hfamily (known_of_token hx)⟩
  | workspaceTokens =>
    rw [hfamily] at hdoes
    cases scope with
    | account => cases (Call.does_fail.1 hdoes).2
    | workspace name =>
      simp only [credential] at hdoes
      split at hdoes
      · cases (Call.does_fail.1 hdoes).2
      · rename_i token htoken
        obtain ⟨-, rfl⟩ := Call.does_pure_ok.1 hdoes
        obtain ⟨i, -, htoken⟩ := Config.tokens_get? htoken
        exact ⟨_, rfl, .token hfamily (List.mem_of_getElem? htoken)⟩
  | none => exact absurd hfamily (Config.family_ne_none h.valid)

theorem Made.guards_credential (h : c.Made) (scope : Scope) :
    (credential c.client.credentials scope).Guards c.Guarded := by
  rw [Client.credentials_ofConfig h.client, Credentials.ofConfig]
  cases hfamily : c.config.family with
  | basic => exact guards_pure
  | oauth2 => exact guards_bind (guards_token hfamily) fun _ => guards_pure
  | workspaceTokens =>
    cases scope with
    | account => exact guards_fail
    | workspace name =>
      simp only [credential]
      split
      · exact guards_fail
      · exact guards_pure
  | none => exact guards_pure

theorem Made.guards_exchange (h : c.Made) {read : Json → Option α} {method : Http.Method} {scope : Scope}
    {url : Url} {body : Option Json} {terms : List Query.Term} (hurl : c.client.Resolves scope url) :
    (exchange c.client.credentials read method scope url body terms).Guards c.Guarded := by
  refine guards_ofExcept_bind fun prepared hprepared => ?_
  refine Call.guards_bind (h.guards_credential scope) fun found xs hxs => ?_
  obtain ⟨credential, rfl, hprovides⟩ := h.provides hxs
  refine Call.guards_of_always (asks_send _) ?_
  rintro before ⟨e, answer⟩ (rfl | rfl)
  · refine .inr ⟨scope, url, _, prepared, method, body, credential, hurl, hprepared, rfl, rfl, ?_⟩
    exact hprovides.mono fun _ htext => htext.mono (List.subset_append_left ..)
  · exact trivial

theorem Made.guards_composed (h : c.Made) {x : Call α} (hx : c.client.Composed x) : x.Guards c.Guarded := by
  induction hx with
  | pure => exact guards_pure
  | fail => exact guards_fail
  | @perform e he =>
    refine guards_perform fun before answer => ?_
    cases e with
    | send | now | readToken => exact he.elim
    | writeToken token =>
      obtain rfl : token = none := he
      exact trivial
    | _ => exact trivial
  | exchange hurl => exact h.guards_exchange hurl
  | bind _ _ ihx ihf => exact guards_bind ihx ihf
  | attempt _ ih => exact ih.attempt

/-! ## Tasks at once -/

section Pool

open Pool

variable {ι σ : Type} [DecidableEq ι] {rule : PeerRule σ} {calls : ι → Call α} {s : σ} {es : List (ι × Event)}
  {st : Stage ι Unit σ (Except Halt α)}

/-- The events of a call at once with others are guarded by those of its own. -/
theorem guarded_of_run (h : Run (fun _ => ()) rule (.ofCalls calls (fun _ => .fresh) s) es st)
    (hcalls : ∀ i, (calls i).Guards c.Guarded) {before after : List (ι × Event)} {i : ι} {ev : Event}
    (hes : es = before ++ (i, ev) :: after) : c.Guarded (own i before) ev := by
  refine hcalls i _ _ (h.call_does i) (own i before) ev (own i after) ?_
  rw [hes, own_append, own_cons_self]

/-- Whatever token is held or was looked up has been delivered before. -/
theorem delivered_of_run (h : Run (fun _ => ()) rule (.ofCalls calls (fun _ => .fresh) s) es st)
    (hcalls : ∀ i, (calls i).Guards c.Guarded) :
    (∀ token, (st.memory ()).token = some token → Delivered c.issuer (es.map Prod.snd) token.text) ∧
    ∀ (i : ι) (token : AccessToken), (i, (⟨.readToken, some token⟩ : Event)) ∈ es →
      Delivered c.issuer (es.map Prod.snd) token.text := by
  induction h with
  | start =>
    refine ⟨fun token hheld => ?_, fun i token hread => ?_⟩
    · cases hheld
    · cases hread
  | @step es st i e answer next s hrun hleft htells hmeets ih =>
    obtain ⟨hheld, hread⟩ := ih
    have hmore : es.map Prod.snd ⊆ (es ++ [(i, (⟨e, answer⟩ : Event))]).map Prod.snd := by simp
    have hguard : c.Guarded (own i es) ⟨e, answer⟩ :=
      guarded_of_run (.step i answer hrun hleft htells hmeets) hcalls rfl
    refine ⟨fun token htoken => ?_, fun j token hmem => ?_⟩
    · replace htoken : ((st.memory ()).after ⟨e, answer⟩).token = some token := by
        rw [← Stage.memory_after (fun _ => ()) st _ (next answer) s]
        exact htoken
      cases e with
      | writeToken written =>
        obtain rfl : written = some token := htoken
        exact (Delivered.mono hguard own_subset).mono hmore
      | _ => exact (hheld token htoken).mono hmore
    · rcases List.mem_append.1 hmem with hmem | hmem
      · exact (hread j token hmem).mono hmore
      · -- It is the token that the memory holds.
        rw [List.mem_singleton] at hmem
        cases hmem
        exact (hheld token htells.symm).mono hmore

end Pool

/-- A valid configuration uses the one family whose credentials it sets. Whatever its connector does, any
number of tasks at once and whatever they are answered, each request asks the issuer for a token or is signed
with one credential of the family: username and password, a token that the issuer has delivered by then or an
access token, as the configuration says. Only what the URL says of a user stands before it. If there is a
client secret, it goes to the token URL only: what is sent anywhere else bears a token. -/
theorem requests_are_signed (hc : ofConfig config = .ok c) :
    config.family ≠ .none ∧ (∀ family, config.Sets family ↔ family = config.family) ∧
    ∀ {ι σ : Type} [DecidableEq ι] {rule : Pool.PeerRule σ} (tasks : ι → Task) {s : σ} {es : List (ι × Event)}
      {st : Pool.Stage ι Unit σ (Except Halt Unit)},
      Pool.Run (fun _ => ()) rule (.ofCalls (fun i => ((tasks i).call c).forget) (fun _ => .fresh) s) es st →
      ∀ (before : List (ι × Event)) i request answer after, es = before ++ (i, ⟨.send request, answer⟩) :: after →
        ((config.family = .oauth2 ∧ request = tokenRequest c.issuer) ∨
          c.Signed (Delivered c.issuer (before.map Prod.snd)) request) ∧
        (Config.isSecretSet config.clientSecret = true → request.url ≠ (takeUser c.client.resolver.tokenUrl).1 →
          c.Bears (Delivered c.issuer (before.map Prod.snd)) request) := by
  obtain ⟨rfl, hmade⟩ := made_of_ofConfig hc
  refine ⟨Config.family_ne_none hmade.valid, Config.sets_iff hmade.valid, ?_⟩
  intro ι σ _ rule tasks s es st hrun before i request answer after hes
  have hcalls : ∀ i, (((tasks i).call c).forget).Guards c.Guarded := fun i =>
    guards_bind (hmade.guards_composed (composed_task c (tasks i))) fun _ => guards_pure
  have hasked : (c.config.family = .oauth2 ∧ request = tokenRequest c.issuer) ∨
      c.Signed (Delivered c.issuer (before.map Prod.snd)) request := by
    rcases guarded_of_run hrun hcalls hes with hasks | hsigned
    · exact .inl hasks
    · refine .inr (hsigned.mono ?_)
      rw [hes] at hrun
      obtain ⟨_, hbefore⟩ := hrun.of_append
      rintro text (hdelivered | ⟨token, hread, rfl⟩)
      · exact hdelivered.mono Pool.own_subset
      · exact (delivered_of_run hbefore hcalls).2 i token (Pool.mem_own.1 hread)
  refine ⟨hasked, fun hsecret helsewhere => ?_⟩
  rcases hasked with ⟨-, rfl⟩ | hsigned
  · exact absurd rfl helsewhere
  · exact hsigned.bears ((Config.isSecretSet_iff hmade.valid).1 hsecret)

/-! ## A token that was issued -/

/-- A configuration with a client id and its secret. -/
def issuedConfig : Config where
  accountId := "a"
  hostname := "h"
  accountHostname := none
  clientId := some "id"
  clientSecret := some ⟨"secret"⟩
  username := none
  password := none
  workspaces := []
  workspaceTokens := []
  accountBaseUrl := some Client.plain.resolver.accountBase
  workspaceBaseUrl := none
  timeoutSecs := 30

def issuedResolver : Resolver := ⟨"a", Client.plain.resolver.accountBase, .subdomain "h"⟩

def issued : Connector := ⟨issuedConfig, ⟨issuedResolver, .issued ⟨"id", ⟨"secret"⟩, issuedResolver.tokenUrl⟩⟩⟩

/-- Asking for the roles of the account. -/
def accountRoles : Task := .operation (.client (.listRoles .account .account))

/-- The first request asks for a token and the second is signed with it. -/
theorem requests_are_signed_of_issued : ofConfig issuedConfig = .ok issued ∧
    ∃ before request answer after st,
      Pool.Run (fun _ : Unit => ()) (Pool.ruleOf hourPeer)
        (.ofCalls (fun _ => (accountRoles.call issued).forget) (fun _ => .fresh) 0)
        (before ++ ((), ⟨.send request, answer⟩) :: after) st ∧
      request.credentials = [.bearer "t"] ∧
      issued.Signed (Delivered issued.issuer (before.map Prod.snd)) request := by
  have hc : ofConfig issuedConfig = .ok issued := rfl
  obtain ⟨st, hrun⟩ := Pool.run_events hourPeer (accountRoles.call issued).forget .fresh 0
  have hrequests : ((hourPeer.events (accountRoles.call issued).forget.run (.fresh, 0)).filterMap
      (·.request?)).map (·.credentials) = [[.basic "id" "secret"], [.bearer "t"]] := by decide +kernel
  obtain ⟨request, hrequest, hcredentials⟩ :=
    List.mem_map.1 (hrequests ▸ List.mem_cons_of_mem _ List.mem_cons_self)
  obtain ⟨answer, hev⟩ := Event.send_of_mem hrequest
  obtain ⟨before, after, hes⟩ := List.append_of_mem (List.mem_map_of_mem (f := Prod.mk ()) hev)
  refine ⟨hc, before, request, answer, after, st, hes ▸ hrun, hcredentials, ?_⟩
  obtain ⟨hasked, -⟩ :=
    (requests_are_signed hc).2.2 (fun _ : Unit => accountRoles) hrun before () request answer after hes
  rcases hasked with ⟨-, rfl⟩ | hsigned
  · exact absurd hcredentials (by decide +kernel)
  · exact hsigned

/-! ## URLs with a user -/

/-- A base with username and password. -/
def userBase : Url :=
  { Client.plain.resolver.accountBase with authority := some ⟨['x'], ['y'], .name ['h'], none⟩ }

/-- A configuration with access tokens that has the workspaces there. -/
def proxiedConfig : Config := { twinConfig with workspaceBaseUrl := some userBase }

def proxied : Connector :=
  ⟨proxiedConfig,
    ⟨⟨"a", Client.plain.resolver.accountBase, .fixed userBase⟩, .workspaceTokens proxiedConfig.tokens⟩⟩

/-- One with a workspace whose name ends username and password for its host. -/
def guestConfig : Config :=
  { twinConfig with workspaces := ["x:y@w"], workspaceTokens := [⟨"t3"⟩], workspaceBaseUrl := none }

def guest : Connector :=
  ⟨guestConfig,
    ⟨⟨"a", Client.plain.resolver.accountBase, .subdomain "h"⟩, .workspaceTokens guestConfig.tokens⟩⟩

/-- Asking for roles in that workspace. -/
def guestRoles : ClientCall := .listRoles (.workspace "x:y@w") .account

/-- The credentials of the requests that the connector sends for the call alone. -/
def credentialsSent (c : Connector) (call : ClientCall) : List (List Http.Credential) :=
  ((obliging.events (Task.call c (.operation (.client call))).run (Memory.fresh, ())).filterMap
    (·.request?)).map (·.credentials)

/-- Where access tokens are used, a request can show username and password in front of its token: the base URL
of the workspaces has them, or the name of a workspace. -/
theorem url_adds_a_credential :
    (ofConfig proxiedConfig = .ok proxied ∧ proxiedConfig.family = .workspaceTokens ∧
      (∀ given, ¬proxiedConfig.Provides given (.basic "x" "y")) ∧
      credentialsSent proxied twinRoles = [[.basic "x" "y", .bearer "t3"]]) ∧
    ofConfig guestConfig = .ok guest ∧ guestConfig.family = .workspaceTokens ∧
      (∀ given, ¬guestConfig.Provides given (.basic "x" "y")) ∧
      credentialsSent guest guestRoles = [[.basic "x" "y", .bearer "t3"]] := by
  have hproxied : proxiedConfig.family = .workspaceTokens := by decide
  have hguest : guestConfig.family = .workspaceTokens := by decide
  refine ⟨⟨rfl, hproxied, fun given hprovides => ?_, by decide +kernel⟩,
    rfl, hguest, fun given hprovides => ?_, by decide +kernel⟩
  · cases hproxied.symm.trans hprovides.family_of_basic
  · cases hguest.symm.trans hprovides.family_of_basic

end Connector

end AccessSync
