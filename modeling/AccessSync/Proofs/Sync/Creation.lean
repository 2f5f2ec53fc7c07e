import AccessSync.Proofs.Client.Writing
import AccessSync.Proofs.Json.Rereading
import AccessSync.Sync.Users
/-!
# Creating a user

A user is created by a POST and then fetched by a GET. Nothing takes the POST back when the GET fails, and
the resource is made of what the GET found. `creation_leaves_at_most_one` says what either result tells of
the users that were created; that a failure does not tell of none is `creation_leaves_half`.
-/

namespace AccessSync

/-- The request creates something: it is a POST of a document. A token is asked for by a POST of a form. -/
def Http.Request.creates (request : Http.Request) : Bool :=
  match request.method, request.body with
  | .post, .json _ => true
  | _, _ => false

namespace Event

/-- The reply of success to a request that creates something. -/
def creation? : Event → Option Http.Reply
  | ⟨.send request, some reply⟩ => if request.creates && reply.status.isSuccess then some reply else none
  | _ => none

variable {ev : Event} {credentials : Credentials}

/-- A request that reads or asks for a token creates nothing. -/
theorem Sends.not_creates (h : ev.Sends credentials (· = .get)) {request : Http.Request}
    (hrequest : ev.request? = some request) : request.creates = false := by
  rcases h request hrequest with hget | ⟨issuer, -, rfl⟩
  · rw [Http.Request.creates, hget]
  · rfl

theorem creation?_eq_none (h : ∀ request, ev.request? = some request → request.creates = false) :
    ev.creation? = none := by
  obtain ⟨e, answer⟩ := ev
  cases e with
  | send request =>
    have hno : request.creates = false := h request rfl
    cases answer <;> simp [creation?, hno]
  | _ => rfl

end Event

/-- The replies that tell of something created, in their order. -/
def creations (es : List Event) : List Http.Reply := es.filterMap (·.creation?)

theorem creations_append (es fs : List Event) : creations (es ++ fs) = creations es ++ creations fs :=
  List.filterMap_append

/-- Reading creates nothing. -/
theorem creations_of_reads {credentials : Credentials} {es : List Event}
    (h : ∀ ev ∈ es, ev.ReadsOnly credentials) : creations es = [] :=
  List.filterMap_eq_nil_iff.2 fun ev hev => Event.creation?_eq_none fun _ => (h ev hev).not_creates

namespace Transport

variable {α : Type} {read : Json → Option α} {request : Http.Request} {es : List Event}

/-- A request that creates something has a reply of success and the result is what that comes to, or it
has none and no value. -/
theorem Exchanged.creations {result : Except Halt (α × Http.RateLimit)} (h : Exchanged read request es (some result))
    (hcreates : request.creates = true) :
    (AccessSync.creations es = [] ∧ ∀ a, result ≠ .ok a) ∨
    ∃ reply now, AccessSync.creations es = [reply] ∧ result = decode read now reply := by
  generalize hq : some result = q at h
  cases h with
  | unanswered =>
    cases hq
    exact .inl ⟨rfl, fun a ha => by cases ha⟩
  | answered => cases hq
  | read reply now =>
    cases hq
    cases hsuccess : reply.status.isSuccess with
    | true =>
      refine .inr ⟨reply, now, ?_, rfl⟩
      simp [AccessSync.creations, Event.creation?, hcreates, hsuccess]
    | false =>
      refine .inl ⟨by simp [AccessSync.creations, Event.creation?, hsuccess], ?_⟩
      intro a ha
      rw [success_of_decode ha] at hsuccess
      cases hsuccess

end Transport

namespace Client

variable {c : Client} {u : NewUser} {es : List Event}

/-- What is sent to create a user, but for a token, is the request for it. -/
theorem asks_of_createUser {r : Option (Except Halt (User × Http.RateLimit))}
    (h : (c.createUser .account u).Does es r) {request : Http.Request} {answer : Option Http.Reply}
    (hev : ⟨.send request, answer⟩ ∈ es) (hcreates : request.creates = true) :
    ∃ url, c.resolver.resolve .users .account = .ok url ∧ Transport.Asks .post url (some u.toJson) [] request := by
  refine asks_behind (Transport.credential_sends _ .account (· = .get)) (fun _ => Event.sends_of_silent) h hev ?_
  intro hreads
  rw [hreads.not_creates rfl] at hcreates
  cases hcreates

/-- Creating a user has come to what the reply of success says, or there was none and the call failed. -/
theorem creations_of_createUser {result : Except Halt (User × Http.RateLimit)}
    (h : (c.createUser .account u).Does es (some result)) :
    (creations es = [] ∧ ∀ a, result ≠ .ok a) ∨
    ∃ reply now, creations es = [reply] ∧ result = Transport.decode (User.read 0) now reply := by
  rcases does_exchange_behind (Transport.credential_sends _ .account (· = .get)) h with
    ⟨hreads, hno⟩ | ⟨url, request, xs, ys, -, rfl, hreads, hasks, hr⟩
  · exact .inl ⟨creations_of_reads hreads, fun a ha => hno a (ha ▸ rfl)⟩
  have hcreates : request.creates = true := by
    rw [Http.Request.creates, hasks.method, hasks.body]
    rfl
  rw [creations_append, creations_of_reads hreads, List.nil_append]
  exact hr.creations hcreates

end Client

namespace Sync

/-- The request asks for the user that the profile describes to be created. -/
def AsksToCreate (c : Client) (profile : Profile) (request : Http.Request) : Prop :=
  ∃ u url, newUser profile = .ok u ∧ c.resolver.resolve .users .account = .ok url ∧
    Transport.Asks .post url (some u.toJson) [] request

/-- How the call fails behind the reply of success to its POST: the reply is not read as a user, or the
user that it describes is not fetched. -/
inductive HalfDone (c : Client) (es : List Event) (reply : Http.Reply) (halt : Halt) : Prop
  | unread {now : Instant} : Transport.decode (User.read 0) now reply = .error halt → HalfDone c es reply halt
  | unfetched {created : User} {fs : List Event} : Transport.content? (User.read 0) reply = some created →
      fs <:+ es → (c.get .users .account created.id).Does fs (some (.error halt)) → HalfDone c es reply halt

/-- The user that the reply describes was fetched, and the resource is that of the user that was found. -/
def ShowsFetched (c : Client) (es : List Event) (reply : Http.Reply) (resource : Resource) : Prop :=
  ∃ created v user, Transport.content? (User.read 0) reply = some created ∧
    c.Fetched .users .account created.id v es ∧ User.read 0 v = some user ∧
    resource.id = .ofType .user user.id

theorem id_userResource (u : User) (parent : ResourceId) : (userResource u parent).id = .ofType .user u.id := by
  unfold userResource Resource.underAccount
  split_ifs <;> rfl

/-- The courses that creating the user of a profile can take to their end. -/
inductive Created (c : Client) (profile : Profile) : List Event → Except Halt Resource → Prop
  | undescribed {fault : ConfigFault} : newUser profile = .error fault →
      Created c profile [] (.error (.error (.config fault)))
  | refused {u : NewUser} {es : List Event} {halt : Halt} : newUser profile = .ok u →
      (c.createUser .account u).Does es (some (.error halt)) → Created c profile es (.error halt)
  | unfetched {u : NewUser} {created : User × Http.RateLimit} {xs ys : List Event} {halt : Halt} :
      newUser profile = .ok u → (c.createUser .account u).Does xs (some (.ok created)) →
      (c.get .users .account created.1.id).Does ys (some (.error halt)) → Created c profile (xs ++ ys) (.error halt)
  | fetched {u : NewUser} {created found : User × Http.RateLimit} {xs ys : List Event} :
      newUser profile = .ok u → (c.createUser .account u).Does xs (some (.ok created)) →
      (c.get .users .account created.1.id).Does ys (some (.ok found)) →
      Created c profile (xs ++ ys) (.ok (userResource found.1 (.ofType .account c.accountId)))

variable {c : Client} {profile : Profile} {es : List Event} {result : Except Halt Resource}

theorem created_of_does (h : (createUser c profile).Does es (some result)) : Created c profile es result := by
  rcases Call.does_ofExcept_bind.1 h with ⟨fault, hfault, rfl, heq⟩ | ⟨u, hu, h⟩
  · cases heq
    exact .undescribed hfault
  rcases Call.does_bind.1 h with ⟨-, heq⟩ | ⟨halt, hpost, heq⟩ | ⟨created, xs, ys, rfl, hpost, h⟩
  · cases heq
  · cases heq
    exact .refused hu hpost
  obtain ⟨r', hget, hresult⟩ := Call.does_bind_pure.1 h
  rcases r' with _ | halt | found <;> cases hresult
  · exact .unfetched hu hpost hget
  · exact .fetched hu hpost hget

theorem reads_of_get {id : String} {r : Option (Except Halt (User × Http.RateLimit))}
    (h : (c.get .users .account id).Does es r) : ∀ ev ∈ es, ev.ReadsOnly c.credentials :=
  Client.reads_get.sends es r h

/-- Only the POST creates anything. -/
theorem Created.asks (h : Created c profile es result) {request : Http.Request} {answer : Option Http.Reply}
    (hev : ⟨.send request, answer⟩ ∈ es) (hcreates : request.creates = true) : AsksToCreate c profile request := by
  have hposted : ∀ {u xs r}, newUser profile = .ok u → (c.createUser .account u).Does xs r →
      ⟨.send request, answer⟩ ∈ xs → AsksToCreate c profile request := by
    intro u xs r hu hpost hev
    obtain ⟨url, hurl, hasks⟩ := Client.asks_of_createUser hpost hev hcreates
    exact ⟨u, url, hu, hurl, hasks⟩
  cases h with
  | undescribed => cases hev
  | refused hu hpost => exact hposted hu hpost hev
  | unfetched hu hpost hget | fetched hu hpost hget =>
    refine hposted hu hpost ((List.mem_append.1 hev).resolve_right fun hev => ?_)
    rw [(reads_of_get hget _ hev).not_creates rfl] at hcreates
    cases hcreates

/-- A POST that has a value created one user, and a GET creates none. -/
theorem creations_of_fetch {u : NewUser} {created : User × Http.RateLimit} {xs ys : List Event}
    {r : Option (Except Halt (User × Http.RateLimit))} (hpost : (c.createUser .account u).Does xs (some (.ok created)))
    (hget : (c.get .users .account created.1.id).Does ys r) :
    ∃ reply, creations (xs ++ ys) = [reply] ∧ Transport.content? (User.read 0) reply = some created.1 := by
  obtain ⟨reply, now, hone, hdecode⟩ := (Client.creations_of_createUser hpost).resolve_left
    fun ⟨_, hno⟩ => hno _ rfl
  refine ⟨reply, ?_, Transport.content?_of_decode hdecode.symm⟩
  rw [creations_append, hone, creations_of_reads (reads_of_get hget), List.append_nil]

theorem Created.halfDone {halt : Halt} (h : Created c profile es (.error halt)) :
    creations es = [] ∨ ∃ reply, creations es = [reply] ∧ HalfDone c es reply halt := by
  cases h with
  | undescribed => exact .inl rfl
  | refused _ hpost =>
    rcases Client.creations_of_createUser hpost with ⟨hnone, -⟩ | ⟨reply, now, hone, hdecode⟩
    · exact .inl hnone
    · exact .inr ⟨reply, hone, .unread hdecode.symm⟩
  | unfetched _ hpost hget =>
    obtain ⟨reply, hone, hcreated⟩ := creations_of_fetch hpost hget
    exact .inr ⟨reply, hone, .unfetched hcreated (List.suffix_append ..) hget⟩

theorem Created.showsFetched {resource : Resource} (h : Created c profile es (.ok resource)) :
    ∃ reply, creations es = [reply] ∧ ShowsFetched c es reply resource := by
  cases h with
  | @fetched _ created found _ _ _ hpost hget =>
    obtain ⟨reply, hone, hcreated⟩ := creations_of_fetch hpost hget
    obtain ⟨v, hv, hfound⟩ := Client.fetched_of_get hget
    exact ⟨reply, hone, created.1, v, found.1, hcreated, hv.mono (List.subset_append_right ..), hfound,
      id_userResource found.1 _⟩

/-- Creating the user of a profile sends the POST for it and nothing else that creates anything. If the call
fails, nothing was created or one user was, and then the reply that tells so could not be read or its user
not be fetched. If it has a value, one user was created, and the resource is that of the user found under
the id in the reply. -/
theorem creation_leaves_at_most_one (h : (createUser c profile).Does es (some result)) :
    (∀ request answer, ⟨.send request, answer⟩ ∈ es → request.creates = true → AsksToCreate c profile request) ∧
    (∀ halt, result = .error halt →
      creations es = [] ∨ ∃ reply, creations es = [reply] ∧ HalfDone c es reply halt) ∧
    ∀ resource, result = .ok resource →
      ∃ reply, creations es = [reply] ∧ ShowsFetched c es reply resource := by
  have hcreated := created_of_does h
  refine ⟨fun request answer hev hcreates => hcreated.asks hev hcreates, ?_, ?_⟩
  · rintro halt rfl
    exact hcreated.halfDone
  · rintro resource rfl
    exact hcreated.showsFetched

/-! ## A user whom the peer creates -/

def carolProfile : Profile := .ofList [("email", .string "carol"), ("displayName", .string "Carol King")]

/-- What the peer says of the user. -/
def carolTold (id : String) : Json := .object [("id", .string id), ("userName", .string "carol")]

/-- The user as the client reads it. -/
def carol (id : String) : User := ⟨id, [], [], "carol", "", false, ⟨[], []⟩⟩

/-- Where a client of the account without credentials finds the users, or one of them. -/
def carolUrl (within : List String) : Url :=
  ⟨['h', 't', 't', 'p'], some ⟨[], [], .name ['h'], none⟩, false,
    .segments ((["api", "2.0", "accounts", "a", "scim", "v2", "Users"] ++ within).map (·.toList)), none, none⟩

/-- The user is created and has the id 88. -/
def carolPost : List Event :=
  [⟨.send (Transport.requestAt (carolUrl []) none .post (some (NewUser.toJson ⟨"carol", "Carol King", ⟨"", ""⟩, true⟩))),
    some (Transport.replyOf (carolTold "88").toText)⟩, ⟨.now, ⟨0⟩⟩]

/-- Asked for that user, the peer has this reply. -/
def carolGet (reply : Http.Reply) : List Event :=
  [⟨.send (Transport.requestAt (carolUrl ["88"]) none .get none), some reply⟩, ⟨.now, ⟨0⟩⟩]

/-- What the resource of the user is made of. -/
def carolShown (id : String) : Resource := userResource (carol id) (.ofType .account "a")

theorem carol_sendable : ∀ within ∈ [[], ["88"]],
    Transport.Sendable Client.plain.credentials .account (carolUrl within) (carolUrl within) none := by
  intro within hwithin
  rcases List.mem_pair.1 hwithin with rfl | rfl
  all_goals refine ⟨rfl, Client.ok_of_toOption ?_, ?_, ?_⟩ <;> decide +kernel

theorem carol_read (id : String) :
    (Transport.readBody (Utf8.encode (carolTold id).toText.toList)).bind (User.read 0) = some (carol id) := by
  rw [carolTold, Transport.readBody_object rfl]
  rfl

/-- The call ends as the reply to its GET makes it. -/
theorem carol_does {reply : Http.Reply} {found : Except Halt (User × Http.RateLimit)}
    (hfound : Transport.decode (User.read 0) ⟨0⟩ reply = found) :
    (createUser Client.plain carolProfile).Does (carolPost ++ carolGet reply)
      (some (found.map fun x => userResource x.1 (.ofType .account "a"))) := by
  have hpost : Client.plain.resolver.resolve .users .account = .ok (carolUrl []) :=
    Client.ok_of_toOption (by decide +kernel)
  have hget : Client.plain.resolver.resolveWith .users .account ["88"] = .ok (carolUrl ["88"]) :=
    Client.ok_of_toOption (by decide +kernel)
  have hgets : (Client.plain.get .users .account "88").Does (carolGet reply) (some found) := by
    rw [← hfound]
    exact Call.does_ofExcept_bind.2 (.inr ⟨_, hget, Transport.exchange_does_bare
      (carol_sendable ["88"] (by decide)) reply ⟨0⟩⟩)
  refine Call.does_ofExcept_bind.2 (.inr ⟨⟨"carol", "Carol King", ⟨"", ""⟩, true⟩, rfl, ?_⟩)
  refine Call.does_bind.2 (.inr (.inr ⟨(carol "88", ⟨.unknown, none, none, none⟩), carolPost, _, rfl, ?_, ?_⟩))
  · exact Client.exchange_does_read hpost (carol_sendable [] (by decide)) (carol_read "88") ⟨0⟩
  · exact Call.does_bind_pure.2 ⟨_, hgets, rfl⟩

theorem carol_shown (id : String) : (createUser Client.plain carolProfile).Does
    (carolPost ++ carolGet (Transport.replyOf (carolTold id).toText)) (some (.ok (carolShown id))) :=
  carol_does (Transport.decode_replyOf (carol_read id) ⟨0⟩)

/-- The user is created and found under its id. -/
theorem creation_leaves_at_most_one_of_carol :
    (createUser Client.plain carolProfile).Does
      (carolPost ++ carolGet (Transport.replyOf (carolTold "88").toText)) (some (.ok (carolShown "88"))) ∧
    ∃ reply, creations (carolPost ++ carolGet (Transport.replyOf (carolTold "88").toText)) = [reply] ∧
      ShowsFetched Client.plain (carolPost ++ carolGet (Transport.replyOf (carolTold "88").toText)) reply
        (carolShown "88") :=
  ⟨carol_shown "88", (creation_leaves_at_most_one (carol_shown "88")).2.2 _ rfl⟩

/-- A refusal without a text. -/
def refusal : Http.Reply := ⟨⟨500⟩, [], some []⟩

/-- What it is told as. -/
def refused : ApiError := ⟨⟨500⟩, "", "", ⟨.unknown, none, none, none⟩⟩

theorem decode_refusal {α : Type} (read : Json → Option α) (now : Instant) :
    Transport.decode read now refusal = .error (.error (.api refused)) := by
  have hread : Transport.decode read now refusal =
      .error (.error (.api (Transport.readError ⟨500⟩ [] ⟨.unknown, none, none, none⟩))) := rfl
  have htexts : (Json.ofBytes []).bind Transport.readErrorTexts = none := by decide +kernel
  have hmessage : Text.trimBlank (String.ofList (Utf8.decodeLossy [])) = "" := by decide +kernel
  rw [hread, Transport.readError, htexts]
  dsimp only
  rw [hmessage, refused]

/-- When the user who was created is not found, the call fails with what the peer refused that with; and when
something without an id is found, that is shown. -/
theorem creation_leaves_half :
    (createUser Client.plain carolProfile).Does (carolPost ++ carolGet refusal)
      (some (.error (.error (.api refused)))) ∧
    creations (carolPost ++ carolGet refusal) = [Transport.replyOf (carolTold "88").toText] ∧
    (createUser Client.plain carolProfile).Does
      (carolPost ++ carolGet (Transport.replyOf (carolTold "").toText)) (some (.ok (carolShown ""))) ∧
    Transport.content? (User.read 0) (Transport.replyOf (carolTold "88").toText) = some (carol "88") ∧
    (carolShown "").id = ⟨"user", ""⟩ :=
  ⟨carol_does (decode_refusal _ _), rfl, carol_shown "",
    Transport.content?_of_decode (Transport.decode_replyOf (carol_read "88") ⟨0⟩), rfl⟩

end Sync

end AccessSync
