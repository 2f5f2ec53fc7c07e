import AccessSync.Proofs.Client.Addressing
import AccessSync.Proofs.Url.Hosting
/-!
# Requests under a hostname

The APIs of workspaces may each have a host of its own under one hostname: the name of the workspace and a
full stop stand in front of it. The name is put there as it is, and so it can part the URL. A name that
holds no sign for this makes a host under that of the hostname (`Resolver.resolve_under`), which stays the
same when the URL is unescaped and read anew (`Transport.prepareUrl_domain`). Main statement: so the
requests of an exchange all go there, whatever the endpoint, the further texts and the parameters
(`Client.stays_under`).
-/

namespace AccessSync

namespace Url

variable {u : Url} {cs domain : List Char} {port : Option Nat}

/-- The URL is one of the encrypted web at that domain, and it names no user. -/
def IsAt (u : Url) (domain : List Char) : Prop :=
  u.scheme = secure ∧ ∃ port, u.authority = some ⟨[], [], .name domain, port⟩

/-- The host of the URL is a domain that ends in a full stop and this one. -/
def LiesUnder (u : Url) (domain : List Char) : Prop := ∃ front, u.IsAt (front ++ '.' :: domain)

theorem IsAt.host? (h : u.IsAt domain) (hne : domain ≠ []) : u.host? = some (.name domain) := by
  obtain ⟨-, port, hauthority⟩ := h
  simp [Url.host?, hauthority, hne]

/-! ## Reading a domain anew -/

/-- A port as it stands behind a host. -/
def portText : Option Nat → List Char
  | some n => ':' :: Text.decimal n
  | none => []

/-- The text of a URL up to its path. -/
def opening (domain : List Char) (port : Option Nat) : List Char :=
  secure ++ ':' :: '/' :: '/' :: (domain ++ portText port)

/-- It counts wherever it stands, and it begins no escape, query or fragment. -/
def Stays (c : Char) : Prop := Counts c ∧ c ∉ ['%', '#', '?']

instance (c : Char) : Decidable (Stays c) := inferInstanceAs (Decidable (_ ∧ _))

theorem mem_portText {c : Char} (hc : c ∈ portText port) : c = ':' ∨ c.isAlphanum = true ∨ c = '-' := by
  cases port with
  | none => cases hc
  | some n => exact (List.mem_cons.1 hc).imp_right ((Text.plain_decimal n).2 c)

theorem portText_stays : ∀ c ∈ portText port, Stays c ∧ isInside c = true ∧ c ≠ '@' := by
  intro c hc
  rcases mem_portText hc with rfl | hc
  · decide
  · obtain ⟨-, hedge, hignored, hinside, -, hother⟩ := plain_char hc
    refine ⟨⟨⟨hedge, hignored⟩, fun hmem => hother ?_⟩, hinside, ?_⟩
    · simp only [List.mem_cons, List.not_mem_nil, or_false] at hmem ⊢
      tauto
    · rintro rfl
      exact absurd hc (by decide)

theorem opening_stays (hdomain : Domain.IsWritten domain) (port : Option Nat) : ∀ c ∈ opening domain port, Stays c := by
  have hwritten : ∀ c ∈ domain, Stays c := by
    intro c hc
    obtain ⟨-, hedge, hignored, hother⟩ := Authority.written_char (hdomain c hc)
    refine ⟨⟨hedge, hignored⟩, fun hmem => hother ?_⟩
    simp only [List.mem_cons, List.not_mem_nil, or_false] at hmem ⊢
    tauto
  intro c hc
  have hparts : opening domain port = ['h', 't', 't', 'p', 's', ':', '/', '/'] ++ (domain ++ portText port) := rfl
  rw [hparts, List.mem_append, List.mem_append] at hc
  rcases hc with hc | hc | hc
  · have hfront : ['h', 't', 't', 'p', 's', ':', '/', '/'].all (Stays ·) = true := by decide
    exact of_decide_eq_true (List.all_eq_true.1 hfront c hc)
  · exact hwritten c hc
  · exact (portText_stays c hc).1

theorem kept_opening (hdomain : Domain.IsWritten domain) (port : Option Nat) (cs : List Char) :
    kept (opening domain port ++ '/' :: cs) =
      secure ++ ':' :: ('/' :: '/' :: (domain ++ portText port) ++ '/' :: ending cs) := by
  have hopening : ((opening domain port).dropWhile isEdge).filter (!UrlPath.isIgnored ·) = opening domain port :=
    List.filter_eq_self.2 fun c hc => by simp [(opening_stays hdomain port c hc).1.2]
  rw [kept_append (by decide), hopening, opening]
  simp

theorem place_opening (hdomain : Domain.IsWritten domain) (port : Option Nat) (cs : List Char) :
    place ('/' :: '/' :: (domain ++ portText port) ++ '/' :: cs) =
      '/' :: '/' :: (domain ++ (portText port ++ '/' :: place cs)) := by
  have hfront : ∀ d ∈ ['#', '?'], d ∉ '/' :: '/' :: (domain ++ portText port) ++ ['/'] := by
    intro d hd hmem
    rcases List.mem_append.1 hmem with hmem | hmem
    · have hstays := opening_stays hdomain port d (List.mem_append_right _ (List.mem_cons_of_mem _ hmem))
      exact hstays.2 (List.mem_cons_of_mem _ hd)
    · rw [List.mem_singleton.1 hmem] at hd
      exact absurd hd (by decide)
  have happend := place_append (hfront '#' (by decide)) (hfront '?' (by decide)) cs
  simpa using happend

/-- Whatever stands behind a slash, the domain in front of it is read again. -/
theorem isAt_of_read (hdomain : Host.IsDomain domain) (hne : domain ≠ [])
    (h : ofChars (opening domain port ++ '/' :: cs) = .ok u) : u.IsAt domain := by
  obtain ⟨hscheme, a, more, behind, hauthority, -, hparse⟩ := ofChars_secure (kept_opening hdomain.written port cs) h
  obtain ⟨d, ds, rfl⟩ := List.exists_cons_of_ne_nil hne
  have hd : isSlash true d = false := by
    simpa [isInside] using (Authority.written_char (hdomain.written d List.mem_cons_self)).1
  rw [place_opening hdomain.written, List.dropWhile_cons_of_pos (by decide), List.dropWhile_cons_of_pos (by decide),
    List.cons_append, List.dropWhile_cons_of_neg (by simp [hd]), ← List.cons_append] at hparse
  have hport : ∀ c ∈ (portText port ++ '/' :: place (ending cs)).head?, c = ':' ∨ isInside c = false := by
    cases port <;> simp [portText, isInside, isSlash]
  have huser : '@' ∉ (portText port ++ '/' :: place (ending cs)).takeWhile isInside := by
    rw [List.takeWhile_append_of_pos fun c hc => (portText_stays c hc).2.1, List.takeWhile_cons_of_neg (by decide),
      List.append_nil]
    exact fun hmem => (portText_stays _ hmem).2.2 rfl
  obtain ⟨port', rfl⟩ := Authority.parse_domain (by decide) hdomain hport huser hparse
  exact ⟨hscheme, port', hauthority⟩

/-- The text of a URL at a domain, if it has a path. -/
theorem IsAt.chars (h : u.IsAt domain) {parts : List (List Char)} (hpath : u.path = .segments parts)
    (hparts : parts ≠ []) : ∃ port tail, u.chars = opening domain port ++ '/' :: tail := by
  obtain ⟨hscheme, port, hauthority⟩ := h
  obtain ⟨part, parts, rfl⟩ := List.exists_cons_of_ne_nil hparts
  refine ⟨port, part ++ (UrlPath.segments parts).text ++ u.query.elim [] ('?' :: ·) ++ fragmentText u.fragment, ?_⟩
  rw [Url.chars, hscheme, hauthority, hpath]
  cases port <;> cases u.query <;> cases u.fragment <;>
    simp [Authority.text, Host.text, UrlPath.text, opening, portText, fragmentText]

end Url

namespace Transport

variable {url sent : Url} {query : Query} {domain : List Char}

/-- A URL that is read anew has the scheme and the authority that are read. -/
theorem prepareUrl_eq_ok (h : prepareUrl url query = .ok sent) :
    ∃ cs read, Percent.StandsFor url.chars cs ∧ Url.ofChars cs = .ok read ∧
      sent.scheme = read.scheme ∧ sent.authority = read.authority := by
  obtain ⟨cs, read, hcs, hread, rfl⟩ := prepareUrl_iff.1 h
  refine ⟨cs, read, Percent.standsFor_iff.2 hcs, hread, ?_⟩
  split_ifs <;> exact ⟨rfl, rfl⟩

/-- Prepared for a request, a URL at a domain stays there. -/
theorem prepareUrl_domain (hurl : url.IsAt domain) (hdomain : Host.IsDomain domain) (hne : domain ≠ [])
    {parts : List (List Char)} (hpath : url.path = .segments parts) (hparts : parts ≠ [])
    (h : prepareUrl url query = .ok sent) : sent.IsAt domain := by
  obtain ⟨cs, read, hcs, hread, hscheme, hauthority⟩ := prepareUrl_eq_ok h
  obtain ⟨port, tail, hchars⟩ := hurl.chars hpath hparts
  rw [hchars] at hcs
  -- Nothing before the path is an escape, so only what stands behind its first slash can change.
  obtain ⟨front, back, hfront, -, rfl⟩ := hcs.cut (by decide)
  have hself : '%' ∉ Url.opening domain port := fun hmem => (Url.opening_stays hdomain.written port _ hmem).2 (by decide)
  obtain rfl := hfront.unique (Percent.standsFor_self hself)
  rw [Url.IsAt, hscheme, hauthority]
  exact Url.isAt_of_read hdomain hne hread

/-- Where no user is named, no credential is taken from the URL. -/
theorem takeUser_of_isAt (h : url.IsAt domain) : takeUser url = (url, none) := by
  obtain ⟨-, port, hauthority⟩ := h
  have hnone : unescape? [] = some "" := by decide +kernel
  simp [takeUser, hauthority, hnone]

end Transport

/-! ## Names in front of a hostname -/

namespace Resolver

variable {r : Resolver} {endpoint : Endpoint} {scope : Scope} {hostname name : String} {base url : Url}
  {domain : List Char}

/-- What counts of the name of a workspace, behind slashes at its front. -/
def label (name : String) : List Char := (name.toList.filter (!UrlPath.isIgnored ·)).dropWhile (isSlash true)

/-- A name that parts no URL: behind slashes at its front it ends neither the host nor user information. -/
def IsLabel (name : String) : Prop := ∀ c ∈ label name, c ∉ ['/', '\\', '?', '#', '@']

instance (name : String) : Decidable (IsLabel name) := List.decidableBAll _ (label name)

/-- What stands of a hostname before the first slash, query or fragment. -/
def hostText (hostname : String) : List Char := (Url.place (Url.ending hostname.toList)).takeWhile isInside

/-- A hostname with something before the first slash, query or fragment, and no user information there. -/
def IsHostname (hostname : String) : Prop := hostText hostname ≠ [] ∧ '@' ∉ hostText hostname

instance (hostname : String) : Decidable (IsHostname hostname) := inferInstanceAs (Decidable (_ ∧ _))

theorem IsLabel.notMem (h : IsLabel name) {c : Char} (hc : c ∈ ['?', '#', '@']) :
    c ∉ name.toList.filter (!UrlPath.isIgnored ·) := by
  rw [← List.takeWhile_append_dropWhile (p := isSlash true) (l := name.toList.filter (!UrlPath.isIgnored ·)),
    List.mem_append, not_or]
  refine ⟨fun hmem => ?_, fun hmem => h c hmem ?_⟩
  · have hslashes : ∀ c ∈ ['?', '#', '@'], isSlash true c ≠ true := by simp [isSlash]
    exact hslashes c hc (List.mem_takeWhile_imp hmem)
  · exact List.mem_cons_of_mem _ (List.mem_cons_of_mem _ hc)

theorem IsLabel.inside (h : IsLabel name) : ∀ c ∈ label name, isInside c = true ∧ c ≠ '@' := by
  intro c hc
  have hno := h c hc
  simp only [List.mem_cons, List.not_mem_nil, or_false, not_or] at hno
  obtain ⟨hslash, hback, -, -, hat⟩ := hno
  exact ⟨by simp [isInside, isSlash, hslash, hback], hat⟩

theorem readUrl_eq_ok {text : String} (h : readUrl text = .ok url) : Url.ofChars text.toList = .ok url := by
  unfold readUrl at h
  split at h
  · cases h
    assumption
  · cases h

/-- The hostname by itself is read as an authority. -/
theorem parse_hostname (hhostname : IsHostname hostname) (h : Url.parse ("https://" ++ hostname) = .ok base) :
    ∃ a more behind, base.authority = some a ∧
      Authority.parse Url.secure more (Url.place (Url.ending hostname.toList)) = .ok (a, behind) := by
  have htext : ("https://" ++ hostname).toList = ['h', 't', 't', 'p', 's', ':', '/'] ++ '/' :: hostname.toList := by
    simp
  have hkept : Url.kept ("https://" ++ hostname).toList =
      Url.secure ++ ':' :: ('/' :: '/' :: Url.ending hostname.toList) := by
    rw [htext, Url.kept_append (by decide)]
    rfl
  obtain ⟨-, a, more, behind, hauthority, -, hparse⟩ := Url.ofChars_secure hkept h
  refine ⟨a, more, behind, hauthority, ?_⟩
  have hplace : Url.place ('/' :: '/' :: Url.ending hostname.toList) =
      '/' :: '/' :: Url.place (Url.ending hostname.toList) :=
    Url.place_append (show '#' ∉ ['/', '/'] by decide) (by decide) _
  rw [hplace, List.dropWhile_cons_of_pos (by decide), List.dropWhile_cons_of_pos (by decide)] at hparse
  obtain ⟨hne, -⟩ := hhostname
  rw [hostText] at hne
  generalize Url.place (Url.ending hostname.toList) = place at hparse hne
  cases place with
  | nil => exact absurd rfl hne
  | cons c cs =>
    have hc : isInside c = true := by
      by_contra hc
      rw [List.takeWhile_cons_of_neg hc] at hne
      exact hne rfl
    have hslash : isSlash true c = false := by simpa [isInside] using hc
    rwa [List.dropWhile_cons_of_neg (by simp [hslash])] at hparse

/-- A name stands in front of the hostname as it is. -/
theorem kept_name (name hostname : String) : Url.kept ("https://" ++ name ++ "." ++ hostname).toList =
    Url.secure ++
      ':' :: ('/' :: '/' :: (name.toList.filter (!UrlPath.isIgnored ·)) ++ '.' :: Url.ending hostname.toList) := by
  have htext : ("https://" ++ name ++ "." ++ hostname).toList =
      ['h', 't', 't', 'p', 's', ':', '/', '/'] ++ name.toList ++ '.' :: hostname.toList := by
    simp
  rw [htext, Url.kept_append (by decide)]
  rfl

theorem IsLabel.place (h : IsLabel name) (cs : List Char) :
    Url.place ('/' :: '/' :: (name.toList.filter (!UrlPath.isIgnored ·)) ++ '.' :: cs) =
      '/' :: '/' :: (name.toList.filter (!UrlPath.isIgnored ·)) ++ '.' :: Url.place cs := by
  have hfront : ∀ d ∈ ['?', '#'], d ∉ '/' :: '/' :: (name.toList.filter (!UrlPath.isIgnored ·)) ++ ['.'] := by
    intro d hd
    have hother : d ∈ ['?', '#', '@'] ∧ d ≠ '/' ∧ d ≠ '.' := by
      simp only [List.mem_cons, List.not_mem_nil, or_false] at hd
      rcases hd with rfl | rfl <;> decide
    simp only [List.cons_append, List.mem_cons, List.mem_append, List.not_mem_nil, or_false, not_or]
    exact ⟨hother.2.1, hother.2.1, h.notMem hother.1, hother.2.2⟩
  have happend := Url.place_append (hfront '#' (by decide)) (hfront '?' (by decide)) cs
  simpa using happend

/-- The base of a workspace lies under its hostname. -/
theorem baseUrl_under (hplace : r.workspaceBase = .subdomain hostname) (hhostname : IsHostname hostname)
    (hbase : Url.parse ("https://" ++ hostname) = .ok base) (hdomain : base.host? = some (.name domain))
    (hname : IsLabel name) (h : r.baseUrl (.workspace name) = .ok url) :
    ∃ front parts, url.IsAt (front ++ '.' :: domain) ∧ Host.IsDomain (front ++ '.' :: domain) ∧
      url.path = .segments parts := by
  rw [baseUrl, hplace] at h
  obtain ⟨hscheme, a, more, behind, hauthority, hpath, hparse⟩ :=
    Url.ofChars_secure (kept_name name hostname) (readUrl_eq_ok h)
  rw [hname.place, Text.dropWhile_append_stop (by decide), List.dropWhile_cons_of_pos (by decide),
    List.dropWhile_cons_of_pos (by decide)] at hparse
  obtain ⟨a', more', behind', hauthority', hparse'⟩ := parse_hostname hhostname hbase
  have hhost : a'.host = .name domain := by
    rw [Url.host?, hauthority'] at hdomain
    dsimp only at hdomain
    split_ifs at hdomain
    exact Option.some.inj hdomain
  obtain ⟨front, port, rfl, hwritten⟩ := Authority.parse_dot (by decide) hname.inside hhostname.2 hparse' hhost hparse
  exact ⟨front, _, ⟨hscheme, port, hauthority⟩, hwritten, hpath⟩

/-- With another path of segments, the URL is where it was. -/
theorem isAt_join (h : base.IsAt domain) {parts : List (List Char)} (hpath : base.path = .segments parts)
    (path : String) : (join base path).IsAt domain ∧ ∃ parts, (join base path).path = .segments parts := by
  obtain ⟨scheme, authority, marked, path', query, fragment⟩ := base
  obtain rfl : path' = .segments parts := hpath
  exact ⟨h, _, rfl⟩

/-- A URL of a workspace lies under the hostname, and its path is not empty. -/
theorem resolve_under (hplace : r.workspaceBase = .subdomain hostname) (hhostname : IsHostname hostname)
    (hbase : Url.parse ("https://" ++ hostname) = .ok base) (hdomain : base.host? = some (.name domain))
    (hname : IsLabel name) (h : r.resolve endpoint (.workspace name) = .ok url) :
    ∃ front parts, url.IsAt (front ++ '.' :: domain) ∧ Host.IsDomain (front ++ '.' :: domain) ∧
      url.path = .segments parts ∧ parts ≠ [] := by
  obtain ⟨-, hends⟩ := resolve_ends h
  unfold resolve at h
  obtain ⟨path, -, h⟩ := bind_eq_ok.1 h
  obtain ⟨start, hstart, h⟩ := bind_eq_ok.1 h
  cases h
  obtain ⟨front, _, hat, hwritten, hpath⟩ := baseUrl_under hplace hhostname hbase hdomain hname hstart
  obtain ⟨hjoined, parts, hparts⟩ := isAt_join hat hpath path
  obtain ⟨above, rfl⟩ := hends parts hparts
  exact ⟨front, _, hjoined, hwritten, hparts, by simp⟩

end Resolver

namespace UrlPath

variable {special file : Bool} {parts : List (List Char)}

theorem push_ne_nil (h : parts ≠ []) (segment : List Char) : push special file parts segment ≠ [] := by
  have hfollow : ∀ front escaped, follow file true front escaped ≠ [] := by
    intro front escaped
    rw [follow, if_pos rfl, if_pos rfl]
    split_ifs <;> simp
  rw [push]
  split_ifs with hdots
  · exact h
  all_goals
    unfold dropEmptyFront
    split
    · split
      · simp
      · rename_i hkept
        exact hkept
    · exact hfollow _ _

theorem foldl_push_ne_nil (h : parts ≠ []) (segments : List (List Char)) :
    segments.foldl (push special file) parts ≠ [] := by
  induction segments generalizing parts with
  | nil => exact h
  | cons segment segments ih => exact ih (push_ne_nil h segment)

theorem dropEmptyEnd_ne_nil (h : parts ≠ []) : dropEmptyEnd parts ≠ [] := by
  unfold dropEmptyEnd
  split_ifs with hlong
  · intro hnil
    have hlength := congrArg List.length hnil
    rw [List.length_dropLast, List.length_nil] at hlength
    omega
  · exact h

end UrlPath

namespace Resolver

variable {r : Resolver} {endpoint : Endpoint} {hostname name : String} {base url : Url} {domain : List Char}

/-- What the resolver finds for an endpoint and a scope, with further texts or without. -/
def Finds (r : Resolver) (endpoint : Endpoint) (scope : Scope) (found : Except Error Url) : Prop :=
  found = r.resolve endpoint scope ∨ ∃ texts, found = r.resolveWith endpoint scope texts

/-- Further texts change nothing of where a URL of a workspace lies. -/
theorem finds_under (hplace : r.workspaceBase = .subdomain hostname) (hhostname : IsHostname hostname)
    (hbase : Url.parse ("https://" ++ hostname) = .ok base) (hdomain : base.host? = some (.name domain))
    (hname : IsLabel name) (h : r.Finds endpoint (.workspace name) (.ok url)) :
    ∃ front parts, url.IsAt (front ++ '.' :: domain) ∧ Host.IsDomain (front ++ '.' :: domain) ∧
      url.path = .segments parts ∧ parts ≠ [] := by
  rcases h with h | ⟨texts, h⟩
  · exact resolve_under hplace hhostname hbase hdomain hname h.symm
  · obtain ⟨start, parts, hstart, hpath, rfl⟩ := resolveWith_eq_ok h.symm
    obtain ⟨front, parts', hat, hwritten, hpath', hne⟩ := resolve_under hplace hhostname hbase hdomain hname hstart
    obtain rfl : parts = parts' := UrlPath.segments.inj (hpath.symm.trans hpath')
    exact ⟨front, _, hat, hwritten, rfl, UrlPath.foldl_push_ne_nil (UrlPath.dropEmptyEnd_ne_nil hne) _⟩

end Resolver

/-! ## Requests -/

namespace Client

variable {α : Type} {c : Client} {endpoint : Endpoint} {hostname name : String} {base : Url} {domain : List Char}
  {found : Except Error Url}

/-- Where workspaces have hosts of their own under a hostname that is read as a domain, and the name of one
parts no URL, the requests of an exchange with it are encrypted, go to a host under that domain and name no
user in their URL, but for one that asks for a token. Without a URL to send them to, the exchange fails at
once and asks for no token either. -/
theorem stays_under (hplace : c.resolver.workspaceBase = .subdomain hostname)
    (hhostname : Resolver.IsHostname hostname) (hbase : Url.parse ("https://" ++ hostname) = .ok base)
    (hdomain : base.host? = some (.name domain)) (hname : Resolver.IsLabel name)
    (hfound : c.resolver.Finds endpoint (.workspace name) found) (read : Json → Option α) (method : Http.Method)
    (body : Option Json) (terms : List Query.Term) :
    (∀ sent, Transport.Prepares found terms sent → sent.LiesUnder domain) ∧
    ∀ es r, (c.exchange read method (.workspace name) found body terms).Does es r →
      (∀ request answer, (⟨.send request, answer⟩ : Event) ∈ es → ¬c.credentials.AsksToken request →
        Transport.Prepares found terms request.url) ∧
      ((∀ sent, ¬Transport.Prepares found terms sent) → es = [] ∧ ∃ e, r = some (.error (.error e))) := by
  have hunder : ∀ sent, Transport.Prepares found terms sent → sent.LiesUnder domain := by
    rintro sent ⟨url, rfl, hsent⟩
    obtain ⟨front, parts, hat, hwritten, hpath, hparts⟩ :=
      Resolver.finds_under hplace hhostname hbase hdomain hname hfound
    exact ⟨front, Transport.prepareUrl_domain hat hwritten (by simp) hpath hparts hsent⟩
  refine ⟨hunder, fun es r hdoes => ?_⟩
  refine ⟨fun request answer hev hno => ?_, exchange_unprepared hdoes⟩
  obtain ⟨sent, hsent, hurl, -⟩ := exchange_sends_prepared hdoes hev hno
  obtain ⟨front, hat⟩ := hunder sent hsent
  rw [Transport.takeUser_of_isAt hat] at hurl
  rwa [hurl]

/-! ## Names of workspaces under `h.test` -/

/-- A client with a password whose workspaces have hosts under `h.test`. -/
def hosted : Client := ⟨⟨"a", plainUrl, .subdomain "h.test"⟩, .basic "u" ⟨"p"⟩⟩

/-- A URL of the encrypted web. -/
def hostedUrl (host : String) (path : List String) : Url :=
  ⟨Url.secure, some ⟨[], [], .name host.toList, none⟩, false, .segments (path.map (·.toList)), none, none⟩

/-- Where the users of a workspace are. -/
def hostedUsers : List String := ["api", "2.0", "preview", "scim", "v2", "Users"]

/-- The client asks for the users of a workspace. -/
def hostedExchange (name : String) : Call (Unit × Http.RateLimit) :=
  hosted.exchange Transport.ignore .get (.workspace name) (hosted.resolver.resolve .users (.workspace name)) none []

/-- The request for these users, if they are found at that URL. -/
def hostedRequest (url : Url) : Http.Request := Transport.requestAt url (some (.basic "u" "p")) .get none

theorem hosted_does {name : String} {url : Url}
    (hurl : (hosted.resolver.resolve .users (.workspace name)).toOption = some url)
    (hprepared : (Transport.prepareUrl url Query.empty).toOption = some url)
    (hdestination : Transport.isDestination (Transport.takeUser url).1 = true)
    (hheaders : (Transport.takeUser url).2 = none) :
    (hostedExchange name).Does [⟨.send (hostedRequest url), some (Transport.replyOf "")⟩, ⟨.now, ⟨0⟩⟩]
      (some (.ok ((), ⟨.unknown, none, none, none⟩))) := by
  have hsendable : Transport.Sendable hosted.credentials (.workspace name) url url (some (.basic "u" "p")) := by
    refine ⟨rfl, ok_of_toOption hprepared, hdestination, ?_⟩
    rw [hheaders]
    decide
  exact exchange_does_read (ok_of_toOption hurl) hsendable rfl ⟨0⟩

/-- The users of the workspace `w` are asked for at a host under `h.test`. -/
theorem stays_under_of_plain_name : ∃ es r request answer, (hostedExchange "w").Does es r ∧
    (⟨.send request, answer⟩ : Event) ∈ es ∧ request.url.LiesUnder "h.test".toList := by
  have hdoes := @hosted_does "w" (hostedUrl "w.h.test" hostedUsers) (by decide +kernel) (by decide +kernel)
    (by decide +kernel) (by decide +kernel)
  have hbase : Url.parse ("https://" ++ "h.test") = .ok (hostedUrl "h.test" [""]) :=
    ok_of_toOption (by decide +kernel)
  have hno : ∀ request, ¬hosted.credentials.AsksToken request := by
    rintro request ⟨issuer, hissued, -⟩
    cases hissued
  have hplace : hosted.resolver.workspaceBase = .subdomain "h.test" := rfl
  have hname : Resolver.IsLabel "w" := by decide +kernel
  obtain ⟨hunder, hsends⟩ := stays_under hplace (by decide +kernel) hbase rfl hname (.inl rfl) Transport.ignore .get none []
  exact ⟨_, _, _, _, hdoes, List.mem_cons_self,
    hunder _ ((hsends _ _ hdoes).1 _ _ List.mem_cons_self (hno _))⟩

/-- The users of the workspace `evil.test/` are asked for at the host `evil.test`, with the password. -/
theorem name_moves_host :
    (Url.parse ("https://" ++ "h.test")).toOption.bind Url.host? = some (.name "h.test".toList) ∧
    ∃ es r request answer, (hostedExchange "evil.test/").Does es r ∧ (⟨.send request, answer⟩ : Event) ∈ es ∧
      request.credentials = [.basic "u" "p"] ∧ request.url.host? = some (.name "evil.test".toList) ∧
      ¬request.url.LiesUnder "h.test".toList := by
  have hurl : (hosted.resolver.resolve .users (.workspace "evil.test/")).toOption =
      some (hostedUrl "evil.test" (".h.test" :: hostedUsers)) := by decide +kernel
  have hdoes := hosted_does hurl (by decide +kernel) (by decide +kernel) (by decide +kernel)
  have hhost : (hostedRequest (hostedUrl "evil.test" (".h.test" :: hostedUsers))).url.host? =
      some (.name "evil.test".toList) := by decide +kernel
  refine ⟨by decide +kernel, _, _, _, _, hdoes, List.mem_cons_self, by decide +kernel, hhost, ?_⟩
  rintro ⟨front, hat⟩
  have hfront := Host.name.inj (Option.some.inj ((hat.host? (by simp)).symm.trans hhost))
  have hsuffix : '.' :: "h.test".toList <:+ "evil.test".toList := ⟨front, hfront⟩
  revert hsuffix
  decide

end Client

end AccessSync
