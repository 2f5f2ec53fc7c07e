import AccessSync.Proofs.Transport.Exchange
import AccessSync.Proofs.Url.Segment
/-!
# What the URL of a request names

The URL of an endpoint is continued by the texts of a call, each escaped as one segment, and then it is
unescaped and read anew. A URL that `Serves` a path without them is read on from the end of that path
(`Serves.read_on`). So the last text is named by one segment exactly if it is one of which nothing is lost
(`Resolver.names_iff`): a text that parts a URL, or that is an escape itself, names something else.
-/

namespace AccessSync

/-! ## URLs of an API -/

theorem Endpoint.plain_name (e : Endpoint) : Url.IsPlain e.name.toList := by
  cases e <;> decide

/-- The path of an endpoint ends in its name. -/
theorem Endpoint.path?_ends {e : Endpoint} {level : Scope.Level} {accountId path : String}
    (h : e.path? level accountId = some path) : ∃ front, path.toList = front ++ '/' :: e.name.toList := by
  obtain ⟨parts, hroute, rfl⟩ := Option.map_eq_some_iff.1 h
  obtain ⟨before, last, rfl, front, hlast⟩ : ∃ before last, parts = before ++ [.fixed last] ∧
      ('/' :: e.name.toList) <:+ last.toList := by
    cases e <;> cases level <;> cases hroute <;>
      first
        | exact ⟨[_, _], _, rfl, by decide⟩
        | exact ⟨[], _, rfl, by decide⟩
  refine ⟨(String.join (before.map (Part.fill accountId))).toList ++ front, ?_⟩
  simp [Part.fill, ← hlast]

/-- A step up takes the last segment away at most. -/
theorem UrlPath.above_append (front : List (List Char)) {segments : List (List Char)} (h : segments ≠ []) :
    ∃ fewer, fewer ⊆ segments ∧ UrlPath.above (front ++ segments) = front ++ fewer := by
  rw [UrlPath.above]
  split_ifs
  · exact ⟨segments, List.Subset.refl segments, rfl⟩
  · exact ⟨segments.dropLast, (List.dropLast_sublist _).subset, List.dropLast_append_of_ne_nil h⟩

/-- The URL with another path. -/
def Url.withSegments (url : Url) (parts : List (List Char)) : Url := { url with path := .segments parts }

namespace Resolver

variable {r : Resolver} {endpoint : Endpoint} {scope : Scope} {url : Url}

/-- The URL of an endpoint has no query, and its path ends in the endpoint's name. -/
theorem resolve_ends (h : r.resolve endpoint scope = .ok url) :
    url.query = none ∧
      ∀ parts, url.path = .segments parts → ∃ above, parts = above ++ [endpoint.name.toList] := by
  unfold resolve at h
  obtain ⟨path, hpath, h⟩ := bind_eq_ok.1 h
  obtain ⟨base, -, h⟩ := bind_eq_ok.1 h
  cases h
  refine ⟨rfl, fun parts hparts => ?_⟩
  obtain ⟨front, hfront⟩ : ∃ front, path.toList = front ++ '/' :: endpoint.name.toList := by
    unfold Resolver.path at hpath
    split at hpath
    · cases hpath
      exact Endpoint.path?_ends ‹_›
    · cases hpath
  rw [join, hfront] at hparts
  dsimp only at hparts
  unfold Url.setPath at hparts
  split at hparts
  · cases hparts
  · rw [← List.append_assoc, List.filter_append, List.filter_cons_of_pos (by decide),
      endpoint.plain_name.filter] at hparts
    obtain ⟨above, habove⟩ := Url.ofText_append base.isSpecial (decide (base.scheme = Url.fileScheme))
      ((Text.dropEndWhile (· = '/') base.path.text ++ front).filter (!UrlPath.isIgnored ·)) endpoint.plain_name
    exact ⟨above, (UrlPath.segments.inj hparts).symm.trans habove⟩

/-- Further texts are pushed onto the path one by one, empty ones left out. -/
theorem resolveWith_eq_ok {texts : List String} {found : Url} (h : r.resolveWith endpoint scope texts = .ok found) :
    ∃ url parts, r.resolve endpoint scope = .ok url ∧ url.path = .segments parts ∧
      found = url.withSegments (((texts.filter (· ≠ "")).map String.toList).foldl
        (UrlPath.push url.isSpecial (url.scheme = Url.fileScheme)) (UrlPath.dropEmptyEnd parts)) := by
  unfold resolveWith at h
  obtain ⟨url, hurl, h⟩ := bind_eq_ok.1 h
  unfold append at h
  split at h
  · cases h
  · rename_i parts hparts
    cases h
    exact ⟨url, parts, hurl, hparts, by rw [List.foldl_map, Url.withSegments]⟩

end Resolver

namespace Transport

/-- Without parameters a URL is unescaped and read anew. -/
theorem prepareUrl_empty_iff {url prepared : Url} :
    prepareUrl url Query.empty = .ok prepared ↔
      ∃ cs, Percent.StandsFor url.chars cs ∧ Url.ofChars cs = .ok prepared := by
  simp only [Percent.standsFor_iff]
  constructor
  · intro h
    obtain ⟨cs, read, hcs, hread, rfl⟩ := prepareUrl_iff.1 h
    exact ⟨cs, hcs, hread⟩
  · rintro ⟨cs, hcs, hread⟩
    exact prepareUrl_iff.2 ⟨cs, prepared, hcs, hread, rfl⟩

end Transport

/-- Requests for the URL, without its fragment, go to that path and have no query. -/
structure Url.Serves (url : Url) (parts : List (List Char)) : Prop where
  read : ∃ base, Transport.prepareUrl { url with fragment := none } Query.empty = .ok base ∧
    base.path = .segments parts ∧ base.query = none ∧ base.fragment = none
  ends : parts.getLast? ≠ some []

/-- The URL is that of what stands under the id directly behind that path, and has no query. -/
def Url.Names (url : Url) (path : List (List Char)) (id : List Char) : Prop :=
  url.query = none ∧ ∃ segment, Percent.StandsFor segment id ∧ url.path = .segments (path ++ [segment])

namespace Url

variable {url prepared : Url} {above served : List (List Char)} {name : List Char}

/-- A URL that is read anew as one of the web is none of a file. -/
theorem not_file_of_read (hread : Transport.prepareUrl url Query.empty = .ok prepared) (hweb : prepared.isWeb = true) :
    url.scheme ≠ fileScheme := by
  intro hfile
  obtain ⟨cs, hcs, hread⟩ := Transport.prepareUrl_empty_iff.1 hread
  rw [chars, hfile] at hcs
  obtain ⟨scheme, rest, hscheme, -, rfl⟩ := hcs.cut (by decide)
  have hplain : Percent.StandsFor fileScheme fileScheme := Percent.unescape_encode (by decide)
  obtain rfl := hscheme.unique hplain
  obtain ⟨rest', hcut⟩ := ofChars_scheme hread
  have hfirst : Text.cut? ':' (fileScheme ++ ':' :: ending rest) = some (fileScheme, ending rest) :=
    Text.cut?_eq_some_iff.2 ⟨rfl, by decide⟩
  have hkept : cutScheme? (kept (fileScheme ++ ':' :: rest)) = some (fileScheme, ending rest) := by
    rw [kept_append (by decide)]
    change cutScheme? (fileScheme ++ ':' :: ending rest) = _
    rw [cutScheme?, hfirst]
    rfl
  rw [hkept] at hcut
  exact (special_of_web hweb).2 (Prod.mk.inj (Option.some.inj hcut)).1.symm

theorem standsFor_through {text front : List Char} (h : Percent.StandsFor text front)
    {segments : List (List Char)} (hplain : ∀ segment ∈ segments, IsPlain segment) :
    Percent.StandsFor (text ++ segments.flatMap ('/' :: ·)) (front ++ segments.flatMap ('/' :: ·)) := by
  induction segments generalizing text front with
  | nil => simpa using h
  | cons segment segments ih =>
    have hsegment := h.parts (c := '/') (by decide) (hplain segment List.mem_cons_self).standsFor
    have hrest := ih hsegment fun s hs => hplain s (List.mem_cons_of_mem segment hs)
    simpa using hrest

/-- Up to the fragment a text counts as it does by itself. -/
theorem counted_of_standsFor {fragment : Option (List Char)} {last text tail : List Char}
    (hlast : Percent.StandsFor last text) (htail : Percent.StandsFor (last ++ fragmentText fragment) tail) :
    (cutAt '#' (ending tail)).1 = (cutAt '#' (counted fragment text)).1 := by
  cases fragment with
  | none =>
    rw [fragmentText, List.append_nil] at htail
    rw [htail.unique hlast]
    rfl
  | some fragment =>
    obtain ⟨text', fragment', htext, -, rfl⟩ := htail.cut (c := '#') (by decide)
    rw [htext.unique hlast, ending_append (by decide)]
    rcases cutAt_cases '#' (text.filter (!UrlPath.isIgnored ·)) with ⟨hno, hcut⟩ | ⟨xs, ys, hparts, hno, hcut⟩
    · rw [cutAt_parts hno, counted, hcut]
    · rw [counted, hcut, hparts, List.append_assoc, List.cons_append, cutAt_parts hno]

/-- A URL that serves a path is read on from there, behind any plain segments and with anything at its end. -/
theorem Serves.read_on (hserves : url.Serves served) (hquery : url.query = none)
    (hpath : url.path = .segments (above ++ [name])) (hname : IsPlain name) {segments : List (List Char)}
    (hsegments : ∀ segment ∈ segments, IsPlain segment) {last text : List Char} (hlast : Percent.StandsFor last text)
    (hread : Transport.prepareUrl (url.withSegments (above ++ segments ++ [last])) Query.empty = .ok prepared)
    (hweb : prepared.isWeb = true) :
    ∃ front, served = front ++ [name] ∧
      prepared.path = .segments (UrlPath.followAll false (front ++ segments)
        (UrlPath.pieces (place (counted url.fragment text)))) ∧
      (prepared.query = none ↔ '?' ∉ (cutAt '#' (counted url.fragment text)).1) := by
  obtain ⟨opening, hchars⟩ := chars_behind hquery above
  obtain ⟨⟨base, hbase, hserved, hbasequery, hbasefragment⟩, hends⟩ := hserves
  obtain ⟨cs, hcs, hparsed⟩ := Transport.prepareUrl_empty_iff.1 hbase
  obtain ⟨ts, hts, hread⟩ := Transport.prepareUrl_empty_iff.1 hread
  have hcs' := hchars [name] none
  have hts' := hchars (segments ++ [last]) url.fragment
  rw [← hpath] at hcs'
  rw [withSegments, List.append_assoc, hts', List.flatMap_append, List.append_assoc, ← List.append_assoc] at hts
  rw [hcs'] at hcs
  simp only [List.flatMap_cons, List.flatMap_nil, List.append_nil, List.cons_append, fragmentText] at hcs hts
  obtain ⟨front, name', hfront, hname', rfl⟩ := hcs.cut (c := '/') (by decide)
  obtain rfl := hname'.unique hname.standsFor
  obtain ⟨through, tail, hthrough, htail, rfl⟩ := hts.cut (c := '/') (by decide)
  obtain rfl := hthrough.unique (standsFor_through hfront hsegments)
  have hweb' : base.isWeb = true := by
    obtain ⟨more, hmore⟩ : ∃ more, front ++ segments.flatMap ('/' :: ·) ++ '/' :: tail = front ++ '/' :: more := by
      cases segments with
      | nil => exact ⟨tail, by simp⟩
      | cons segment segments => exact ⟨segment ++ segments.flatMap ('/' :: ·) ++ '/' :: tail, by simp⟩
    rw [hmore] at hread
    rw [isWeb, ← scheme_append hread hparsed]
    exact hweb
  obtain ⟨reached, hreached, hleads⟩ := leads_of_read hname hparsed hweb' hserved hends hbasequery hbasefragment
  obtain ⟨hpath, hquery⟩ := hleads.through hsegments _ _ hread hweb
  have hcounted := counted_of_standsFor hlast htail
  rw [further, place, hcounted] at hpath
  rw [hcounted] at hquery
  exact ⟨reached, hreached, hpath, hquery⟩

theorem IsPlain.counted {cs : List Char} (h : IsPlain cs) (fragment : Option (List Char)) : counted fragment cs = cs := by
  cases fragment with
  | none => exact h.ending
  | some => exact h.filter

/-- Behind plain segments alone, the URL is read anew as the path with those. -/
theorem Serves.read_through (hserves : url.Serves served) (hquery : url.query = none)
    (hpath : url.path = .segments (above ++ [name])) (hname : IsPlain name) {segments : List (List Char)}
    (hsegments : ∀ segment ∈ segments, IsPlain segment)
    (hread : Transport.prepareUrl (url.withSegments (above ++ name :: segments)) Query.empty = .ok prepared)
    (hweb : prepared.isWeb = true) : prepared.path = .segments (served ++ segments) := by
  obtain ⟨before, last, hparts⟩ := (List.eq_nil_or_concat (name :: segments)).resolve_left (List.cons_ne_nil _ _)
  rw [List.concat_eq_append] at hparts
  have hplain : ∀ segment ∈ before ++ [last], IsPlain segment := by
    rw [← hparts]
    exact List.forall_mem_cons.2 ⟨hname, hsegments⟩
  have hlast := hplain last (by simp)
  rw [hparts, ← List.append_assoc] at hread
  obtain ⟨front, rfl, hprepared, -⟩ := hserves.read_on hquery hpath hname
    (fun s hs => hplain s (List.mem_append_left _ hs)) hlast.standsFor hread hweb
  rw [hlast.counted, hlast.place, hlast.pieces, UrlPath.followAll, hlast.follow] at hprepared
  rw [hprepared, List.append_assoc, ← hparts, List.append_assoc, List.singleton_append]

/-- Where a slash stands at the end, the last segment is empty. -/
theorem Serves.read_empty (hserves : url.Serves served) (hquery : url.query = none)
    (hpath : url.path = .segments (above ++ [name])) (hname : IsPlain name) {segments : List (List Char)}
    (hsegments : ∀ segment ∈ segments, IsPlain segment)
    (hread : Transport.prepareUrl (url.withSegments (above ++ segments ++ [[]])) Query.empty = .ok prepared)
    (hweb : prepared.isWeb = true) : ∃ front, prepared.path = .segments (front ++ [[]]) := by
  obtain ⟨front, -, hprepared, -⟩ := hserves.read_on hquery hpath hname hsegments
    (show Percent.StandsFor [] [] from rfl) hread hweb
  refine ⟨front ++ segments, ?_⟩
  rw [hprepared]
  cases url.fragment <;> rfl

/-- A path without any further segment is too short to name something. -/
theorem not_names_of_short {path : List (List Char)} {id : List Char} (h : url.path = .segments path) :
    ¬url.Names path id := by
  rintro ⟨-, segment, -, hlong⟩
  have hlength := congrArg List.length (UrlPath.segments.inj (h.symm.trans hlong))
  simp at hlength

/-- An empty segment names nothing but the empty text. -/
theorem not_names_of_empty {path front : List (List Char)} {id : List Char} (h : url.path = .segments (front ++ [[]]))
    (hid : id ≠ []) : ¬url.Names path id := by
  rintro ⟨-, segment, hstands, hpath⟩
  obtain ⟨-, hsegment⟩ := List.append_inj' (UrlPath.segments.inj (hpath.symm.trans h)) rfl
  obtain rfl : segment = [] := by simpa using hsegment
  exact hid (hstands.unique (show Percent.StandsFor [] [] from rfl))

end Url

namespace Resolver

variable {r : Resolver} {endpoint : Endpoint} {scope : Scope} {url found prepared : Url}
  {served : List (List Char)}

/-- Plain texts are segments behind the endpoint, and one text more is pushed onto the path there unless it
is empty. -/
theorem resolveWith_path (hurl : r.resolve endpoint scope = .ok url) (hfile : url.scheme ≠ Url.fileScheme)
    {within : List String} (hwithin : ∀ text ∈ within, Url.IsPlain text.toList) {id : String}
    (hfound : r.resolveWith endpoint scope (within ++ [id]) = .ok found) :
    ∃ above, url.path = .segments (above ++ [endpoint.name.toList]) ∧
      found = url.withSegments
        (if id = "" then above ++ endpoint.name.toList :: within.map String.toList
        else UrlPath.push url.isSpecial false (above ++ endpoint.name.toList :: within.map String.toList)
          id.toList) := by
  obtain ⟨url', parts, hurl', hparts, rfl⟩ := resolveWith_eq_ok hfound
  obtain rfl : url = url' := Except.ok.inj (hurl.symm.trans hurl')
  obtain ⟨above, rfl⟩ := (resolve_ends hurl).2 parts hparts
  refine ⟨above, hparts, ?_⟩
  have hname : (above ++ [endpoint.name.toList]).getLast? ≠ some [] := by
    simp [endpoint.plain_name.1]
  have hdrop : UrlPath.dropEmptyEnd (above ++ [endpoint.name.toList]) = above ++ [endpoint.name.toList] := by
    rw [UrlPath.dropEmptyEnd, if_neg fun h => hname h.2]
  have hkept : within.filter (· ≠ "") = within := by
    refine List.filter_eq_self.2 fun text htext => ?_
    have hne : text.toList ≠ [] := (hwithin text htext).1
    simpa using hne
  have hsegments : ∀ segment ∈ within.map String.toList, Url.IsPlain segment := by
    simpa using hwithin
  rw [hdrop, List.filter_append, hkept, List.map_append, List.foldl_append, decide_eq_false hfile,
    UrlPath.foldl_push_plain hname hsegments, List.append_assoc, List.singleton_append]
  split_ifs with hid
  · simp [hid]
  · simp [hid]

/-- Where a URL that serves a path is continued by plain texts and one text more, it is read anew as one that
names this text behind the others exactly if the text is a segment of which nothing is lost. -/
theorem names_iff (hurl : r.resolve endpoint scope = .ok url) (hserves : url.Serves served) {within : List String}
    (hwithin : ∀ text ∈ within, Url.IsPlain text.toList) {id : String}
    (hfound : r.resolveWith endpoint scope (within ++ [id]) = .ok found)
    (hread : Transport.prepareUrl found Query.empty = .ok prepared) (hweb : prepared.isWeb = true) :
    prepared.Names (served ++ within.map String.toList) id.toList ↔
      Url.IsSegment id.toList ∧ (url.fragment = none → Url.EndsPlainly id.toList) := by
  have hfile : url.scheme ≠ Url.fileScheme := by
    obtain ⟨url', parts, hurl', -, rfl⟩ := resolveWith_eq_ok hfound
    obtain rfl : url = url' := Except.ok.inj (hurl.symm.trans hurl')
    have hfile := Url.not_file_of_read hread hweb
    exact hfile
  obtain ⟨hquery, -⟩ := resolve_ends hurl
  obtain ⟨above, hparts, rfl⟩ := resolveWith_path hurl hfile hwithin hfound
  have hname := endpoint.plain_name
  have hsegments : ∀ segment ∈ within.map String.toList, Url.IsPlain segment := by
    simpa using hwithin
  have hnames : ∀ segment ∈ endpoint.name.toList :: within.map String.toList, Url.IsPlain segment :=
    List.forall_mem_cons.2 ⟨hname, hsegments⟩
  by_cases hid : id = ""
  · rw [if_pos hid] at hread
    have hstays := hserves.read_through hquery hparts hname hsegments hread hweb
    refine iff_of_false (Url.not_names_of_short hstays) fun h => h.1.nonempty ?_
    rw [hid]
    rfl
  rw [if_neg hid] at hread
  have hne : id.toList ≠ [] := by simpa using hid
  have hnot : above ++ endpoint.name.toList :: within.map String.toList ≠ [[]] := by
    intro hparts
    have hmem : endpoint.name.toList ∈ [[]] := by simp [← hparts]
    exact hname.1 (List.mem_singleton.1 hmem)
  rcases UrlPath.push_cases url.isSpecial hnot id.toList with
    ⟨hwritten, hpush⟩ | ⟨hfiltered, hpush⟩ | ⟨hfiltered, hpush⟩ | ⟨escaped, hescaped, hpush⟩ <;> rw [hpush] at hread
  · -- Steps of a path leave it as it is.
    have hstays := hserves.read_through hquery hparts hname hsegments hread hweb
    exact iff_of_false (Url.not_names_of_short hstays) fun h => hwritten.elim h.1.dots.1 h.1.dots.2
  · -- What becomes such a step leaves an empty segment behind.
    obtain ⟨front, hpath⟩ := hserves.read_empty hquery hparts hname hnames hread hweb
    exact iff_of_false (Url.not_names_of_empty hpath hne) fun h => Url.not_isSegment_of_dots (.inl hfiltered) h.1
  · obtain ⟨fewer, hfewer, habove⟩ := UrlPath.above_append above (List.cons_ne_nil endpoint.name.toList _)
    rw [habove] at hread
    obtain ⟨front, hpath⟩ := hserves.read_empty hquery hparts hname (fun s hs => hnames s (hfewer hs)) hread hweb
    exact iff_of_false (Url.not_names_of_empty hpath hne) fun h => Url.not_isSegment_of_dots (.inr hfiltered) h.1
  · obtain ⟨front, rfl, hpath, hquery'⟩ := hserves.read_on hquery hparts hname hnames hescaped hread hweb
    have hiff := Url.segment_iff url.fragment (front ++ [endpoint.name.toList] ++ within.map String.toList) hne
    rw [← hiff, Url.Names, hquery', hpath, List.append_assoc front, List.singleton_append]
    simp only [UrlPath.segments.injEq]

end Resolver

end AccessSync
