import AccessSync.Proofs.Url.Reading
/-!
# How URLs go on

If a web URL without query and fragment ends in a plain segment, then any text that stands behind it and
a slash is read on from there (`Url.leads_of_read`), and so it is behind further plain segments
(`Url.Leads.through`). Pushed onto a path a plain segment is added as it is, and any other one as it is
escaped unless it is written with dots (`UrlPath.push_cases`).
-/

namespace AccessSync

namespace Url

/-! ## Behind a slash -/

/-- What counts of a text at the end of a URL. -/
def ending (cs : List Char) : List Char := (Text.dropEndWhile isEdge cs).filter (!UrlPath.isIgnored ·)

/-- The character counts wherever it stands. -/
def Counts (c : Char) : Prop := isEdge c = false ∧ UrlPath.isIgnored c = false

instance (c : Char) : Decidable (Counts c) := inferInstanceAs (Decidable (_ ∧ _))

theorem ending_append {c : Char} (hc : Counts c) (xs ys : List Char) :
    ending (xs ++ c :: ys) = xs.filter (!UrlPath.isIgnored ·) ++ c :: ending ys := by
  rw [ending, Text.dropEndWhile_append hc.1, List.filter_append, List.filter_cons_of_pos (by simp [hc.2])]
  rfl

theorem kept_append {c : Char} (hc : Counts c) (xs ys : List Char) :
    kept (xs ++ c :: ys) = (xs.dropWhile isEdge).filter (!UrlPath.isIgnored ·) ++ c :: ending ys := by
  rw [kept, Text.trim_append hc.1, List.filter_append, List.filter_cons_of_pos (by simp [hc.2])]
  rfl

/-- The scheme stands before the first slash. -/
theorem cutScheme?_append {front back scheme rest : List Char}
    (h : cutScheme? (front ++ '/' :: back) = some (scheme, rest)) :
    ∃ behind, rest = behind ++ '/' :: back ∧
      ∀ more, cutScheme? (front ++ '/' :: more) = some (scheme, behind ++ '/' :: more) := by
  unfold cutScheme? at h ⊢
  split at h
  · rename_i c cs rest' hcut
    split at h
    · rename_i hscheme
      cases h
      obtain ⟨htext, hcolon⟩ := Text.cut?_eq_some_iff.1 hcut
      have hslash : '/' ∉ c :: cs := by
        intro hmem
        rw [Bool.and_eq_true, List.all_eq_true] at hscheme
        rcases List.mem_cons.1 hmem with rfl | hmem
        · exact absurd hscheme.1 (by decide)
        · exact absurd (hscheme.2 _ hmem) (by decide)
      -- The colon stands before the slash too, or the slash would belong to the scheme.
      obtain ⟨behind, rfl, rfl⟩ := Text.front_of_append htext hslash (by decide)
      refine ⟨behind, rfl, fun more => ?_⟩
      have hcut' : Text.cut? ':' (c :: cs ++ ':' :: behind ++ '/' :: more) = some (c :: cs, behind ++ '/' :: more) :=
        Text.cut?_eq_some_iff.2 ⟨by simp, hcolon⟩
      rw [hcut']
      dsimp only
      rw [if_pos hscheme]
    · cases h
  · cases h

/-- What a text behind a slash adds to a path. -/
def further (cs : List Char) : List (List Char) := UrlPath.pieces (place (ending cs))

/-- A web URL that begins with this text and goes on behind a slash goes on from these segments, and has
a query only if one follows. -/
def Leads (front : List Char) (parts : List (List Char)) : Prop :=
  ∀ cs u, ofChars (front ++ '/' :: cs) = .ok u → u.isWeb = true →
    u.path = .segments (UrlPath.followAll false parts (further cs)) ∧
      (u.query = none ↔ '?' ∉ (cutAt '#' (ending cs)).1)

theorem place_append {front : List Char} (hfragment : '#' ∉ front) (hquery : '?' ∉ front) (cs : List Char) :
    place (front ++ cs) = front ++ place cs := by
  rw [place, cutAt_append hfragment, cutAt_append hquery]
  rfl

theorem further_ne_nil (cs : List Char) : further cs ≠ [] := UrlPath.pieces_ne_nil _

/-! ## Plain segments -/

/-- Letters, digits and hyphens, which mean nothing else in a URL. -/
def IsPlain (cs : List Char) : Prop := cs ≠ [] ∧ ∀ c ∈ cs, c.isAlphanum = true ∨ c = '-'

instance (cs : List Char) : Decidable (IsPlain cs) :=
  decidable_of_iff (cs ≠ [] ∧ cs.all (fun c => c.isAlphanum || c = '-') = true) (by simp [IsPlain])

theorem plain_char {c : Char} (h : c.isAlphanum = true ∨ c = '-') :
    c.toNat < 0x80 ∧ isEdge c = false ∧ UrlPath.isIgnored c = false ∧ isInside c = true ∧
      Percent.pathSet c = false ∧ c ∉ ['#', '?', ':', '.', '%', '|', '/', '\\'] := by
  have hascii : c.toNat < 0x80 := by
    rcases h with h | rfl
    · have hranges : ((decide (c.val ≥ 'A'.val ∧ c.val ≤ 'Z'.val) || c.val ≥ 'a'.val && c.val ≤ 'z'.val) ||
          c.val ≥ '0'.val && c.val ≤ '9'.val) = true := h
      simp only [Bool.or_eq_true, Bool.and_eq_true, decide_eq_true_eq, UInt32.le_iff_toNat_le, ge_iff_le] at hranges
      change c.val.toNat < 128
      have h1 : 'Z'.val.toNat = 90 := rfl
      have h2 : 'z'.val.toNat = 122 := rfl
      have h3 : '9'.val.toNat = 57 := rfl
      omega
    · decide
  refine ⟨hascii, ?_⟩
  rw [← Char.ofNat_toNat c] at h ⊢
  generalize c.toNat = n at hascii h ⊢
  revert h
  revert n
  decide

section Plain
variable {cs : List Char}

theorem IsPlain.notMem (h : IsPlain cs) {c : Char} (hc : c ∈ ['#', '?', ':', '.', '%', '|', '/', '\\']) : c ∉ cs :=
  fun hmem => (plain_char (h.2 c hmem)).2.2.2.2.2 hc

theorem IsPlain.filter (h : IsPlain cs) : cs.filter (!UrlPath.isIgnored ·) = cs :=
  List.filter_eq_self.2 fun c hc => by simp [(plain_char (h.2 c hc)).2.2.1]

theorem IsPlain.ending (h : IsPlain cs) : ending cs = cs := by
  have hlast : Text.dropEndWhile isEdge cs = cs := by
    refine Text.dropEndWhile_eq_self.2 ?_
    rw [Option.any_eq_false]
    intro c hc
    simp [(plain_char (h.2 c (List.mem_of_getLast? hc))).2.1]
  rw [Url.ending, hlast, h.filter]

theorem IsPlain.slashes (h : IsPlain cs) : UrlPath.slashes cs = cs := by
  refine (List.map_congr_left fun c hc => if_neg ?_).trans (List.map_id cs)
  rintro rfl
  exact h.notMem (by decide) hc

theorem IsPlain.escape (h : IsPlain cs) {set : Percent.EscapeSet} (hset : ∀ c ∈ cs, set c = false) :
    Percent.escape set cs = cs := by
  have hchar : ∀ c ∈ cs, Percent.escapeChar set c = [c] := fun c hc =>
    Percent.escapeChar_plain (hset c hc) (plain_char (h.2 c hc)).1
  rw [Percent.escape, List.flatMap_def, List.map_congr_left hchar, ← List.flatMap_def, List.flatMap_singleton']

theorem IsPlain.pathSet (h : IsPlain cs) : ∀ c ∈ cs, Percent.pathSet c = false :=
  fun c hc => (plain_char (h.2 c hc)).2.2.2.2.1

theorem IsPlain.splitOn (h : IsPlain cs) : Text.splitOn '/' cs = [cs] :=
  Text.splitOn_eq_singleton (h.notMem (by decide))

theorem IsPlain.pieces (h : IsPlain cs) : UrlPath.pieces cs = [cs] := by
  rw [UrlPath.pieces, h.slashes, h.splitOn, List.map_singleton, h.escape h.pathSet]

theorem IsPlain.place (h : IsPlain cs) : place cs = cs := by
  have := place_append (h.notMem (by decide)) (h.notMem (by decide)) []
  rw [List.append_nil] at this
  exact this.trans (List.append_nil cs)

theorem IsPlain.further (h : IsPlain cs) : further cs = [cs] := by
  rw [Url.further, h.ending, h.place, h.pieces]

theorem IsPlain.further_append (h : IsPlain cs) (more : List Char) :
    Url.further (cs ++ '/' :: more) = cs :: Url.further more := by
  have hplace := place_append (h.notMem (c := '#') (by decide)) (h.notMem (by decide)) ('/' :: Url.ending more)
  have hslash := place_append (show '#' ∉ ['/'] by decide) (by decide) (Url.ending more)
  rw [Url.further, ending_append (by decide), h.filter, hplace]
  rw [List.singleton_append] at hslash
  rw [hslash, List.singleton_append, UrlPath.pieces_append, h.pieces]
  rfl

theorem IsPlain.standsFor (h : IsPlain cs) : Percent.StandsFor cs cs := Percent.standsFor_self (h.notMem (by decide))

/-- A plain segment is no way up, and no letter of a drive. -/
theorem IsPlain.follow (h : IsPlain cs) (file last : Bool) (parts : List (List Char)) :
    UrlPath.follow file last parts cs = parts ++ [cs] := by
  have hdot : '.' ∉ cs := h.notMem (by decide)
  have hsingle : UrlPath.isDot cs = false := by
    rw [← Bool.not_eq_true]
    intro hform
    rw [h.standsFor.unique (UrlPath.standsFor_of_isDot hform)] at hdot
    simp at hdot
  have hdouble : UrlPath.isDoubleDot cs = false := by
    rw [← Bool.not_eq_true]
    intro hform
    rw [h.standsFor.unique (UrlPath.standsFor_of_isDoubleDot hform)] at hdot
    simp at hdot
  have hletter : UrlPath.isDriveLetter cs = false := by
    unfold UrlPath.isDriveLetter
    split
    · rename_i c d
      have hcolon : d ≠ ':' := fun hd => h.notMem (c := ':') (by decide) (by simp [hd])
      have hbar : d ≠ '|' := fun hd => h.notMem (c := '|') (by decide) (by simp [hd])
      simp [hcolon, hbar]
    · rfl
  have hdrive : UrlPath.settleDrive file parts cs = cs := by
    simp [UrlPath.settleDrive, hletter]
  rw [UrlPath.follow, hsingle, hdouble, hdrive]
  rfl

end Plain

theorem Leads.snoc {front segment : List Char} {parts : List (List Char)} (h : Leads front parts)
    (hplain : IsPlain segment) : Leads (front ++ '/' :: segment) (parts ++ [segment]) := by
  intro cs u hu hweb
  rw [List.append_assoc, List.cons_append] at hu
  obtain ⟨hpath, hquery⟩ := h _ u hu hweb
  rw [hplain.further_append] at hpath
  refine ⟨?_, ?_⟩
  · rw [hpath, UrlPath.followAll_cons _ (further_ne_nil cs), hplain.follow]
  · have hcut := cutAt_append (show '#' ∉ segment ++ ['/'] by simp [hplain.notMem]) (ending cs)
    rw [List.append_assoc, List.singleton_append] at hcut
    rw [hquery, ending_append (by decide), hplain.filter, hcut]
    simp [hplain.notMem]

/-- Where plain segments follow, the URL leads on through them. -/
theorem Leads.through {front : List Char} {above : List (List Char)} (h : Leads front above)
    {segments : List (List Char)} (hplain : ∀ segment ∈ segments, IsPlain segment) :
    Leads (front ++ segments.flatMap ('/' :: ·)) (above ++ segments) := by
  induction segments generalizing front above with
  | nil => simpa using h
  | cons segment segments ih =>
    have hnext := ih (h.snoc (hplain segment List.mem_cons_self)) fun s hs => hplain s (List.mem_cons_of_mem segment hs)
    simpa using hnext

/-- A web URL that ends in a plain segment leads there. -/
theorem Leads.read {front segment : List Char} {above : List (List Char)} (h : Leads front above)
    (hplain : IsPlain segment) {u : Url} (hu : ofChars (front ++ '/' :: segment) = .ok u) (hweb : u.isWeb = true) :
    u.path = .segments (above ++ [segment]) ∧ u.query = none := by
  obtain ⟨hpath, hquery⟩ := h _ u hu hweb
  rw [hplain.further, UrlPath.followAll, hplain.follow] at hpath
  refine ⟨hpath, hquery.2 ?_⟩
  rw [hplain.ending, cutAt_of_notMem (hplain.notMem (by decide))]
  exact hplain.notMem (by decide)

/-- The scheme of a URL does not depend on what stands behind a slash. -/
theorem scheme_append {front xs ys : List Char} {u v : Url} (hu : ofChars (front ++ '/' :: xs) = .ok u)
    (hv : ofChars (front ++ '/' :: ys) = .ok v) : u.scheme = v.scheme := by
  obtain ⟨rest, hrest⟩ := ofChars_scheme hu
  obtain ⟨rest', hrest'⟩ := ofChars_scheme hv
  rw [kept_append (by decide)] at hrest hrest'
  obtain ⟨behind, -, hbehind⟩ := cutScheme?_append hrest
  rw [hbehind] at hrest'
  exact (Prod.mk.inj (Option.some.inj hrest')).1

theorem pathText_append {front : List Char} (hfragment : '#' ∉ front) (hquery : '?' ∉ front)
    (hinside : front.dropWhile (isSlash true) ≠ []) :
    ∃ path, ∀ cs, pathText (front ++ '/' :: cs) = path ++ '/' :: place cs := by
  refine ⟨(front.dropWhile (isSlash true)).dropWhile isInside, fun cs => ?_⟩
  have hplace := place_append (show '#' ∉ front ++ ['/'] by simp [hfragment]) (by simp [hquery]) cs
  rw [List.append_assoc, List.singleton_append] at hplace
  rw [pathText, hplace, List.append_assoc, List.singleton_append, List.dropWhile_append,
    if_neg (by simpa using hinside), Text.dropWhile_append_stop (by decide)]

/-- Behind nothing but slashes a plain segment is a host, and there is no path. -/
theorem pathText_of_slashes {front segment : List Char} (hfragment : '#' ∉ front) (hquery : '?' ∉ front)
    (hslashes : front.dropWhile (isSlash true) = []) (hplain : IsPlain segment) :
    pathText (front ++ '/' :: segment) = [] := by
  have hplace := place_append hfragment hquery ('/' :: segment)
  have hsegment := place_append (show '#' ∉ ['/'] by decide) (by decide) segment
  rw [List.singleton_append, List.singleton_append, hplain.place] at hsegment
  rw [pathText, hplace, hsegment, List.dropWhile_append, hslashes, List.isEmpty_nil, if_pos rfl,
    List.dropWhile_cons_of_pos (by decide), List.dropWhile_eq_nil_iff]
  intro c hc
  exact (plain_char (hplain.2 c ((List.dropWhile_sublist _).subset hc))).2.2.2.1

/-- A web URL without query and fragment that ends in a plain segment was read up to there, and from there
it is read on. -/
theorem leads_of_read {front segment : List Char} {u : Url} {parts : List (List Char)}
    (hplain : IsPlain segment) (hu : ofChars (front ++ '/' :: segment) = .ok u) (hweb : u.isWeb = true)
    (hpath : u.path = .segments parts) (hlast : parts.getLast? ≠ some []) (hquery : u.query = none)
    (hfragment : u.fragment = none) : ∃ above, parts = above ++ [segment] ∧ Leads front above := by
  obtain ⟨rest, hscheme, hread, hq, hf⟩ := ofChars_web hu hweb
  rw [kept_append (by decide), hplain.ending] at hscheme
  obtain ⟨behind, rfl, hbehind⟩ := cutScheme?_append hscheme
  -- There is no query and no fragment up to the segment.
  have hnofragment := cutAt_snd_eq_none_iff.1 (hf.1 hfragment)
  have hnoquery := cutAt_snd_eq_none_iff.1 (hq.1 hquery)
  rw [cutAt_of_notMem hnofragment] at hnoquery
  simp only [List.mem_append, List.mem_cons, not_or] at hnofragment hnoquery
  have hinside : behind.dropWhile (isSlash true) ≠ [] := by
    intro hslashes
    rw [hread, pathText_of_slashes hnofragment.1 hnoquery.1 hslashes hplain] at hpath
    rw [← UrlPath.segments.inj hpath] at hlast
    exact hlast rfl
  obtain ⟨path, hpathText⟩ := pathText_append hnofragment.1 hnoquery.1 hinside
  obtain ⟨above, habove⟩ := UrlPath.readParts_append path
  have hleads : Leads front above := by
    intro cs v hv hvweb
    obtain ⟨rest', hscheme', hread', hq', -⟩ := ofChars_web hv hvweb
    rw [kept_append (by decide)] at hscheme'
    obtain ⟨-, rfl⟩ := Prod.mk.inj (Option.some.inj ((hbehind (ending cs)).symm.trans hscheme'))
    refine ⟨?_, ?_⟩
    · rw [hread', hpathText, habove]
      rfl
    · have hcut := cutAt_append (show '#' ∉ behind ++ ['/'] by simp [hnofragment]) (ending cs)
      rw [List.append_assoc, List.singleton_append] at hcut
      rw [hq', hcut, cutAt_snd_eq_none_iff]
      simp [hnoquery]
  refine ⟨above, ?_, hleads⟩
  have := (hleads.read hplain hu hweb).1
  rw [hpath] at this
  exact UrlPath.segments.inj this

/-! ## Addresses -/

/-- The last segment of a path that ends in a plain segment is that one. -/
theorem ofText_append (special file : Bool) (front : List Char) {segment : List Char} (h : IsPlain segment) :
    ∃ above, UrlPath.ofText special file (front ++ '/' :: segment) = above ++ [segment] := by
  have hread : ∃ above, UrlPath.readParts special file (front ++ '/' :: segment) = above ++ [segment] := by
    have hlast : ∀ before, ∃ above,
        UrlPath.followAll file [] ((before ++ [segment]).map (Percent.escape Percent.pathSet)) = above ++ [segment] := by
      intro before
      rw [List.map_append, List.map_singleton, h.escape h.pathSet]
      exact ⟨_, (UrlPath.followAll_append _ (List.cons_ne_nil segment [])).trans (h.follow file true _)⟩
    unfold UrlPath.readParts
    split_ifs with hspecial hempty
    · obtain ⟨before, hbefore⟩ := UrlPath.splitOn_dropSlash (UrlPath.slashes front)
      have hslashes : UrlPath.slashes (front ++ '/' :: segment) = UrlPath.slashes front ++ '/' :: segment :=
        (UrlPath.slashes_append front ('/' :: segment)).trans (congrArg (_ ++ '/' :: ·) h.slashes)
      rw [hslashes, hbefore, h.splitOn]
      exact hlast before
    · simp at hempty
    · obtain ⟨before, hbefore⟩ := UrlPath.splitOn_dropSlash front
      rw [hbefore, h.splitOn]
      exact hlast before
  obtain ⟨above, habove⟩ := hread
  rw [UrlPath.ofText, habove, UrlPath.dropEmptyFront]
  cases file with
  | false => exact ⟨above, rfl⟩
  | true =>
    have hkept : (above ++ [segment]).dropWhile (· = []) = above.dropWhile (· = []) ++ [segment] := by
      rw [List.dropWhile_append]
      split_ifs with hempty
      · rw [List.isEmpty_iff.1 hempty]
        simp [h.1]
      · rfl
    refine ⟨above.dropWhile (· = []), ?_⟩
    rw [if_pos rfl, hkept]
    split
    · rename_i hnil
      simp at hnil
    · rfl

/-- The fragment as it stands in the text of a URL. -/
def fragmentText : Option (List Char) → List Char
  | some fragment => '#' :: fragment
  | none => []

/-- The texts of URLs without a query that differ in the end of the path and in the fragment begin alike. -/
theorem chars_behind {u : Url} (hquery : u.query = none) (above : List (List Char)) :
    ∃ opening, ∀ more fragment, ({ u with path := .segments (above ++ more), fragment } : Url).chars =
      opening ++ (more.flatMap ('/' :: ·) ++ fragmentText fragment) := by
  obtain ⟨scheme, authority, marked, path, query, fragment'⟩ := u
  obtain rfl : query = none := hquery
  cases authority with
  | none =>
    refine ⟨scheme ++ ':' :: ((if marked then ['/', '.'] else []) ++ above.flatMap ('/' :: ·)), fun more fragment => ?_⟩
    cases fragment <;> simp [chars, UrlPath.text, fragmentText]
  | some a =>
    refine ⟨scheme ++ ':' :: '/' :: '/' :: (a.text ++ above.flatMap ('/' :: ·)), fun more fragment => ?_⟩
    cases fragment <;> simp [chars, UrlPath.text, fragmentText]

end Url

namespace UrlPath

variable {special : Bool} {parts : List (List Char)}

theorem standsFor_escapeSegment (special : Bool) (cs : List Char) :
    Percent.StandsFor (escapeSegment special cs) (cs.filter (!isIgnored ·)) := by
  rw [escapeSegment]
  cases special <;> exact Percent.unescape_escape (by decide) _

/-- One more segment is added as it is escaped, unless it is written with dots. -/
theorem push_cases (special : Bool) (hparts : parts ≠ [[]]) (segment : List Char) :
    ((segment = ['.'] ∨ segment = ['.', '.']) ∧ push special false parts segment = parts) ∨
    (segment.filter (!isIgnored ·) = ['.'] ∧ push special false parts segment = parts ++ [[]]) ∨
    (segment.filter (!isIgnored ·) = ['.', '.'] ∧ push special false parts segment = above parts ++ [[]]) ∨
    ∃ escaped, Percent.StandsFor escaped (segment.filter (!isIgnored ·)) ∧
      push special false parts segment = parts ++ [escaped] := by
  have hstands := standsFor_escapeSegment special segment
  by_cases hdots : segment = ['.'] ∨ segment = ['.', '.']
  · exact .inl ⟨hdots, if_pos hdots⟩
  right
  have hpush : push special false parts segment = follow false true parts (escapeSegment special segment) := by
    rw [push, if_neg hdots, if_neg hparts]
    rfl
  rw [hpush, follow, if_pos rfl, if_pos rfl]
  split_ifs with hdouble hsingle
  · exact .inr (.inl ⟨hstands.unique (standsFor_of_isDoubleDot hdouble), rfl⟩)
  · exact .inl ⟨hstands.unique (standsFor_of_isDot hsingle), rfl⟩
  · exact .inr (.inr ⟨_, hstands, rfl⟩)

theorem push_plain (hparts : parts ≠ [[]]) {segment : List Char} (h : Url.IsPlain segment) :
    push special false parts segment = parts ++ [segment] := by
  have hdot : ∀ more, segment ≠ '.' :: more := by
    rintro more rfl
    exact h.notMem (c := '.') (by decide) List.mem_cons_self
  have hescape : escapeSegment special segment = segment := by
    rw [escapeSegment, h.filter]
    refine h.escape fun c hc => ?_
    have hset := h.pathSet c hc
    have hother : ∀ d ∈ ['/', '%', '\\'], c ≠ d := by
      rintro d hd rfl
      exact h.notMem (by simp only [List.mem_cons, List.not_mem_nil, or_false] at hd ⊢; tauto) hc
    cases special <;> simp [Percent.specialSegmentSet, Percent.segmentSet, hset, hother]
  rw [push, if_neg (by simp [hdot]), if_neg hparts, hescape, h.follow]
  rfl

theorem foldl_push_plain (hlast : parts.getLast? ≠ some []) {segments : List (List Char)}
    (h : ∀ segment ∈ segments, Url.IsPlain segment) :
    segments.foldl (push special false) parts = parts ++ segments := by
  induction segments generalizing parts with
  | nil => simp
  | cons segment segments ih =>
    have hsegment := h segment List.mem_cons_self
    have hparts : parts ≠ [[]] := by
      rintro rfl
      exact hlast rfl
    rw [List.foldl_cons, push_plain hparts hsegment, ih, List.append_assoc, List.singleton_append]
    · simp [hsegment.1]
    · exact fun s hs => h s (List.mem_cons_of_mem segment hs)

end UrlPath

end AccessSync
