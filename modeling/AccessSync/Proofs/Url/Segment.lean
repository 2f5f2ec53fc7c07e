import AccessSync.Proofs.Url.Leading
/-!
# Texts that are one segment

Not every text stays one segment where it is read as the end of a URL. `Url.IsSegment` says which do, and
`Url.segment_iff` that it says so exactly: any other text is parted, shortened or read as a step of the
path.
-/

namespace AccessSync

namespace UrlPath

variable {cs segment : List Char}

/-- A path ends in its last segment, or in an empty one if that is written with dots. -/
theorem followAll_last (parts : List (List Char)) {segments : List (List Char)} (h : segments ≠ []) :
    ∃ above segment, followAll false parts segments = above ++ [segment] ∧ (segment = [] ∨ segment ∈ segments) := by
  obtain ⟨front, last, rfl⟩ := (List.eq_nil_or_concat segments).resolve_left h
  rw [List.concat_eq_append, followAll_append _ (List.cons_ne_nil last []), followAll, follow, if_pos rfl, if_pos rfl]
  split_ifs
  · exact ⟨_, [], rfl, .inl rfl⟩
  · exact ⟨_, [], rfl, .inl rfl⟩
  · exact ⟨_, last, rfl, .inr (by simp)⟩

theorem encode_slashes (cs : List Char) : (Utf8.encode (slashes cs)).length = (Utf8.encode cs).length := by
  induction cs with
  | nil => rfl
  | cons c cs ih =>
    have hc : (Utf8.encodeChar (if c = '\\' then '/' else c)).length = (Utf8.encodeChar c).length := by
      split_ifs with hback
      · rw [hback]
        rfl
      · rfl
    rw [slashes, List.map_cons, Utf8.encode_cons, Utf8.encode_cons, List.length_append, List.length_append, hc]
    exact congrArg (_ + ·) ih

theorem slashes_eq_self (h : '\\' ∉ cs) : slashes cs = cs := by
  refine (List.map_congr_left fun c hc => if_neg ?_).trans (List.map_id cs)
  rintro rfl
  exact h hc

/-- If a segment of a path stands for a text that is no shorter than the path, it is the whole path. -/
theorem whole_of_pieces {text : List Char} (hpiece : segment ∈ pieces cs) (hstands : Percent.StandsFor segment text)
    (hsub : cs.Sublist text) :
    cs = text ∧ '/' ∉ text ∧ '\\' ∉ text ∧ Percent.holdsEscape text = false := by
  obtain ⟨piece, hmem, rfl⟩ := List.mem_map.1 hpiece
  have hslash := Text.notMem_of_mem_splitOn hmem
  have hpart := Text.sublist_of_mem_splitOn hmem
  rw [Percent.StandsFor, Percent.unescape_escape_sparing Percent.sparesEscapes_pathSet] at hstands
  have hlength := Utf8.encode_length_le hsub
  have hunescaped := Percent.unescape_length (Utf8.encode piece)
  rw [hstands] at hunescaped
  obtain rfl := Utf8.eq_of_encode_length hpart (by rw [encode_slashes]; omega)
  have hback : '\\' ∉ cs := fun hmem => hslash (List.mem_map.2 ⟨'\\', hmem, rfl⟩)
  rw [slashes_eq_self hback] at hslash hstands
  obtain rfl : cs = text := Utf8.eq_of_encode_length hsub (by rw [← hstands]; exact Percent.unescape_length _)
  refine ⟨rfl, hslash, hback, ?_⟩
  rw [← Bool.not_eq_true]
  intro hescape
  have := Percent.unescape_shortens hescape
  rw [hstands] at this
  exact Nat.lt_irrefl _ this

/-- A text without slashes and escapes that is not written with dots is one segment, which stands for it. -/
theorem pieces_of_whole (parts : List (List Char)) (hslash : '/' ∉ cs) (hback : '\\' ∉ cs) (hescape : Percent.holdsEscape cs = false)
    (hdot : cs ≠ ['.']) (hdots : cs ≠ ['.', '.']) :
    ∃ segment, followAll false parts (pieces cs) = parts ++ [segment] ∧ Percent.StandsFor segment cs := by
  have hstands : Percent.StandsFor (Percent.escape Percent.pathSet cs) cs :=
    (Percent.unescape_escape_sparing Percent.sparesEscapes_pathSet cs).trans (Percent.unescape_encode hescape)
  refine ⟨_, ?_, hstands⟩
  have hdouble : ¬isDoubleDot (Percent.escape Percent.pathSet cs) = true := fun h =>
    hdots (hstands.unique (standsFor_of_isDoubleDot h))
  have hsingle : ¬isDot (Percent.escape Percent.pathSet cs) = true := fun h =>
    hdot (hstands.unique (standsFor_of_isDot h))
  rw [pieces, slashes_eq_self hback, Text.splitOn_eq_singleton hslash, List.map_singleton, followAll, follow,
    if_neg hdouble, if_neg hsingle]
  rfl

end UrlPath

namespace Url

/-- Characters that part a URL or that count for nothing in it. -/
def isDivider (c : Char) : Bool := c ∈ ['/', '\\', '?', '#'] || UrlPath.isIgnored c

/-- A text that can be given as one segment and is read as the same one: it is not empty and not made of
dots alone, holds nothing that parts a URL, and no `%` in it has two hexadecimal digits behind it. -/
structure IsSegment (cs : List Char) : Prop where
  nonempty : cs ≠ []
  dots : cs ≠ ['.'] ∧ cs ≠ ['.', '.']
  undivided : ∀ c ∈ cs, isDivider c = false
  literal : Percent.holdsEscape cs = false

/-- No control character and no blank stands at the end. -/
def EndsPlainly (cs : List Char) : Prop := cs.getLast?.any isEdge = false

/-- What counts of a text at the end of a path, before that fragment if there is one. -/
def counted (fragment : Option (List Char)) (cs : List Char) : List Char :=
  match fragment with
  | none => ending cs
  | some _ => cs.filter (!UrlPath.isIgnored ·)

variable {cs : List Char} {fragment : Option (List Char)}

theorem counted_sublist (fragment : Option (List Char)) (cs : List Char) : (counted fragment cs).Sublist cs := by
  cases fragment with
  | none => exact List.filter_sublist.trans (Text.dropEndWhile_sublist _ _)
  | some => exact List.filter_sublist

theorem place_sublist (cs : List Char) : (place cs).Sublist cs :=
  (cutAt_sublist '?' _).trans (cutAt_sublist '#' cs)

theorem IsSegment.filter (h : IsSegment cs) : cs.filter (!UrlPath.isIgnored ·) = cs := by
  refine List.filter_eq_self.2 fun c hc => ?_
  have hdivider := h.undivided c hc
  simp only [isDivider, Bool.or_eq_false_iff] at hdivider
  simp [hdivider.2]

/-- What is written with dots, but for characters that count for nothing, is no segment. -/
theorem not_isSegment_of_dots (h : cs.filter (!UrlPath.isIgnored ·) = ['.'] ∨ cs.filter (!UrlPath.isIgnored ·) = ['.', '.']) :
    ¬IsSegment cs := by
  intro hsegment
  rw [hsegment.filter] at h
  exact h.elim hsegment.dots.1 hsegment.dots.2

/-- Of a segment everything counts. -/
theorem IsSegment.counted (h : IsSegment cs) (hends : fragment = none → EndsPlainly cs) :
    counted fragment cs = cs := by
  cases fragment with
  | none => rw [Url.counted, ending, Text.dropEndWhile_eq_self.2 (hends rfl), h.filter]
  | some => exact h.filter

/-- What makes all of a text count. -/
theorem of_counted_eq_self (h : counted fragment cs = cs) :
    (∀ c ∈ cs, UrlPath.isIgnored c = false) ∧ (fragment = none → EndsPlainly cs) := by
  have hignored : cs.filter (!UrlPath.isIgnored ·) = cs → ∀ c ∈ cs, UrlPath.isIgnored c = false := by
    intro hfilter c hc
    simpa using List.filter_eq_self.1 hfilter c hc
  cases fragment with
  | none =>
    rw [counted, ending] at h
    have hdrop : Text.dropEndWhile isEdge cs = cs := by
      refine (Text.dropEndWhile_sublist isEdge cs).eq_of_length_le ?_
      have hsub := List.filter_sublist (p := (!UrlPath.isIgnored ·)) (l := Text.dropEndWhile isEdge cs)
      rw [h] at hsub
      exact hsub.length_le
    rw [hdrop] at h
    exact ⟨hignored h, fun _ => Text.dropEndWhile_eq_self.1 hdrop⟩
  | some => exact ⟨hignored h, fun hnone => by cases hnone⟩

theorem place_eq_self (hfragment : '#' ∉ cs) (hquery : '?' ∉ cs) : place cs = cs := by
  rw [place, cutAt_of_notMem hfragment, cutAt_of_notMem hquery]

/-- A text that is read as one segment which stands for it is a segment, and nothing of it is lost. -/
theorem isSegment_of_read {parts : List (List Char)} {segment : List Char} (hne : cs ≠ [])
    (hstands : Percent.StandsFor segment cs)
    (hpath : UrlPath.followAll false parts
      (UrlPath.pieces (place (counted fragment (cs.filter (!UrlPath.isIgnored ·))))) = parts ++ [segment]) :
    IsSegment cs ∧ (fragment = none → EndsPlainly cs) := by
  have hfilter := List.filter_sublist (p := (!UrlPath.isIgnored ·)) (l := cs)
  generalize hgiven : cs.filter (!UrlPath.isIgnored ·) = given at hpath hfilter
  have hcounted := counted_sublist fragment given
  have hplace := place_sublist (counted fragment given)
  obtain ⟨above, last, hlast, hpiece⟩ :=
    UrlPath.followAll_last parts (UrlPath.pieces_ne_nil (place (counted fragment given)))
  obtain ⟨-, hsegment⟩ := List.append_inj' (hpath.symm.trans hlast) rfl
  obtain rfl : segment = last := by simpa using hsegment
  have hmem : segment ∈ UrlPath.pieces (place (counted fragment given)) := by
    refine hpiece.resolve_left ?_
    rintro rfl
    exact hne (hstands.unique (show Percent.StandsFor [] [] from rfl))
  obtain ⟨hwhole, hslash, hback, hescape⟩ :=
    UrlPath.whole_of_pieces hmem hstands ((hplace.trans hcounted).trans hfilter)
  -- Each step on the way loses nothing, for in the end nothing is lost.
  rw [hwhole] at hplace
  obtain rfl : given = cs := hfilter.eq_of_length_le (hplace.trans hcounted).length_le
  have hall : counted fragment given = given := hcounted.eq_of_length_le hplace.length_le
  obtain ⟨hignored, hends⟩ := of_counted_eq_self hall
  rw [hall] at hwhole hpath
  refine ⟨⟨hne, ⟨?_, ?_⟩, fun c hc => ?_, hescape⟩, hends⟩
  · rintro rfl
    have hdot : UrlPath.followAll false parts (UrlPath.pieces (place ['.'])) = parts ++ [[]] := rfl
    obtain rfl : [] = segment := by simpa using hdot.symm.trans hpath
    cases hstands
  · rintro rfl
    have hdots : UrlPath.followAll false parts (UrlPath.pieces (place ['.', '.'])) = UrlPath.above parts ++ [[]] := rfl
    obtain ⟨-, hempty⟩ := List.append_inj' (hdots.symm.trans hpath) rfl
    obtain rfl : [] = segment := by simpa using hempty
    cases hstands
  · have hfragment : '#' ∉ given := by
      rw [← hwhole]
      exact fun hmem => notMem_cutAt '#' given ((cutAt_sublist '?' _).subset hmem)
    have hquery : '?' ∉ given := by
      rw [← hwhole]
      exact notMem_cutAt '?' _
    have hother : ∀ d ∈ ['/', '\\', '?', '#'], c ≠ d := by
      rintro d hd rfl
      simp only [List.mem_cons, List.not_mem_nil, or_false] at hd
      rcases hd with rfl | rfl | rfl | rfl <;> contradiction
    simp [isDivider, hignored c hc, hother]

/-- A segment of which nothing is lost is read as one that stands for it, with no query behind. -/
theorem IsSegment.read (h : IsSegment cs) (hends : fragment = none → EndsPlainly cs) (parts : List (List Char)) :
    '?' ∉ (cutAt '#' (Url.counted fragment (cs.filter (!UrlPath.isIgnored ·)))).1 ∧
      ∃ segment, Percent.StandsFor segment cs ∧
        UrlPath.followAll false parts
          (UrlPath.pieces (place (Url.counted fragment (cs.filter (!UrlPath.isIgnored ·))))) = parts ++ [segment] := by
  have hdivided : ∀ c ∈ ['/', '\\', '?', '#'], c ∉ cs := by
    intro c hc hmem
    have hdivider := h.undivided c hmem
    simp [isDivider, hc] at hdivider
  obtain ⟨segment, hpath, hstands⟩ := UrlPath.pieces_of_whole parts (hdivided '/' (by decide))
    (hdivided '\\' (by decide)) h.literal h.dots.1 h.dots.2
  rw [h.filter, h.counted hends, place_eq_self (hdivided '#' (by decide)) (hdivided '?' (by decide)),
    cutAt_of_notMem (hdivided '#' (by decide))]
  exact ⟨hdivided '?' (by decide), segment, hstands, hpath⟩

/-- A text behind a slash is read as one segment that stands for it, with no query behind, exactly if it is
a segment and nothing is lost at its end. -/
theorem segment_iff (fragment : Option (List Char)) (parts : List (List Char)) (hne : cs ≠ []) :
    ('?' ∉ (cutAt '#' (counted fragment (cs.filter (!UrlPath.isIgnored ·)))).1 ∧
      ∃ segment, Percent.StandsFor segment cs ∧
        UrlPath.followAll false parts
          (UrlPath.pieces (place (counted fragment (cs.filter (!UrlPath.isIgnored ·))))) = parts ++ [segment]) ↔
    IsSegment cs ∧ (fragment = none → EndsPlainly cs) := by
  constructor
  · rintro ⟨-, segment, hstands, hpath⟩
    exact isSegment_of_read hne hstands hpath
  · rintro ⟨h, hends⟩
    exact h.read hends parts

end Url

end AccessSync
