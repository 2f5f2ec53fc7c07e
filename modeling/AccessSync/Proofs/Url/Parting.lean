import AccessSync.Proofs.Text.Encoding
import AccessSync.Proofs.Text.Integer
import AccessSync.Proofs.Url.Hosting
import AccessSync.Proofs.Url.Leading
/-!
# Where the query stands in a URL

Whatever text a URL was read from, its scheme, its authority and its path hold none of the signs that a query
and a fragment stand behind (`Url.isParted_ofChars`), and a form that is put in place of its query does not
change that (`Url.IsParted.setPairs`). The query of such a URL is what stands as the query in its text
(`Url.IsParted.queryOf_chars`).
-/

namespace AccessSync

/-! ## Text without the signs -/

/-- Neither a query nor a fragment begins in the text. -/
def Url.IsPlace (cs : List Char) : Prop := ∀ c ∈ cs, c ≠ '?' ∧ c ≠ '#'

instance (cs : List Char) : Decidable (Url.IsPlace cs) := List.decidableBAll _ cs

open Url (IsPlace)

theorem Url.isPlace_nil : IsPlace [] := List.forall_mem_nil _

theorem Url.isPlace_append {xs ys : List Char} : IsPlace (xs ++ ys) ↔ IsPlace xs ∧ IsPlace ys :=
  List.forall_mem_append

theorem Url.isPlace_cons {c : Char} {cs : List Char} : IsPlace (c :: cs) ↔ (c ≠ '?' ∧ c ≠ '#') ∧ IsPlace cs :=
  List.forall_mem_cons

theorem Url.isPlace_join {sep : List Char} {pieces : List (List Char)} (hsep : IsPlace sep)
    (h : ∀ piece ∈ pieces, IsPlace piece) : IsPlace (Text.join sep pieces) := by
  intro c hc
  rcases Text.mem_join hc with hc | ⟨piece, hpiece, hc⟩
  · exact hsep c hc
  · exact h piece hpiece c hc

theorem Text.isPlace_decimal (n : Nat) : IsPlace (decimal n) := by
  intro c hc
  rw [decimal_eq] at hc
  obtain ⟨d, hd, rfl⟩ := List.mem_map.1 hc
  have hten := lt_of_mem_digits hd
  exact ⟨digit_ne hten (by decide), digit_ne hten (by decide)⟩

namespace Percent

variable {set : EscapeSet} {cs : List Char}

theorem isPlace_escape (h : ∀ c ∈ cs, set c = false → c ≠ '?' ∧ c ≠ '#') : IsPlace (escape set cs) := by
  have hdigit : ∀ n < 16, hexDigit n ≠ '?' ∧ hexDigit n ≠ '#' := by decide
  intro c hc
  rcases mem_escape hc with rfl | ⟨n, hn, rfl⟩ | ⟨hmem, hset⟩
  · decide
  · exact hdigit n hn
  · exact h c hmem hset

/-- Where both signs are escaped, any text loses them. -/
theorem isPlace_escape_of_hides (hquery : Hides set '?') (hfragment : Hides set '#') : IsPlace (escape set cs) := by
  intro c hc
  refine ⟨?_, ?_⟩
  · rintro rfl
    exact hquery.notMem cs hc
  · rintro rfl
    exact hfragment.notMem cs hc

end Percent

/-- No fragment begins in a form. -/
theorem Form.hash_notMem_encode (pairs : List (String × String)) : '#' ∉ encode pairs := by
  intro hmem
  rcases Text.mem_join hmem with hmem | ⟨piece, hpiece, hmem⟩
  · exact absurd hmem (by decide)
  · obtain ⟨pair, -, rfl⟩ := List.mem_map.1 hpiece
    exact notMem_encodePair (by decide) (by decide) pair hmem

/-! ## Authorities -/

namespace Host

variable {cs : List Char} {host : Host}

theorem isPlace_hexGroup (n : Nat) : IsPlace (hexGroup n) := by
  have hdigit : ∀ d < 16, Text.lowerAscii (Percent.hexDigit d) ≠ '?' ∧ Text.lowerAscii (Percent.hexDigit d) ≠ '#' := by
    decide
  have hsmall : ∀ d ∈ [n / 4096 % 16, n / 256 % 16, n / 16 % 16, n % 16], d < 16 := by
    simp only [List.forall_mem_cons, List.not_mem_nil, false_implies, implies_true, and_true]
    omega
  intro c hc
  obtain ⟨d, hd, rfl⟩ := List.mem_map.1 hc
  refine hdigit d ?_
  split at hd
  · rw [List.mem_singleton.1 hd]
    decide
  · exact hsmall d ((List.dropWhile_sublist _).subset hd)

theorem isPlace_groupsText (groups : List Nat) : IsPlace (groupsText groups) := by
  refine Url.isPlace_join (by decide) fun piece hpiece => ?_
  obtain ⟨n, -, rfl⟩ := List.mem_map.1 hpiece
  exact isPlace_hexGroup n

/-- Addresses never hold the signs, so it is for names to have none. -/
theorem isPlace_text (h : ∀ name, host = .name name → IsPlace name) : IsPlace host.text := by
  cases host with
  | name name => exact h name rfl
  | ipv4 n =>
    refine Url.isPlace_join (by decide) fun piece hpiece => ?_
    obtain ⟨k, -, rfl⟩ := List.mem_map.1 hpiece
    exact Text.isPlace_decimal k
  | ipv6 groups =>
    have hbracket : ∀ cs, IsPlace cs → IsPlace ('[' :: (cs ++ [']'])) := fun cs hcs =>
      Url.isPlace_cons.2 ⟨by decide, Url.isPlace_append.2 ⟨hcs, by decide⟩⟩
    unfold text
    dsimp only
    split_ifs
    · exact hbracket _ (isPlace_groupsText groups)
    · refine hbracket _ ?_
      simp only [Url.isPlace_append, isPlace_groupsText, true_and, and_true]
      decide

theorem isPlace_ofDomain (h : ofDomain cs = .ok host) : IsPlace host.text := by
  apply isPlace_text
  rintro name rfl
  intro c hc
  obtain ⟨-, -, -, hsign⟩ := Authority.written_char ((isDomain_of_name h).written c hc)
  simp only [List.mem_cons, List.not_mem_nil, or_false, not_or] at hsign
  tauto

theorem isPlace_ofPlain (h : ofPlain cs = .ok host) : IsPlace host.text := by
  apply isPlace_text
  rintro name rfl
  unfold ofPlain at h
  split at h
  · unfold ofBrackets at h
    split_ifs at h
    split at h <;> cases h
  · split_ifs at h with hforbidden
    cases h
    refine Percent.isPlace_escape fun c hc _ => ⟨?_, ?_⟩
    · rintro rfl
      exact hforbidden (List.any_eq_true.2 ⟨'?', hc, by decide⟩)
    · rintro rfl
      exact hforbidden (List.any_eq_true.2 ⟨'#', hc, by decide⟩)

end Host

namespace Authority

variable {scheme cs rest : List Char} {more : Bool} {a : Authority}

theorem isPlace_text (husername : IsPlace a.username) (hpassword : IsPlace a.password) (hhost : IsPlace a.host.text) :
    IsPlace a.text := by
  have hport : ∀ n, IsPlace (':' :: Text.decimal n) := fun n =>
    Url.isPlace_cons.2 ⟨by decide, Text.isPlace_decimal n⟩
  have hsecret : IsPlace (if a.password = [] then [] else ':' :: a.password) := by
    split_ifs
    · decide
    · exact Url.isPlace_cons.2 ⟨by decide, hpassword⟩
  unfold text
  dsimp only
  rw [Url.isPlace_append, Url.isPlace_append]
  refine ⟨⟨?_, hhost⟩, ?_⟩
  · by_cases hwho : a.username = [] ∧ a.password = []
    · rw [if_pos hwho]
      decide
    · rw [if_neg hwho]
      exact Url.isPlace_append.2 ⟨Url.isPlace_append.2 ⟨husername, hsecret⟩, by decide⟩
  · cases a.port with
    | none => decide
    | some n => exact hport n

/-- An authority has a user read from some text and a host read from another. -/
theorem parts_of_parse (h : parse scheme more cs = .ok (a, rest)) :
    ∃ user hostText, (a.username, a.password) = readUser user ∧
      (Host.ofDomain hostText = .ok a.host ∨ Host.ofPlain hostText = .ok a.host) := by
  unfold parse at h
  obtain ⟨⟨user, place⟩, -, h⟩ := bind_eq_ok.1 h
  dsimp only at h
  split at h
  · obtain ⟨_, hfault, -⟩ := bind_eq_ok.1 h
    cases hfault
  refine ⟨user, (cutHost (Url.isSpecialScheme scheme) false place).1, ?_⟩
  split_ifs at h with hspecial
  · obtain ⟨host, hhost, h⟩ := bind_eq_ok.1 h
    split at h
    · obtain ⟨_, -, h⟩ := bind_eq_ok.1 h
      cases h
      exact ⟨rfl, .inl hhost⟩
    · cases h
      exact ⟨rfl, .inl hhost⟩
  · obtain ⟨host, hhost, h⟩ := bind_eq_ok.1 h
    split at h
    · obtain ⟨_, -, h⟩ := bind_eq_ok.1 h
      cases h
      exact ⟨rfl, .inr hhost⟩
    · cases h
      exact ⟨rfl, .inr hhost⟩

theorem isPlace_parse (h : parse scheme more cs = .ok (a, rest)) : IsPlace a.text := by
  obtain ⟨user, hostText, huser, hhost⟩ := parts_of_parse h
  obtain ⟨husername, hpassword⟩ := Prod.mk.inj huser
  refine isPlace_text ?_ ?_ ?_
  · rw [husername]
    exact Percent.isPlace_escape_of_hides (by decide) (by decide)
  · rw [hpassword]
    exact Percent.isPlace_escape_of_hides (by decide) (by decide)
  · rcases hhost with hhost | hhost
    · exact Host.isPlace_ofDomain hhost
    · exact Host.isPlace_ofPlain hhost

end Authority

/-! ## Paths -/

namespace UrlPath

variable {file last : Bool} {parts segments : List (List Char)} {segment : List Char}

theorem isPlace_settleDrive (h : IsPlace segment) : IsPlace (settleDrive file parts segment) := by
  unfold settleDrive
  split
  · rename_i c _ _
    exact Url.isPlace_cons.2 ⟨h c List.mem_cons_self, by decide⟩
  · exact h

theorem above_sublist (parts : List (List Char)) : (above parts).Sublist parts := by
  unfold above
  split_ifs
  · exact .refl parts
  · exact List.dropLast_sublist parts

/-- One step of a path brings nothing in but its segment and empty ones. -/
theorem isPlace_follow (hparts : ∀ part ∈ parts, IsPlace part) (hsegment : IsPlace segment) :
    ∀ part ∈ follow file last parts segment, IsPlace part := by
  have habove : ∀ part ∈ above parts, IsPlace part := fun part hpart =>
    hparts part ((above_sublist parts).subset hpart)
  have hsnoc : ∀ {parts : List (List Char)} {segment}, (∀ part ∈ parts, IsPlace part) → IsPlace segment →
      ∀ part ∈ parts ++ [segment], IsPlace part := fun hparts hsegment =>
    List.forall_mem_append.2 ⟨hparts, List.forall_mem_singleton.2 hsegment⟩
  unfold follow
  split_ifs
  · exact hsnoc habove Url.isPlace_nil
  · exact habove
  · exact hsnoc hparts Url.isPlace_nil
  · exact hparts
  · exact hsnoc hparts (isPlace_settleDrive hsegment)

theorem isPlace_followAll (hparts : ∀ part ∈ parts, IsPlace part) (hsegments : ∀ segment ∈ segments, IsPlace segment) :
    ∀ part ∈ followAll file parts segments, IsPlace part := by
  fun_induction followAll file parts segments with
  | case1 parts => exact hparts
  | case2 parts segment => exact isPlace_follow hparts (hsegments segment List.mem_cons_self)
  | case3 parts segment next rest ih =>
    obtain ⟨hsegment, hrest⟩ := List.forall_mem_cons.1 hsegments
    exact ih (isPlace_follow hparts hsegment) hrest

theorem isPlace_readParts (special file : Bool) (cs : List Char) :
    ∀ part ∈ readParts special file cs, IsPlace part := by
  have hescaped : ∀ pieces : List (List Char), ∀ part ∈ followAll file [] (pieces.map (Percent.escape Percent.pathSet)),
      IsPlace part := by
    intro pieces
    refine isPlace_followAll (by simp) fun segment hsegment => ?_
    obtain ⟨piece, -, rfl⟩ := List.mem_map.1 hsegment
    exact Percent.isPlace_escape_of_hides (by decide) (by decide)
  unfold readParts
  split_ifs
  · exact hescaped _
  · simp
  · exact hescaped _

theorem isPlace_dropEmptyFront (h : ∀ part ∈ parts, IsPlace part) :
    ∀ part ∈ dropEmptyFront file parts, IsPlace part := by
  unfold dropEmptyFront
  split_ifs
  · split
    · decide
    · exact fun part hpart => h part ((List.dropWhile_sublist _).subset hpart)
  · exact h

theorem isPlace_ofText (special file : Bool) (cs : List Char) :
    IsPlace (UrlPath.segments (ofText special file cs)).text := by
  have hparts : ∀ part ∈ ofText special file cs, IsPlace part :=
    isPlace_dropEmptyFront (isPlace_readParts special file cs)
  intro c hc
  obtain ⟨part, hpart, hc⟩ := List.mem_flatMap.1 hc
  exact Url.isPlace_cons.2 ⟨by decide, hparts part hpart⟩ c hc

end UrlPath

/-! ## URLs -/

namespace Url

variable {cs scheme rest : List Char} {u : Url}

theorem isPlace_cutScheme? (h : cutScheme? cs = some (scheme, rest)) : IsPlace scheme := by
  have hsign : ∀ c, isSchemeChar c = true → Text.lowerAscii c ≠ '?' ∧ Text.lowerAscii c ≠ '#' := by
    intro c hc
    refine ⟨fun hlower => ?_, fun hlower => ?_⟩
    · rw [UrlPath.eq_of_lowerAscii (by decide) hlower] at hc
      exact absurd hc (by decide)
    · rw [UrlPath.eq_of_lowerAscii (by decide) hlower] at hc
      exact absurd hc (by decide)
  unfold cutScheme? at h
  split at h
  · rename_i first more behind _
    split_ifs at h with hscheme
    cases h
    rw [Bool.and_eq_true, List.all_eq_true] at hscheme
    have hfirst : isSchemeChar first = true := by
      have hletter : isSchemeChar first =
          (isLetter first || ('0' ≤ first && first ≤ '9') || first ∈ ['+', '-', '.']) := by
        simp [isSchemeChar, isLetter, Bool.or_assoc]
      rw [hletter, hscheme.1, Bool.true_or, Bool.true_or]
    intro c hc
    obtain ⟨d, hd, rfl⟩ := List.mem_map.1 hc
    rcases List.mem_cons.1 hd with rfl | hd
    · exact hsign _ hfirst
    · exact hsign d (hscheme.2 d hd)
  · cases h

theorem isPlace_readFile {a : Authority} {path : UrlPath} (h : readFile cs = .ok (a, path)) :
    IsPlace a.text ∧ IsPlace path.text := by
  have hhere : IsPlace here.text := by decide
  unfold readFile at h
  split at h
  · dsimp only at h
    split at h
    · cases h
      exact ⟨hhere, UrlPath.isPlace_ofText _ _ _⟩
    obtain ⟨host, hhost, h⟩ := bind_eq_ok.1 h
    have hthere : IsPlace ({ here with host } : Authority).text :=
      Authority.isPlace_text isPlace_nil isPlace_nil (Host.isPlace_ofDomain hhost)
    split at h
    · cases h
      exact ⟨hhere, UrlPath.isPlace_ofText _ _ _⟩
    · cases h
      refine ⟨?_, UrlPath.isPlace_ofText _ _ _⟩
      split
      · exact hhere
      · exact hthere
  · cases h
    exact ⟨hhere, UrlPath.isPlace_ofText _ _ _⟩

/-- What is read behind a scheme has the signs only if the text has them. -/
theorem isPlace_readPlace {more : Bool} {authority : Option Authority} {path : UrlPath}
    (h : readPlace scheme more cs = .ok (authority, path)) (hcs : IsPlace cs) :
    (∀ a ∈ authority, IsPlace a.text) ∧ IsPlace path.text := by
  unfold readPlace at h
  split_ifs at h with hfile hspecial
  · cases hread : readFile cs with
    | error fault =>
      rw [hread] at h
      cases h
    | ok found =>
      rw [hread] at h
      cases h
      simpa using isPlace_readFile hread
  · obtain ⟨⟨a, behind⟩, hparse, h⟩ := bind_eq_ok.1 h
    cases h
    exact ⟨by simpa using Authority.isPlace_parse hparse, UrlPath.isPlace_ofText _ _ _⟩
  · split at h
    · obtain ⟨⟨a, behind⟩, hparse, h⟩ := bind_eq_ok.1 h
      cases h
      exact ⟨by simpa using Authority.isPlace_parse hparse, UrlPath.isPlace_ofText _ _ _⟩
    · cases h
      exact ⟨by simp, UrlPath.isPlace_ofText _ _ _⟩
    · cases h
      exact ⟨by simp, Percent.isPlace_escape fun c hc _ => hcs c hc⟩

/-- The signs of a query and a fragment stand in the text of the URL only where they part it. -/
structure IsParted (u : Url) : Prop where
  scheme : IsPlace u.scheme
  authority : ∀ a ∈ u.authority, IsPlace a.text
  path : IsPlace u.path.text
  query : ∀ query ∈ u.query, '#' ∉ query

/-- Whatever text it is read from, a URL is parted where its signs stand. -/
theorem isParted_ofChars (h : ofChars cs = .ok u) : u.IsParted := by
  unfold ofChars at h
  split at h
  · cases h
  rename_i scheme rest hscheme
  obtain ⟨⟨authority, path⟩, hread, h⟩ := bind_eq_ok.1 h
  cases h
  have hcut : IsPlace (cutAt '?' (cutAt '#' rest).1).1 := by
    intro c hc
    refine ⟨?_, ?_⟩
    · rintro rfl
      exact notMem_cutAt '?' _ hc
    · rintro rfl
      exact notMem_cutAt '#' _ ((cutAt_sublist '?' _).subset hc)
  obtain ⟨hauthority, hpath⟩ := isPlace_readPlace hread hcut
  refine ⟨isPlace_cutScheme? hscheme, hauthority, hpath, fun query hquery => ?_⟩
  obtain ⟨text, -, rfl⟩ := Option.map_eq_some_iff.1 hquery
  refine Percent.Hides.notMem ?_ text
  split_ifs <;> decide

/-- A form in place of the query has no sign of a fragment. -/
theorem IsParted.setPairs (h : u.IsParted) (pairs : List (String × String)) :
    (u.setPairs (Form.encode pairs)).IsParted := by
  refine { h with query := ?_ }
  rintro _ ⟨⟩
  exact Form.hash_notMem_encode pairs

/-- The text of the URL without its query and its fragment. -/
def front (u : Url) : List Char := ({ u with query := none, fragment := none } : Url).chars

/-- The query as it stands in the text of a URL. -/
def queryText : Option (List Char) → List Char
  | some query => '?' :: query
  | none => []

theorem chars_eq (u : Url) : u.chars = u.front ++ queryText u.query ++ fragmentText u.fragment := by
  obtain ⟨scheme, authority, marked, path, query, fragment⟩ := u
  cases query <;> cases fragment <;> simp [front, chars, queryText, fragmentText]

theorem IsParted.front (h : u.IsParted) : IsPlace u.front := by
  obtain ⟨scheme, authority, marked, path, query, fragment⟩ := u
  simp only [Url.front, chars, List.append_nil]
  refine isPlace_append.2 ⟨h.scheme, isPlace_cons.2 ⟨by decide, isPlace_append.2 ⟨?_, h.path⟩⟩⟩
  cases authority with
  | some a => exact isPlace_cons.2 ⟨by decide, isPlace_cons.2 ⟨by decide, h.authority a rfl⟩⟩
  | none =>
    have hmark : IsPlace ['/', '.'] := by decide
    cases marked with
    | false => exact isPlace_nil
    | true => exact hmark

/-- What stands as the query in the text of a URL. -/
def queryOf (cs : List Char) : Option (List Char) := (cutAt '?' (cutAt '#' cs).1).2

theorem cutAt_fragmentText (h : '#' ∉ cs) (fragment : Option (List Char)) :
    (cutAt '#' (cs ++ fragmentText fragment)).1 = cs := by
  cases fragment with
  | none => rw [fragmentText, List.append_nil, cutAt_of_notMem h]
  | some fragment => rw [fragmentText, cutAt_parts h]

theorem cutAt_queryText (h : '?' ∉ cs) (query : Option (List Char)) :
    (cutAt '?' (cs ++ queryText query)).2 = query := by
  cases query with
  | none => rw [queryText, List.append_nil, cutAt_of_notMem h]
  | some query => rw [queryText, cutAt_parts h]

/-- The query of a URL is what stands in its text as the query. -/
theorem IsParted.queryOf_chars (h : u.IsParted) : queryOf u.chars = u.query := by
  have hquery : '?' ∉ u.front := fun hmem => (h.front _ hmem).1 rfl
  have hfragment : '#' ∉ u.front ++ queryText u.query := by
    intro hmem
    rcases List.mem_append.1 hmem with hmem | hmem
    · exact (h.front _ hmem).2 rfl
    · cases hsome : u.query with
      | none => simp [hsome, queryText] at hmem
      | some query => exact h.query query hsome (by simpa [hsome, queryText] using hmem)
  rw [chars_eq, queryOf, cutAt_fragmentText hfragment, cutAt_queryText hquery]

end Url

end AccessSync
