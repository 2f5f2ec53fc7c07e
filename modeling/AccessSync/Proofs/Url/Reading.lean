import AccessSync.Proofs.Text.Cutting
import AccessSync.Proofs.Text.Unescaping
import AccessSync.Url.Parser
import Mathlib.Data.List.TakeWhile
/-!
# What of a text is read as a path

The query and the fragment of a URL are cut off where their signs first stand, and its authority ends at
the first slash. So the path of a web URL is read from the text between the two (`Url.ofChars_web`). It is
read piece by piece: what stands behind a slash goes on from where the segments before it have led to
(`UrlPath.readParts_append`). A segment that says to stay or to go up stands for dots, however it is
written.
-/

namespace AccessSync

/-! ## Cutting -/

variable {sep : Char} {cs xs ys : List Char}

theorem cutAt_of_notMem (h : sep ∉ cs) : cutAt sep cs = (cs, none) := by
  unfold cutAt
  split
  · rename_i before after hcut
    obtain ⟨rfl, -⟩ := Text.cut?_eq_some_iff.1 hcut
    simp at h
  · rfl

theorem cutAt_parts (h : sep ∉ xs) (ys : List Char) : cutAt sep (xs ++ sep :: ys) = (xs, some ys) := by
  rw [cutAt, Text.cut?_eq_some_iff.2 ⟨rfl, h⟩]

/-- A text is cut where it first can be. -/
theorem cutAt_cases (sep : Char) (cs : List Char) :
    (sep ∉ cs ∧ cutAt sep cs = (cs, none)) ∨
      ∃ xs ys, cs = xs ++ sep :: ys ∧ sep ∉ xs ∧ cutAt sep cs = (xs, some ys) := by
  by_cases h : sep ∈ cs
  · obtain ⟨xs, ys, rfl, hxs⟩ := List.eq_append_cons_of_mem h
    exact .inr ⟨xs, ys, rfl, hxs, cutAt_parts hxs ys⟩
  · exact .inl ⟨h, cutAt_of_notMem h⟩

theorem cutAt_snd_eq_none_iff : (cutAt sep cs).2 = none ↔ sep ∉ cs := by
  rcases cutAt_cases sep cs with ⟨hno, hcut⟩ | ⟨xs, ys, rfl, -, hcut⟩ <;> simp [*]

theorem cutAt_append (h : sep ∉ xs) (ys : List Char) :
    cutAt sep (xs ++ ys) = (xs ++ (cutAt sep ys).1, (cutAt sep ys).2) := by
  rcases cutAt_cases sep ys with ⟨hno, hcut⟩ | ⟨as, bs, rfl, has, hcut⟩
  · rw [hcut, cutAt_of_notMem (by simp [h, hno])]
  · rw [hcut, ← List.append_assoc, cutAt_parts (by simp [h, has])]

theorem cutAt_sublist (sep : Char) (cs : List Char) : (cutAt sep cs).1.Sublist cs := by
  rcases cutAt_cases sep cs with ⟨-, hcut⟩ | ⟨as, bs, rfl, -, hcut⟩ <;> simp [hcut]

theorem notMem_cutAt (sep : Char) (cs : List Char) : sep ∉ (cutAt sep cs).1 := by
  rcases cutAt_cases sep cs with ⟨hno, hcut⟩ | ⟨as, bs, rfl, has, hcut⟩ <;> simpa [hcut]

/-! ## Authorities -/

/-- No slash of a special URL. -/
def isInside (c : Char) : Bool := !isSlash true c

theorem bind_eq_ok {ε α β : Type} {x : Except ε α} {f : α → Except ε β} {b : β} :
    x >>= f = .ok b ↔ ∃ a, x = .ok a ∧ f a = .ok b := by
  cases x <;> simp [bind, Except.bind]

namespace Authority

/-- Taking something off the front that holds no slash does not change what the first slash begins. -/
theorem dropWhile_drop {cs : List Char} {k : Nat} (h : k ≤ (cs.takeWhile isInside).length) :
    (cs.drop k).dropWhile isInside = cs.dropWhile isInside := by
  induction k generalizing cs with
  | zero => rfl
  | succ k ih =>
    cases cs with
    | nil => rfl
    | cons c cs =>
      by_cases hc : isInside c = true
      · rw [List.takeWhile_cons_of_pos hc, List.length_cons] at h
        rw [List.drop_succ_cons, ih (by omega), List.dropWhile_cons_of_pos hc]
      · rw [List.takeWhile_cons_of_neg hc] at h
        simp at h

theorem cutUser_place {more : Bool} {cs user place : List Char} (h : cutUser true more cs = .ok (user, place)) :
    place.dropWhile isInside = cs.dropWhile isInside := by
  unfold cutUser at h
  -- What stands before the last `@` is no longer than the authority.
  have hlength : ∀ {who host : List Char}, cutAtLast '@' (cs.takeWhile isInside) = (some who, host) →
      who.length + 1 ≤ (cs.takeWhile isInside).length := by
    intro who host hcut
    unfold cutAtLast at hcut
    split at hcut
    · rename_i after before hparts
      cases hcut
      have := congrArg List.length (Text.cut?_eq_some_iff.1 hparts).1
      simp only [List.length_reverse, List.length_append, List.length_cons] at this ⊢
      omega
    · cases hcut
  split at h
  · cases h
    rfl
  · rename_i hcut
    have hdrop := dropWhile_drop (hlength hcut)
    split at h
    · rename_i hnil
      split_ifs at h
      cases h
      rw [← hdrop, List.length_nil, Nat.zero_add, hnil]
    · rename_i c rest hrest
      split_ifs at h
      cases h
      rw [← hdrop, List.length_nil, Nat.zero_add, hrest]
  · rename_i who host hcut
    cases h
    exact dropWhile_drop (hlength hcut)

theorem cutHost_rest {inside : Bool} {cs host rest : List Char} (h : cutHost true inside cs = (host, rest)) :
    rest.dropWhile isInside = cs.dropWhile isInside ∧
      ∀ c ∈ rest.head?, c = ':' ∨ isInside c = false := by
  induction cs generalizing inside host with
  | nil =>
    cases h
    simp
  | cons c cs ih =>
    rw [cutHost] at h
    split_ifs at h with hstop
    · cases h
      refine ⟨rfl, ?_⟩
      rintro _ ⟨⟩
      rcases hstop with ⟨rfl, -⟩ | hslash
      · exact .inl rfl
      · exact .inr (by simp [isInside, hslash])
    · have hc : isInside c = true := by
        simp only [not_or] at hstop
        simp [isInside, hstop.2]
      cases hcut : cutHost true (c = '[' || (inside && c ≠ ']')) cs with
      | mk host' rest' =>
        rw [hcut] at h
        cases h
        rw [List.dropWhile_cons_of_pos hc]
        exact ih hcut

theorem dropWhile_of_head {cs : List Char} (h : ∀ c ∈ cs.head?, isInside c = false) :
    cs.dropWhile isInside = cs := by
  cases cs with
  | nil => rfl
  | cons c cs => exact List.dropWhile_cons_of_neg (by simp [h c rfl])

theorem takeWhile_length {p q : Char → Bool} (h : ∀ c, p c = true → q c = true) (cs : List Char) :
    (cs.takeWhile p).length ≤ (cs.takeWhile q).length := by
  induction cs with
  | nil => exact Nat.le_refl _
  | cons c cs ih =>
    by_cases hc : p c = true
    · rw [List.takeWhile_cons_of_pos hc, List.takeWhile_cons_of_pos (h c hc)]
      exact Nat.succ_le_succ ih
    · rw [List.takeWhile_cons_of_neg hc]
      exact Nat.zero_le _

theorem isInside_of_digit (c : Char) (h : (Text.digit? c).isSome = true) : isInside c = true := by
  by_contra hc
  have hslash : c = '/' ∨ c = '\\' := by
    simpa only [isInside, isSlash, Bool.not_eq_true', Bool.not_eq_false, Bool.true_and, Bool.or_eq_true,
      decide_eq_true_eq] using hc
  rcases hslash with rfl | rfl <;> cases h

theorem readPort_rest {scheme cs rest : List Char} {port : Option Nat}
    (h : readPort scheme cs = .ok (port, rest)) : rest = cs.dropWhile isInside := by
  unfold readPort at h
  dsimp only at h
  have hdigits : (cs.takeWhile fun c => (Text.digit? c).isSome).length ≤ (cs.takeWhile isInside).length :=
    takeWhile_length isInside_of_digit cs
  have hrest := dropWhile_drop hdigits
  generalize cs.drop (cs.takeWhile fun c => (Text.digit? c).isSome).length = rest' at h hrest
  by_cases hhead : rest'.head?.any (!isSlash true ·) = true
  · rw [if_pos hhead] at h
    cases h
  · rw [if_neg hhead] at h
    have hstop : rest'.dropWhile isInside = rest' := by
      refine dropWhile_of_head fun c hc => ?_
      rw [Option.mem_def.1 hc] at hhead
      simpa [isInside] using hhead
    rw [← hrest, hstop]
    split_ifs at h
    · cases h
      rfl
    · split at h
      · cases h
      · cases h
        rfl

/-- What follows the authority of a special URL begins at its first slash. -/
theorem parse_rest {scheme cs rest : List Char} {more : Bool} {a : Authority}
    (hspecial : Url.isSpecialScheme scheme = true) (h : parse scheme more cs = .ok (a, rest)) :
    rest = cs.dropWhile isInside := by
  unfold parse at h
  obtain ⟨⟨user, place⟩, huser, h⟩ := bind_eq_ok.1 h
  have hplace := cutUser_place (hspecial ▸ huser)
  dsimp only at h
  rw [hspecial] at h
  generalize readUser user = who at h
  cases hcut : cutHost true false place with
  | mk hostText behind =>
    obtain ⟨hbehind, hhead⟩ := cutHost_rest hcut
    rw [hcut] at h
    split at h
    · obtain ⟨_, hfault, -⟩ := bind_eq_ok.1 h
      cases hfault
    rw [if_pos rfl] at h
    obtain ⟨host, -, h⟩ := bind_eq_ok.1 h
    rw [← hplace, ← hbehind]
    split at h
    · rename_i text htext
      obtain ⟨⟨port, rest'⟩, hport, h⟩ := bind_eq_ok.1 h
      cases h
      obtain rfl : behind = ':' :: text := htext
      rw [List.dropWhile_cons_of_pos (by decide)]
      exact readPort_rest hport
    · rename_i hcolon
      cases h
      refine (dropWhile_of_head fun c hc => (hhead c hc).resolve_left ?_).symm
      rintro rfl
      obtain ⟨tail, rfl⟩ := List.head?_eq_some_iff.1 hc
      exact hcolon tail rfl

end Authority

/-! ## Reading a URL -/

namespace UrlPath

/-- The segments that a text without query and fragment goes on with. -/
def pieces (cs : List Char) : List (List Char) :=
  (Text.splitOn '/' (slashes cs)).map (Percent.escape Percent.pathSet)

theorem pieces_ne_nil (cs : List Char) : pieces cs ≠ [] := by
  simp [pieces, Text.splitOn_ne_nil]

theorem slashes_append (xs ys : List Char) : slashes (xs ++ ys) = slashes xs ++ slashes ys := List.map_append

theorem pieces_append (xs ys : List Char) : pieces (xs ++ '/' :: ys) = pieces xs ++ pieces ys := by
  have hslash : slashes ('/' :: ys) = '/' :: slashes ys := rfl
  rw [pieces, slashes_append, hslash, Text.splitOn_append_sep, List.map_append]
  rfl

/-! ### Dots -/

/-- Only letters have another case. -/
theorem lowerAscii_eq {c d : Char} (h : Text.lowerAscii c = d) :
    c = d ∨ c.toNat + 32 = d.toNat ∧ 65 ≤ c.toNat ∧ c.toNat ≤ 90 := by
  unfold Text.lowerAscii at h
  split_ifs at h with hupper
  · right
    have hle : 65 ≤ c.toNat ∧ c.toNat ≤ 90 := hupper
    subst h
    obtain ⟨hlow, hhigh⟩ := hle
    refine ⟨?_, hlow, hhigh⟩
    have hcodes : ∀ n < 91, 65 ≤ n → n + 32 = (Char.ofNat (n + 32)).toNat := by decide
    exact hcodes _ (by omega) hlow
  · exact .inl h

theorem eq_of_lowerAscii {c d : Char} (hd : d.isLower = false) (h : Text.lowerAscii c = d) : c = d := by
  refine (lowerAscii_eq h).resolve_right ?_
  rintro ⟨hsum, hlow, hhigh⟩
  have hcode : 97 ≤ d.toNat ∧ d.toNat ≤ 122 := by omega
  have hlower : d.isLower = true := by
    change (d.val ≥ 'a'.val && d.val ≤ 'z'.val) = true
    simp only [Bool.and_eq_true, decide_eq_true_eq, ge_iff_le, UInt32.le_iff_toNat_le]
    exact hcode
  rw [hlower] at hd
  cases hd

theorem eq_of_lowerAscii_e {c : Char} (h : Text.lowerAscii c = 'e') : c = 'e' ∨ c = 'E' := by
  refine (lowerAscii_eq h).imp_right ?_
  rintro ⟨hsum, -⟩
  have hcode : c.toNat = 69 := Nat.add_right_cancel hsum
  rw [← Char.ofNat_toNat c, hcode]

variable {segment : List Char}

theorem dot_forms (h : segment.map Text.lowerAscii ∈ dots) :
    segment ∈ [['.'], ['%', '2', 'e'], ['%', '2', 'E']] := by
  simp only [dots, List.mem_cons, List.not_mem_nil, or_false, List.map_eq_cons_iff, List.map_eq_nil_iff] at h
  rcases h with ⟨a, _, rfl, ha, rfl⟩ | ⟨a, _, rfl, ha, b, _, rfl, hb, c, _, rfl, hc, rfl⟩
  · rw [eq_of_lowerAscii (by decide) ha]
    exact List.mem_cons_self
  · rw [eq_of_lowerAscii (by decide) ha, eq_of_lowerAscii (by decide) hb]
    rcases eq_of_lowerAscii_e hc with rfl | rfl <;> simp

/-- However it is written, such a segment stands for one dot. -/
theorem standsFor_of_isDot (h : isDot segment = true) : Percent.StandsFor segment ['.'] := by
  rw [isDot, decide_eq_true_eq] at h
  have hforms : ∀ form ∈ [['.'], ['%', '2', 'e'], ['%', '2', 'E']],
      Percent.unescape (Utf8.encode form) = Utf8.encode ['.'] := by decide
  exact hforms _ (dot_forms h)

/-- However it is written, such a segment stands for two dots. -/
theorem standsFor_of_isDoubleDot (h : isDoubleDot segment = true) : Percent.StandsFor segment ['.', '.'] := by
  rw [isDoubleDot, decide_eq_true_eq, List.mem_flatMap] at h
  obtain ⟨x, hx, h⟩ := h
  obtain ⟨y, hy, hxy⟩ := List.mem_map.1 h
  -- Each half is a dot by itself.
  obtain ⟨front, back, rfl, rfl, rfl⟩ := List.map_eq_append_iff.1 hxy.symm
  have hforms : ∀ front ∈ [['.'], ['%', '2', 'e'], ['%', '2', 'E']],
      ∀ back ∈ [['.'], ['%', '2', 'e'], ['%', '2', 'E']],
        Percent.unescape (Utf8.encode (front ++ back)) = Utf8.encode ['.', '.'] := by decide
  exact hforms _ (dot_forms hx) _ (dot_forms hy)

/-! ### Ways -/

variable {file : Bool} {parts : List (List Char)}

/-- Where segments that are not the last ones lead to. -/
def walk (file : Bool) (parts : List (List Char)) (segments : List (List Char)) : List (List Char) :=
  segments.foldl (follow file false) parts

theorem followAll_append (xs : List (List Char)) {ys : List (List Char)} (hys : ys ≠ []) :
    followAll file parts (xs ++ ys) = followAll file (walk file parts xs) ys := by
  induction xs generalizing parts with
  | nil => rfl
  | cons x xs ih =>
    obtain ⟨z, zs, hz⟩ := List.exists_cons_of_ne_nil (List.append_ne_nil_of_right_ne_nil xs hys)
    rw [List.cons_append, hz, followAll, ← hz, ih]
    rfl

theorem followAll_cons (segment : List Char) {segments : List (List Char)} (h : segments ≠ []) :
    followAll file parts (segment :: segments) = followAll file (follow file false parts segment) segments :=
  followAll_append [segment] h

/-- Whatever stands before a slash, the text behind it makes pieces of its own. -/
theorem splitOn_dropSlash (front : List Char) :
    ∃ before, ∀ cs, Text.splitOn '/' (dropSlash (front ++ '/' :: cs)) = before ++ Text.splitOn '/' cs := by
  cases front with
  | nil => exact ⟨[], fun cs => rfl⟩
  | cons c front =>
    by_cases hc : c = '/'
    · subst hc
      exact ⟨Text.splitOn '/' front, fun cs => Text.splitOn_append_sep '/' front cs⟩
    · refine ⟨Text.splitOn '/' (c :: front), fun cs => ?_⟩
      rw [← Text.splitOn_append_sep]
      simp [dropSlash, hc]

/-- Behind a slash a path goes on from where it has led to. -/
theorem readParts_append (front : List Char) :
    ∃ above, ∀ cs, readParts true false (front ++ '/' :: cs) = followAll false above (pieces cs) := by
  obtain ⟨before, hbefore⟩ := splitOn_dropSlash (slashes front)
  refine ⟨walk false [] (before.map (Percent.escape Percent.pathSet)), fun cs => ?_⟩
  have hslashes : slashes (front ++ '/' :: cs) = slashes front ++ '/' :: slashes cs := slashes_append front ('/' :: cs)
  rw [readParts, if_pos rfl, hslashes, hbefore, List.map_append]
  exact followAll_append _ (pieces_ne_nil cs)

end UrlPath

namespace Url

/-- What counts of a text that a URL is read from. -/
def kept (cs : List Char) : List Char := (Text.trim isEdge cs).filter (!UrlPath.isIgnored ·)

/-- The text before the query and the fragment. -/
def place (cs : List Char) : List Char := (cutAt '?' (cutAt '#' cs).1).1

/-- The text between the authority and the query. -/
def pathText (cs : List Char) : List Char := ((place cs).dropWhile (isSlash true)).dropWhile isInside

theorem ofChars_scheme {cs : List Char} {u : Url} (h : ofChars cs = .ok u) :
    ∃ rest, cutScheme? (kept cs) = some (u.scheme, rest) := by
  unfold ofChars at h
  split at h
  · cases h
  · rename_i scheme rest hscheme
    obtain ⟨⟨authority, path⟩, -, h⟩ := bind_eq_ok.1 h
    cases h
    exact ⟨rest, hscheme⟩

theorem special_of_web {u : Url} (h : u.isWeb = true) :
    isSpecialScheme u.scheme = true ∧ u.scheme ≠ fileScheme := by
  unfold isWeb at h
  simp only [Bool.or_eq_true, decide_eq_true_eq] at h
  rcases h with h | h <;> rw [h] <;> decide

/-- The path of a web URL is read from what stands between its authority and its query. -/
theorem ofChars_web {cs : List Char} {u : Url} (h : ofChars cs = .ok u) (hweb : u.isWeb = true) :
    ∃ rest, cutScheme? (kept cs) = some (u.scheme, rest) ∧
      u.path = .segments (UrlPath.readParts true false (pathText rest)) ∧
      (u.query = none ↔ (cutAt '?' (cutAt '#' rest).1).2 = none) ∧
      (u.fragment = none ↔ (cutAt '#' rest).2 = none) := by
  unfold ofChars at h
  split at h
  · cases h
  · rename_i scheme rest hscheme
    cases hfragment : cutAt '#' rest with
    | mk rest₁ fragment =>
    cases hquery : cutAt '?' rest₁ with
    | mk rest₂ query =>
    rw [hfragment] at h
    dsimp only at h
    rw [hquery] at h
    obtain ⟨⟨authority, path⟩, hplace, h⟩ := bind_eq_ok.1 h
    cases h
    obtain ⟨hspecial, hfile⟩ := special_of_web hweb
    refine ⟨rest, hscheme, ?_, by simp [hfragment, hquery], by simp [hfragment]⟩
    unfold readPlace at hplace
    rw [if_neg hfile, if_pos hspecial] at hplace
    obtain ⟨⟨a, behind⟩, hparse, hplace⟩ := bind_eq_ok.1 hplace
    cases hplace
    rw [Authority.parse_rest hspecial hparse, pathText, place, hfragment, hquery]
    rfl

end Url

end AccessSync
