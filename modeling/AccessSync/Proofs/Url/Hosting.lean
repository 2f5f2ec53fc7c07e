import AccessSync.Proofs.Url.Leading
import AccessSync.Proofs.Url.Written
import Mathlib.Data.List.Basic
/-!
# Hosts in front of a domain

What stands before the first slash of a special URL is its authority. Where neither side has an `@`, text
and a full stop before it make a host of their own in front of the domain (`Authority.parse_dot`): colons
and brackets in such text let the reading fail. A written domain stays the host when it is read again
(`Authority.parse_domain`).
-/

namespace AccessSync

/-! ## Hosts -/

namespace Host

variable {xs ys cs domain back : List Char} {host : Host}

/-- A domain ends in a number if what stands behind a full stop does. -/
theorem endsInNumber_dot (xs : List Char) (hys : ys ≠ []) : endsInNumber (xs ++ '.' :: ys) = endsInNumber ys := by
  have hpieces := Text.splitOn_ne_nil '.' ys
  have hlast : (dotted (xs ++ '.' :: ys)).getLast? = (dotted ys).getLast? := by
    rw [dotted, dotted, Text.splitOn_append_sep, List.getLast?_append_of_ne_nil _ hpieces]
    split_ifs with hempty
    · have hmore : (Text.splitOn '.' ys).dropLast ≠ [] := by
        intro hnil
        have hjoin := Text.join_splitOn '.' ys
        rw [← List.dropLast_append_getLast? _ hempty, hnil] at hjoin
        exact hys hjoin.symm
      rw [List.dropLast_append_of_ne_nil hpieces, List.getLast?_append_of_ne_nil _ hmore]
    · rw [List.getLast?_append_of_ne_nil _ hpieces]
  rw [endsInNumber, endsInNumber, hlast]

/-- Without a bracket in front a host is read as a domain. -/
theorem ofDomain_eq (hcs : cs.head? ≠ some '[') : ofDomain cs =
    match Domain.toAscii? (Percent.unescape (Utf8.encode cs)) with
    | none => .error .invalidDomain
    | some domain =>
      if domain = [] then .error .emptyHost
      else if endsInNumber domain then
        match ipv4? domain with
        | some n => .ok (.ipv4 n)
        | none => .error .invalidIpv4
      else .ok (.name domain) := by
  unfold ofDomain
  split
  · exact absurd rfl hcs
  · rfl

/-- A host that is a name is a domain that does not end in a number. -/
theorem ofDomain_eq_name (h : ofDomain cs = .ok (.name domain)) :
    cs.head? ≠ some '[' ∧ Domain.toAscii? (Percent.unescape (Utf8.encode cs)) = some domain ∧ domain ≠ [] ∧
      endsInNumber domain = false := by
  have hcs : cs.head? ≠ some '[' := by
    intro hhead
    obtain ⟨tail, rfl⟩ := List.head?_eq_some_iff.1 hhead
    simp only [ofDomain, ofBrackets] at h
    split_ifs at h
    split at h <;> cases h
  refine ⟨hcs, ?_⟩
  rw [ofDomain_eq hcs] at h
  split at h
  · cases h
  · rename_i written hwritten
    split_ifs at h with hempty hnumber
    · split at h <;> cases h
    · cases h
      exact ⟨hwritten, hempty, by simpa using hnumber⟩

theorem ofDomain_eq_ok (hcs : cs.head? ≠ some '[') (h : ofDomain cs = .ok host) :
    ∃ domain, Domain.toAscii? (Percent.unescape (Utf8.encode cs)) = some domain ∧
      (endsInNumber domain = false → host = .name domain) := by
  rw [ofDomain_eq hcs] at h
  split at h
  · cases h
  · rename_i domain hdomain
    refine ⟨domain, hdomain, fun hnumber => ?_⟩
    rw [hnumber, if_neg Bool.false_ne_true] at h
    split_ifs at h
    cases h
    rfl

/-- A domain as it is written, and no address. -/
structure IsDomain (cs : List Char) : Prop where
  written : Domain.IsWritten cs
  named : endsInNumber cs = false

theorem isDomain_of_name (h : ofDomain cs = .ok (.name domain)) : IsDomain domain :=
  ⟨Domain.isWritten_toAscii? (ofDomain_eq_name h).2.1, (ofDomain_eq_name h).2.2.2⟩

/-- In front of a domain and a full stop a text makes a part of the domain. -/
theorem ofDomain_dot (hxs : xs.head? ≠ some '[') (hback : ofDomain ys = .ok (.name back))
    (h : ofDomain (xs ++ '.' :: ys) = .ok host) :
    ∃ front, host = .name (front ++ '.' :: back) ∧ IsDomain (front ++ '.' :: back) := by
  obtain ⟨-, hwritten, hne, hnumber⟩ := ofDomain_eq_name hback
  have hhead : (xs ++ '.' :: ys).head? ≠ some '[' := by
    cases xs with
    | nil => simp
    | cons x xs => simpa using hxs
  obtain ⟨domain, hdomain, hhost⟩ := ofDomain_eq_ok hhead h
  obtain ⟨front, rfl⟩ := Domain.toAscii?_dot hdomain hwritten
  obtain rfl := hhost (by rw [endsInNumber_dot front hne, hnumber])
  exact ⟨front, rfl, isDomain_of_name h⟩

/-- A domain is read as itself. -/
theorem IsDomain.ofDomain (hcs : IsDomain cs) (h : Host.ofDomain cs = .ok host) : host = .name cs := by
  have hhead : cs.head? ≠ some '[' := fun hhead =>
    absurd (hcs.written '[' (List.mem_of_mem_head? hhead)).2.1 (by decide)
  obtain ⟨domain, hdomain, hhost⟩ := ofDomain_eq_ok hhead h
  obtain rfl := Domain.toAscii?_written hcs.written hdomain
  exact hhost hcs.named

/-- Where a bracket is read, the host is in brackets. -/
theorem ofDomain_bracket {c : Char} (hc : Text.isBracket c = true) (hmem : c ∈ cs) (h : ofDomain cs = .ok host) :
    cs.head? = some '[' ∧ cs.getLast? = some ']' := by
  by_cases hhead : cs.head? = some '['
  · refine ⟨hhead, ?_⟩
    obtain ⟨tail, rfl⟩ := List.head?_eq_some_iff.1 hhead
    simp only [ofDomain, ofBrackets] at h
    split_ifs at h with hlast
    rw [List.getLast?_cons, hlast]
    rfl
  · obtain ⟨domain, hdomain, -⟩ := ofDomain_eq_ok hhead h
    rw [Domain.toAscii?_bracket hc hmem] at hdomain
    cases hdomain

end Host

/-! ## Authorities -/

theorem cutAtLast_of_notMem {sep : Char} {cs : List Char} (h : sep ∉ cs) : cutAtLast sep cs = (none, cs) := by
  unfold cutAtLast
  split
  · rename_i after before hcut
    have hmem := congrArg (sep ∈ ·) (Text.cut?_eq_some_iff.1 hcut).1
    simp [h] at hmem
  · rfl

namespace Authority

variable {scheme cs xs ys rest : List Char} {more inside : Bool} {a : Authority}

/-- Without an `@` there is no username and no password, and a colon behind the host begins a port. -/
theorem parse_eq_ok (hspecial : Url.isSpecialScheme scheme = true) (huser : '@' ∉ cs.takeWhile isInside)
    (h : parse scheme more cs = .ok (a, rest)) :
    ∃ host port, Host.ofDomain (cutHost true false cs).1 = .ok host ∧ a = ⟨[], [], host, port⟩ ∧
      ∀ text, (cutHost true false cs).2 = ':' :: text → ∃ found, readPort scheme text = .ok found := by
  have hcut : cutUser true more cs = .ok ([], cs) := by
    unfold cutUser
    have hnone : cutAtLast '@' (cs.takeWhile (!isSlash true ·)) = (none, cs.takeWhile isInside) :=
      cutAtLast_of_notMem huser
    rw [hnone]
  unfold parse at h
  rw [hspecial] at h
  obtain ⟨⟨user, place⟩, hplace, hread⟩ := bind_eq_ok.1 h
  rw [hcut] at hplace
  cases hplace
  dsimp only at hread
  cases hhost : cutHost true false cs with
  | mk hostText behind =>
    rw [hhost] at hread
    split at hread
    · obtain ⟨_, hfault, -⟩ := bind_eq_ok.1 hread
      cases hfault
    rw [if_pos rfl] at hread
    obtain ⟨host, hdomain, hread⟩ := bind_eq_ok.1 hread
    split at hread
    · rename_i text htext
      obtain ⟨⟨port, rest'⟩, hport, hread⟩ := bind_eq_ok.1 hread
      cases hread
      refine ⟨host, port, hdomain, rfl, fun text' htext' => ?_⟩
      obtain rfl : text = text' := by simpa using htext.symm.trans htext'
      exact ⟨_, hport⟩
    · rename_i hcolon
      cases hread
      exact ⟨host, none, hdomain, rfl, fun text htext => absurd htext (hcolon text)⟩

theorem mem_cutHost {c : Char} (h : c ∈ (cutHost true inside cs).1) : c ∈ cs.takeWhile isInside := by
  induction cs generalizing inside with
  | nil => exact h
  | cons d cs ih =>
    rw [cutHost] at h
    split_ifs at h with hstop
    · simp at h
    · have hd : isInside d = true := by
        simp only [not_or] at hstop
        simp [isInside, hstop.2]
      rw [List.takeWhile_cons_of_pos hd]
      rcases List.mem_cons.1 h with rfl | h
      · exact List.mem_cons_self
      · exact List.mem_cons_of_mem d (ih h)

theorem cutHost_append : (cutHost true inside cs).1 ++ (cutHost true inside cs).2 = cs := by
  induction cs generalizing inside with
  | nil => rfl
  | cons d cs ih =>
    rw [cutHost]
    split_ifs
    · rfl
    · exact congrArg (d :: ·) ih

/-- Text without slashes that stands in front belongs to the host as a whole, unless a colon ends the host. -/
theorem cutHost_through (inside : Bool) (hxs : ∀ c ∈ xs, isInside c = true) (ys : List Char) :
    (∃ front back, xs = front ++ ':' :: back ∧ (cutHost true inside (xs ++ ys)).2 = ':' :: (back ++ ys)) ∨
      ∃ inside', cutHost true inside (xs ++ ys) =
          (xs ++ (cutHost true inside' ys).1, (cutHost true inside' ys).2) ∧
        (inside = false → '[' ∉ xs → inside' = false) := by
  induction xs generalizing inside with
  | nil => exact .inr ⟨inside, rfl, fun h _ => h⟩
  | cons c xs ih =>
    obtain ⟨hc, hxs⟩ := List.forall_mem_cons.1 hxs
    have hslash : isSlash true c = false := by simpa [isInside] using hc
    rw [List.cons_append, cutHost]
    by_cases hcolon : c = ':' ∧ (!inside) = true
    · rw [if_pos (.inl hcolon)]
      obtain ⟨rfl, -⟩ := hcolon
      exact .inl ⟨[], xs, rfl, rfl⟩
    · rw [if_neg (not_or.2 ⟨hcolon, by simp [hslash]⟩)]
      rcases ih (c = '[' || (inside && c ≠ ']')) hxs with ⟨front, back, rfl, hbehind⟩ | ⟨inside', hcut, hstays⟩
      · exact .inl ⟨c :: front, back, rfl, hbehind⟩
      · refine .inr ⟨inside', by rw [hcut]; rfl, fun hinside hno => ?_⟩
        refine hstays ?_ fun hmem => hno (List.mem_cons_of_mem c hmem)
        have hopen : c ≠ '[' := fun h => hno (by simp [h])
        simp [hopen, hinside]

/-- A port is made of digits, up to the first slash. -/
theorem takeWhile_of_port {found : Option Nat × List Char} (h : readPort scheme cs = .ok found) :
    cs.takeWhile isInside = cs.takeWhile fun c => (Text.digit? c).isSome := by
  obtain ⟨port, rest⟩ := found
  have hinside := readPort_rest h
  have hdigits : rest = cs.dropWhile fun c => (Text.digit? c).isSome := by
    have hdrop := congrArg (List.drop (cs.takeWhile fun c => (Text.digit? c).isSome).length)
      (List.takeWhile_append_dropWhile (p := fun c => (Text.digit? c).isSome) (l := cs))
    rw [List.drop_left] at hdrop
    rw [hdrop]
    unfold readPort at h
    dsimp only at h
    split_ifs at h
    · cases h
      rfl
    · split at h
      · cases h
      · cases h
        rfl
  have hparts : cs.takeWhile isInside ++ rest = (cs.takeWhile fun c => (Text.digit? c).isSome) ++ rest := by
    rw [hinside, List.takeWhile_append_dropWhile, ← hinside, hdigits, List.takeWhile_append_dropWhile]
  exact List.append_cancel_right hparts

/-- What stands behind a colon and before the first slash is made of digits. -/
theorem digit_of_port {found : Option Nat × List Char} (h : readPort scheme (xs ++ ys) = .ok found)
    (hxs : ∀ c ∈ xs, isInside c = true) : ∀ c ∈ xs, (Text.digit? c).isSome = true := by
  intro c hc
  have hdigits := takeWhile_of_port h
  rw [List.takeWhile_append_of_pos hxs] at hdigits
  have hdigit := List.mem_takeWhile_imp (hdigits ▸ List.mem_append_left _ hc)
  exact hdigit

/-- The authority of a name has no brackets. -/
theorem notMem_bracket {domain : List Char} (hspecial : Url.isSpecialScheme scheme = true)
    (huser : '@' ∉ cs.takeWhile isInside) (h : parse scheme more cs = .ok (a, rest)) (hname : a.host = .name domain)
    {c : Char} (hc : Text.isBracket c = true) : c ∉ cs.takeWhile isInside := by
  intro hmem
  obtain ⟨host, port, hhost, rfl, hport⟩ := parse_eq_ok hspecial huser h
  obtain rfl : host = .name domain := hname
  obtain ⟨-, hhead⟩ := cutHost_rest (rfl : cutHost true false cs = (_, _))
  have hinside : ∀ d ∈ (cutHost true false cs).1, isInside d = true := fun d hd =>
    List.mem_takeWhile_imp (mem_cutHost hd)
  rw [← @cutHost_append cs false, List.takeWhile_append_of_pos hinside] at hmem
  rcases List.mem_append.1 hmem with hmem | hmem
  · exact (Host.ofDomain_eq_name hhost).1 (Host.ofDomain_bracket hc hmem hhost).1
  -- Behind the host there is a port at most.
  generalize (cutHost true false cs).2 = behind at hmem hhead hport
  cases behind with
  | nil => simp at hmem
  | cons d text =>
    rw [List.takeWhile_cons] at hmem
    split_ifs at hmem with hd
    · obtain rfl : d = ':' := (hhead d rfl).resolve_right (by simp [hd])
      obtain ⟨found, hfound⟩ := hport text rfl
      have hdigit : Text.digit? c = none := by
        simp only [Text.isBracket, Bool.or_eq_true, decide_eq_true_eq] at hc
        rcases hc with rfl | rfl <;> rfl
      rcases List.mem_cons.1 hmem with rfl | hmem
      · exact absurd hc (by decide)
      · rw [takeWhile_of_port hfound] at hmem
        have := List.mem_takeWhile_imp hmem
        simp [hdigit] at this
    · simp at hmem

/-- Text and a full stop in front of an authority make a host of their own in front of its domain. -/
theorem parse_dot {back : List Char} (hspecial : Url.isSpecialScheme scheme = true)
    (hxs : ∀ c ∈ xs, isInside c = true ∧ c ≠ '@') (hys : '@' ∉ ys.takeWhile isInside)
    (hback : parse scheme more ys = .ok (a, rest)) (hname : a.host = .name back) {more' : Bool} {a' : Authority}
    {rest' : List Char} (h : parse scheme more' (xs ++ '.' :: ys) = .ok (a', rest')) :
    ∃ front port, a' = ⟨[], [], .name (front ++ '.' :: back), port⟩ ∧ Host.IsDomain (front ++ '.' :: back) := by
  have hfront : ∀ c ∈ xs ++ ['.'], isInside c = true := by
    intro c hc
    rcases List.mem_append.1 hc with hc | hc
    · exact (hxs c hc).1
    · rw [List.mem_singleton.1 hc]
      rfl
  have hparts : xs ++ '.' :: ys = xs ++ ['.'] ++ ys := by simp
  have huser : '@' ∉ (xs ++ '.' :: ys).takeWhile isInside := by
    rw [hparts, List.takeWhile_append_of_pos hfront]
    simp only [List.mem_append, List.mem_singleton, not_or]
    exact ⟨⟨fun hmem => (hxs _ hmem).2 rfl, by decide⟩, hys⟩
  have hbrackets : ∀ c, Text.isBracket c = true → c ∉ ys.takeWhile isInside := fun c =>
    notMem_bracket hspecial hys hback hname
  obtain ⟨host, port, hhost, rfl, hport⟩ := parse_eq_ok hspecial huser h
  obtain ⟨_, _, hbackHost, rfl, -⟩ := parse_eq_ok hspecial hys hback
  rw [hparts] at hhost hport
  rcases cutHost_through false hfront ys with ⟨as, bs, has, hbehind⟩ | ⟨inside', hcut, hstays⟩
  · -- A colon begins a port, and the full stop stands in it.
    obtain ⟨found, hfound⟩ := hport _ hbehind
    have hdot : '.' ∈ bs := by
      have hlast := congrArg List.getLast? has
      rw [List.getLast?_concat, List.getLast?_append_of_ne_nil _ (List.cons_ne_nil _ _)] at hlast
      exact (List.mem_cons.1 (List.mem_of_getLast? hlast.symm)).resolve_left (by decide)
    have hbs : ∀ c ∈ bs, isInside c = true := fun c hc => hfront c (by simp [has, hc])
    cases digit_of_port hfound hbs '.' hdot
  · rw [hcut] at hhost
    have hopen : '[' ∉ xs := by
      intro hmem
      have hlast := (Host.ofDomain_bracket (c := '[') rfl (by simp [hmem]) hhost).2
      cases hrest : (cutHost true inside' ys).1 with
      | nil => simp [hrest] at hlast
      | cons c cs =>
        rw [List.getLast?_append_of_ne_nil _ (by simp [hrest])] at hlast
        exact hbrackets ']' rfl (mem_cutHost (List.mem_of_getLast? hlast))
    obtain rfl : inside' = false := hstays rfl (by simp [hopen])
    rw [List.append_assoc, List.singleton_append] at hhost
    obtain rfl := hname
    obtain ⟨front, rfl, hdomain⟩ := Host.ofDomain_dot (fun hhead => hopen (List.mem_of_mem_head? hhead)) hbackHost hhost
    exact ⟨front, port, rfl, hdomain⟩

/-- A character that a domain is written in means nothing else in a URL. -/
theorem written_char {c : Char} (h : Domain.WrittenChar c) :
    isInside c = true ∧ Url.isEdge c = false ∧ UrlPath.isIgnored c = false ∧ c ∉ ['@', ':', '[', '#', '?', '%'] := by
  obtain ⟨hascii, hallowed, -⟩ := h
  rw [← Char.ofNat_toNat c] at hallowed ⊢
  generalize c.toNat = n at hascii hallowed ⊢
  revert hallowed
  revert n
  decide

/-- A domain stays the host where nothing but a port or a slash follows. -/
theorem parse_domain (hspecial : Url.isSpecialScheme scheme = true) (hxs : Host.IsDomain xs)
    (hys : ∀ c ∈ ys.head?, c = ':' ∨ isInside c = false) (huser : '@' ∉ ys.takeWhile isInside)
    (h : parse scheme more (xs ++ ys) = .ok (a, rest)) : ∃ port, a = ⟨[], [], .name xs, port⟩ := by
  have hinside : ∀ c ∈ xs, isInside c = true := fun c hc => (written_char (hxs.written c hc)).1
  have hno : ∀ c ∈ ['@', ':', '[', '#', '?', '%'], c ∉ xs := fun c hc hmem =>
    (written_char (hxs.written c hmem)).2.2.2 hc
  have huser' : '@' ∉ (xs ++ ys).takeWhile isInside := by
    rw [List.takeWhile_append_of_pos hinside, List.mem_append, not_or]
    exact ⟨hno '@' (by decide), huser⟩
  obtain ⟨host, port, hhost, rfl, -⟩ := parse_eq_ok hspecial huser' h
  rcases cutHost_through false hinside ys with ⟨as, bs, has, -⟩ | ⟨inside', hcut, hstays⟩
  · exact absurd (show ':' ∈ xs by simp [has]) (hno ':' (by decide))
  · obtain rfl := hstays rfl (hno '[' (by decide))
    have hends : (cutHost true false ys).1 = [] := by
      cases ys with
      | nil => rfl
      | cons c cs =>
        rw [cutHost, if_pos]
        rcases hys c rfl with rfl | hc
        · exact .inl ⟨rfl, rfl⟩
        · exact .inr (by simpa [isInside] using hc)
    rw [hcut, hends, List.append_nil] at hhost
    rw [hxs.ofDomain hhost]
    exact ⟨port, rfl⟩

end Authority

/-! ## URLs -/

namespace Url

/-- The scheme of the web with encryption. -/
def secure : List Char := ['h', 't', 't', 'p', 's']

variable {cs rest : List Char} {u : Url}

theorem cutScheme?_secure (rest : List Char) : cutScheme? (secure ++ ':' :: rest) = some (secure, rest) := by
  have hcut : Text.cut? ':' (secure ++ ':' :: rest) = some (secure, rest) :=
    Text.cut?_eq_some_iff.2 ⟨rfl, by decide⟩
  rw [cutScheme?, hcut]
  rfl

/-- What follows the scheme is an authority and a path. -/
theorem ofChars_secure (hkept : kept cs = secure ++ ':' :: rest) (h : ofChars cs = .ok u) :
    u.scheme = secure ∧ ∃ a more behind, u.authority = some a ∧ u.path = .segments (UrlPath.ofText true false behind) ∧
      Authority.parse secure more ((place rest).dropWhile (isSlash true)) = .ok (a, behind) := by
  have hcounts : (Text.trim isEdge cs).filter (!UrlPath.isIgnored ·) = secure ++ ':' :: rest := hkept
  unfold ofChars at h
  rw [hcounts, cutScheme?_secure] at h
  dsimp only at h
  cases hfragment : cutAt '#' rest with
  | mk rest₁ fragment =>
  cases hquery : cutAt '?' rest₁ with
  | mk rest₂ query =>
  rw [hfragment] at h
  dsimp only at h
  rw [hquery] at h
  obtain ⟨⟨authority, path⟩, hplace, h⟩ := bind_eq_ok.1 h
  cases h
  unfold readPlace at hplace
  rw [if_neg (by decide), if_pos (by decide)] at hplace
  obtain ⟨⟨a, behind⟩, hparse, hplace⟩ := bind_eq_ok.1 hplace
  cases hplace
  refine ⟨rfl, a, query.isSome || fragment.isSome, behind, rfl, rfl, ?_⟩
  rw [place, hfragment, hquery]
  exact hparse

end Url

end AccessSync
