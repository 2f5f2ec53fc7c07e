import AccessSync.Proofs.Transport.Exchange
import AccessSync.Proofs.Url.Parting
/-!
# How parameters arrive

The terms of a request add their parameters in order, and a version takes the place of every version before it
(`Query.pairs_ofTerms`), so the last one that a term names is the only one (`Query.versions_collected`).
Whatever query a URL has, and whatever it comes to have when it is unescaped and read anew, the query of what is
sent reads back as these parameters (`Transport.parameters_arrive`).
-/

namespace AccessSync

namespace Query

/-- A parameter, if it is given. -/
def parameter (given : Bool) (name value : String) : List (String × String) := if given then [(name, value)] else []

/-- The parameter is no version. -/
def notEtag (pair : String × String) : Bool := pair.1 ≠ "etag"

/-- The versions among parameters. -/
def versions (pairs : List (String × String)) : List String := (pairs.filter (·.1 = "etag")).map (·.2)

namespace Term

/-- The version that a term names. -/
def version? : Term → Option String
  | .ruleSet _ etag => some etag
  | _ => none

/-- The parameters of a term by itself. -/
def own : Term → List (String × String)
  | .window start count =>
    parameter (start ≠ 0) "startIndex" (Text.ofNat start.toNat) ++
      parameter (count ≠ 0) "count" (Text.ofNat count.toNat)
  | .filter condition => parameter (condition ≠ "") "filter" condition
  | .attributes names => names.map fun name => ("attributes", name)
  | .resource name => parameter (name ≠ "") "resource" name
  | .ruleSet name etag => ("etag", etag) :: parameter (name ≠ "") "name" name

end Term

/-- The parameters before a term that names a version are no versions. -/
def before (later : Bool) (pairs : List (String × String)) : List (String × String) :=
  if later then pairs.filter notEtag else pairs

/-- The parameters of terms in order; the version of a term is left out if a later term names one. -/
def collected : List Term → List (String × String)
  | [] => []
  | term :: terms => before (terms.any (·.version?.isSome)) term.own ++ collected terms

variable {pairs more : List (String × String)} {q : Query} {name value : String}

/-! ## One term -/

theorem pairs_addNonempty :
    (q.addNonempty name value).pairs = q.pairs ++ parameter (value ≠ "") name value := by
  by_cases hvalue : value = "" <;> simp [addNonempty, parameter, add, hvalue]

theorem pairs_addPositive {value : UInt32} :
    (q.addPositive name value).pairs = q.pairs ++ parameter (value ≠ 0) name (Text.ofNat value.toNat) := by
  by_cases hvalue : value = 0 <;> simp [addPositive, parameter, add, hvalue]

theorem pairs_attributes (names : List String) (q : Query) :
    (names.foldl (fun q name => q.add "attributes" name) q).pairs =
      q.pairs ++ names.map fun name => ("attributes", name) := by
  induction names generalizing q with
  | nil => rw [List.foldl_nil, List.map_nil, List.append_nil]
  | cons name names ih =>
    rw [List.foldl_cons, ih, add, List.append_assoc]
    rfl

theorem before_append (later : Bool) : before later (pairs ++ more) = before later pairs ++ before later more := by
  cases later
  · rfl
  · exact List.filter_append pairs more

theorem before_before (sooner later : Bool) : before later (before sooner pairs) = before (sooner || later) pairs := by
  cases sooner <;> cases later <;> simp [before]

/-- A term adds its own parameters behind the others, and a version takes the place of those. -/
theorem pairs_apply (q : Query) (term : Term) :
    (term.apply q).pairs = before term.version?.isSome q.pairs ++ term.own := by
  cases term with
  | window start count =>
    rw [Term.apply, pairs_addPositive, pairs_addPositive, List.append_assoc]
    rfl
  | filter condition => exact pairs_addNonempty
  | attributes names => exact pairs_attributes names q
  | resource name => exact pairs_addNonempty
  | ruleSet name etag =>
    rw [Term.apply, pairs_addNonempty, set, add, List.append_assoc]
    rfl

/-! ## All terms -/

/-- Terms that are added to parameters leave their own parameters behind what they leave of those. -/
theorem pairs_foldl (q : Query) (terms : List Term) :
    (terms.foldl Term.apply q).pairs = before (terms.any (·.version?.isSome)) q.pairs ++ collected terms := by
  induction terms generalizing q with
  | nil => exact (List.append_nil q.pairs).symm
  | cons term terms ih =>
    rw [List.foldl_cons, ih, pairs_apply, before_append, before_before, List.append_assoc, List.any_cons]
    rfl

/-- The parameters of terms are those of each by itself, but for versions that later ones take the place of. -/
theorem pairs_ofTerms (terms : List Term) : (ofTerms terms).pairs = collected terms := by
  rw [ofTerms, pairs_foldl]
  cases terms.any (·.version?.isSome) <;> rfl

theorem versions_append : versions (pairs ++ more) = versions pairs ++ versions more := by
  rw [versions, List.filter_append, List.map_append]
  rfl

theorem versions_eq_nil (h : ∀ pair ∈ pairs, pair.1 ≠ "etag") : versions pairs = [] := by
  rw [versions, List.map_eq_nil_iff, List.filter_eq_nil_iff]
  simpa using h

/-- What a term has as a version is the version that it names. -/
theorem versions_own (term : Term) : versions term.own = term.version?.toList := by
  have hother : ∀ {given name value}, name ≠ "etag" → versions (parameter given name value) = [] := by
    intro given name value hname
    refine versions_eq_nil fun pair hpair => ?_
    unfold parameter at hpair
    split_ifs at hpair
    · rwa [List.mem_singleton.1 hpair]
    · simp at hpair
  cases term with
  | window start count =>
    rw [Term.own, versions_append, hother (by decide), hother (by decide)]
    rfl
  | filter condition => exact hother (by decide)
  | attributes names =>
    refine versions_eq_nil fun pair hpair => ?_
    obtain ⟨name, -, rfl⟩ := List.mem_map.1 hpair
    exact of_decide_eq_true rfl
  | resource name => exact hother (by decide)
  | ruleSet name etag =>
    rw [Term.own, ← List.singleton_append, versions_append, hother (by decide)]
    rfl

/-- There is one version at most, the last one that a term names. -/
theorem versions_collected (terms : List Term) :
    versions (collected terms) = (terms.filterMap (·.version?)).getLast?.toList := by
  have hbefore : ∀ pairs, versions (before true pairs) = [] := by
    intro pairs
    refine versions_eq_nil fun pair hpair => ?_
    exact of_decide_eq_true (List.mem_filter.1 hpair).2
  induction terms with
  | nil => rfl
  | cons term terms ih =>
    rw [collected, versions_append, ih, List.filterMap_cons]
    by_cases hlater : terms.filterMap (·.version?) = []
    · have hnone : terms.any (·.version?.isSome) = false := by
        rw [List.any_eq_false]
        intro later hmem
        simp [List.filterMap_eq_nil_iff.1 hlater later hmem]
      have hown : versions (before false term.own) = term.version?.toList := versions_own term
      rw [hnone, hown, hlater]
      cases term.version? <;> rfl
    · have hsome : terms.any (·.version?.isSome) = true := by
        obtain ⟨version, hversion⟩ := List.exists_mem_of_ne_nil _ hlater
        obtain ⟨later, hmem, hnamed⟩ := List.mem_filterMap.1 hversion
        exact List.any_eq_true.2 ⟨later, hmem, by rw [hnamed]; rfl⟩
      rw [hsome, hbefore, List.nil_append]
      cases term.version? with
      | none => rfl
      | some version => exact congrArg Option.toList (List.getLast?_append_of_ne_nil [version] hlater).symm

end Query

namespace Transport

variable {url prepared : Url} {query : Query} {terms : List Query.Term}

theorem isParted_prepareUrl (h : prepareUrl url query = .ok prepared) : prepared.IsParted := by
  obtain ⟨cs, read, -, hread, rfl⟩ := prepareUrl_iff.1 h
  have hparted := Url.isParted_ofChars hread
  split_ifs
  · exact hparted
  · exact hparted.setPairs query.pairs

theorem isParted_takeUser (h : url.IsParted) : (takeUser url).1.IsParted := by
  unfold takeUser
  split
  · exact h
  rename_i a hauthority
  split
  · exact h
  rename_i username _
  by_cases hnone : username = "" ∧ (if a.password = [] then none else unescape? a.password) = none
  · simpa [hnone] using h
  · have htext := h.authority a hauthority
    rw [Authority.text, Url.isPlace_append, Url.isPlace_append] at htext
    dsimp only
    rw [if_neg hnone]
    refine { h with authority := ?_ }
    rintro _ ⟨⟩
    simpa [Authority.text, Url.isPlace_append] using And.intro htext.1.2 htext.2

/-- If terms come to any parameters, the URL that is prepared for a request has those as its query and no other
one, in its text as well. They read back in their order as the terms have them, with the last version that a
term names and no other one. -/
theorem parameters_arrive (hsome : (Query.ofTerms terms).isEmpty = false)
    (h : prepareUrl url (Query.ofTerms terms) = .ok prepared) :
    Url.queryOf prepared.chars = prepared.query ∧
    prepared.query.map Form.decode = some (Query.ofTerms terms).pairs ∧
    (Query.ofTerms terms).pairs = Query.collected terms ∧
    Query.versions (Query.ofTerms terms).pairs = (terms.filterMap (·.version?)).getLast?.toList := by
  refine ⟨(isParted_prepareUrl h).queryOf_chars, ?_, Query.pairs_ofTerms terms, ?_⟩
  · obtain ⟨cs, read, -, -, rfl⟩ := prepareUrl_iff.1 h
    rw [hsome]
    exact congrArg some (Form.decode_encode _)
  · rw [Query.pairs_ofTerms]
    exact Query.versions_collected terms

/-- Two rule sets and a filter are asked for where a query stood, and another one and a fragment were hidden in
escapes. -/
theorem parameters_arrive_in_place_of_query :
    let url : Url := ⟨"https".toList, some ⟨[], [], .name "h.test".toList, none⟩, false,
      .segments ["scim%3Fname=old%23x".toList], some "etag=v0".toList, none⟩
    let filter := "displayName eq 'Zoë & Søn = 50%3D+#?'"
    let terms : List Query.Term := [.ruleSet "r" "v1", .filter filter, .ruleSet "r" "v2"]
    let pairs := [("name", "r"), ("filter", filter), ("etag", "v2"), ("name", "r")]
    ∃ prepared, prepareUrl url (Query.ofTerms terms) = .ok prepared ∧
      (Url.queryOf prepared.chars).map Form.decode = some pairs ∧ Query.versions pairs = ["v2"] := by
  intro url filter terms pairs
  have hpairs : (Query.ofTerms terms).pairs = pairs := by decide
  have hread : (prepareUrl url (Query.ofTerms terms)).toOption.isSome = true := by decide +kernel
  obtain ⟨prepared, hprepared⟩ : ∃ prepared, prepareUrl url (Query.ofTerms terms) = .ok prepared := by
    cases hprepared : prepareUrl url (Query.ofTerms terms) with
    | error fault =>
      rw [hprepared] at hread
      cases hread
    | ok prepared => exact ⟨prepared, rfl⟩
  obtain ⟨htext, harrive, -, hversions⟩ := parameters_arrive (by rw [Query.isEmpty, hpairs]; rfl) hprepared
  rw [hpairs] at harrive hversions
  refine ⟨prepared, hprepared, ?_, ?_⟩
  · rw [htext, harrive]
  · rw [hversions]
    rfl

/-- The parameters of a request are what stands as the query in the text of its URL. -/
theorem Asks.queryOf_chars {method : Http.Method} {body : Option Json} {request : Http.Request}
    (h : Asks method url body terms request) :
    ((Url.queryOf request.url.chars).map Form.decode).getD [] = request.parameters := by
  obtain ⟨prepared, hprepared, hurl⟩ := h.url
  have hparted : request.url.IsParted := hurl ▸ isParted_takeUser (isParted_prepareUrl hprepared)
  rw [hparted.queryOf_chars, Http.Request.parameters]
  cases request.url.query <;> rfl

end Transport

end AccessSync
