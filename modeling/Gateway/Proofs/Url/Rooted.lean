import Gateway.Proofs.Url.Parsed

/- Texts that begin with a slash, read relative to a URL of a server. Ignored characters
   are dropped first, so what follows the slash when the text is read need not be what
   follows it in the text. If it is a slash of either kind, an authority is read; if not,
   the text is a path under the authority of the base (`parse?_rooted`). -/
namespace Gateway.Url

/-- What is read of a text before its query and its fragment. -/
def mainPart (s : String) : List Char := (Parts.of (clean s.toList)).main

/-- The query of a text that is read relative to `base`. -/
def queryPart (base : Url) (s : String) : Option String :=
  (Parts.of (clean s.toList)).query.map (keptQuery base.scheme)

/-- The fragment of a text. -/
def fragmentPart (s : String) : Option String :=
  (Parts.of (clean s.toList)).fragment.map keptFragment

/-- Whether a text that begins with a slash is read as an authority. The slash behind it may be
    of either kind, and ignored characters may stand before it. -/
def opensAuthority (s : String) : Bool :=
  (s.toList.tail.find? fun c => !isDropped c).any (isSlash true)

/-- The authority that such a text names. -/
def namedAuthority (s : String) : List Char :=
  ((mainPart s).dropWhile (isSlash true)).takeWhile fun c => !isSlash true c

theorem isSlash_iff {c : Char} : isSlash true c = true ↔ c = '/' ∨ c = '\\' := by
  simp [isSlash]

/-! ## What is left of the text -/

theorem cutAtChar_fst (c : Char) (s : List Char) : (cutAtChar c s).1 = s.takeWhile (· != c) := by
  induction s with
  | nil => rfl
  | cons a rest ih =>
    by_cases h : a = c
    · simp [cutAtChar, h]
    · simp [cutAtChar, h, ih]

theorem Parts.of_main (s : List Char) :
    (Parts.of s).main = (s.takeWhile (· != '#')).takeWhile (· != '?') := by
  rw [← cutAtChar_fst, ← cutAtChar_fst]
  rfl

/-- A text without the controls and spaces at its end. -/
def trimEnd (s : List Char) : List Char := (s.reverse.dropWhile isEdge).reverse

/-- A slash at the front stays there. -/
theorem clean_slash (rest : List Char) :
    clean ('/' :: rest) = '/' :: (trimEnd rest).filter fun c => !isDropped c := by
  have hstart : ('/' :: rest).dropWhile isEdge = '/' :: rest := rfl
  -- trimming at the end stops at the slash if it has not stopped before
  have hend : (rest.reverse ++ ['/']).dropWhile isEdge = rest.reverse.dropWhile isEdge ++ ['/'] := by
    rw [List.dropWhile_append]
    split
    · next hempty =>
      rw [List.isEmpty_iff.mp hempty]
      rfl
    · rfl
  rw [clean, hstart, List.reverse_cons, hend, List.reverse_append]
  rfl

theorem mainPart_rooted {s : String} {rest : List Char} (hs : s.toList = '/' :: rest) :
    mainPart s = '/' ::
      (((trimEnd rest).filter fun c => !isDropped c).takeWhile (· != '#')).takeWhile (· != '?') := by
  rw [mainPart, hs, clean_slash, Parts.of_main]
  rfl

/-- What is trimmed is no slash, so the first slash that counts is left where it is. -/
theorem find?_trimEnd (s : List Char) :
    ((trimEnd s).find? fun c => !isDropped c).any (isSlash true) =
      (s.find? fun c => !isDropped c).any (isSlash true) := by
  have hsplit : trimEnd s ++ (s.reverse.takeWhile isEdge).reverse = s := by
    rw [trimEnd, ← List.reverse_append, List.takeWhile_append_dropWhile, List.reverse_reverse]
  have hedge : ∀ c ∈ (s.reverse.takeWhile isEdge).reverse, isSlash true c = false := by
    intro c hc
    have hle := List.all_eq_true.mp (List.all_takeWhile (p := isEdge) (l := s.reverse)) c
      (List.mem_reverse.mp hc)
    cases hslash : isSlash true c with
    | false => rfl
    | true =>
      rcases isSlash_iff.mp hslash with rfl | rfl
      · exact absurd hle (by decide)
      · exact absurd hle (by decide)
  conv => rhs; rw [← hsplit, List.find?_append]
  cases htrim : (trimEnd s).find? fun c => !isDropped c with
  | some c => rfl
  | none =>
    cases hend : (s.reverse.takeWhile isEdge).reverse.find? fun c => !isDropped c with
    | none => rfl
    | some c => simp [hedge c (List.mem_of_find?_eq_some hend)]

/-- Cutting a text at a character that is no slash leaves a slash at its front. -/
theorem head?_takeWhile_any {c : Char} (h : isSlash true c = false) (s : List Char) :
    (s.takeWhile (· != c)).head?.any (isSlash true) = s.head?.any (isSlash true) := by
  rw [List.head?_takeWhile]
  cases s with
  | nil => rfl
  | cons a rest =>
    by_cases ha : a = c
    · simp [ha, h]
    · simp [Option.filter, ha]

theorem head?_mainPart_tail {s : String} {rest : List Char} (hs : s.toList = '/' :: rest) :
    (mainPart s).tail.head?.any (isSlash true) = opensAuthority s := by
  rw [mainPart_rooted hs, List.tail_cons, head?_takeWhile_any (by decide),
    head?_takeWhile_any (by decide), List.head?_filter, find?_trimEnd, opensAuthority, hs]
  rfl

/-! ## How the text is read -/

theorem scheme?_slash (s : List Char) : scheme? ('/' :: s) = none := rfl

/-- A text behind a slash is an authority with its path, or a path. -/
theorem readRelative_slash {base : Url} (hbase : isSpecialScheme base.scheme = true)
    (s : List Char) (query fragment : Option String) :
    readRelative base ('/' :: s) query fragment =
      if s.head?.any (isSlash true) then readAfterSlashes base.scheme s query fragment
      else some (make base.scheme (authorityOf base) (readSegments base.scheme [] s)
        query fragment) := by
  have hslash : isSlash true '/' = true := rfl
  cases s with
  | nil => simp [readRelative, hbase, hslash]
  | cons d rest =>
    cases hd : isSlash true d with
    | true => simp [readRelative, hbase, hslash, hd, readAfterSlashes]
    | false =>
      have hne : d ≠ '/' := by
        rintro rfl
        cases hd
      simp [readRelative, hbase, hslash, hd, hne]

/-- How a text that begins with a slash is read relative to a URL of a server. -/
theorem parse?_rooted {s : String} {rest : List Char} (hs : s.toList = '/' :: rest) {base : Url}
    (hbase : IsHierarchic base.scheme) (hsettled : Settled base) :
    parse? s (some base) =
      if opensAuthority s then
        readFromAuthority base.scheme ((mainPart s).dropWhile (isSlash true)) (queryPart base s)
          (fragmentPart s)
      else
        some (make base.scheme (authorityOf base) (readSegments base.scheme [] (mainPart s).tail)
          (queryPart base s) (fragmentPart s)) := by
  -- the text has no scheme, and the base has segments and is no file
  obtain ⟨list, hlist, _, _⟩ := hsettled.segments
  have hmain : (Parts.of (clean s.toList)).main = '/' :: (mainPart s).tail := by
    show mainPart s = _
    rw [mainPart_rooted hs]
    rfl
  have hread : parse? s (some base) = readWithoutScheme base (Parts.of (clean s.toList)) := by
    simp only [parse?, readClean, hmain, scheme?_slash, Option.bind_some]
  have hslashes : (mainPart s).dropWhile (isSlash true) =
      (mainPart s).tail.dropWhile (isSlash true) := by
    rw [mainPart_rooted hs]
    rfl
  rw [hread, readWithoutScheme, hlist]
  simp only [hbase.not_file, if_false]
  rw [hmain, readRelative_slash hbase.special, head?_mainPart_tail hs, hslashes]
  rfl

/-! ## Where the URL lies -/

@[simp] theorem authorityOf_withSearch (u : Url) (search : String) :
    authorityOf (u.withSearch search) = authorityOf u := by
  unfold withSearch
  split <;> rfl

/-- The authority of what is read behind slashes is the text up to the next slash. -/
theorem readFromAuthority_authority {scheme : String} (hs : isSpecialScheme scheme = true)
    {s : List Char} {query fragment : Option String} {u : Url}
    (h : readFromAuthority scheme s query fragment = some u) :
    readAuthority scheme (s.takeWhile fun c => !isSlash true c) = some (authorityOf u) := by
  unfold readFromAuthority at h
  rw [hs] at h
  obtain ⟨a, ha, rfl⟩ := Option.map_eq_some_iff.mp h
  exact ha

/-- The scheme is that of the base. The authority is the one that the text names, or that of
    the base if it names none. -/
theorem parse?_rooted_authority {s : String} {rest : List Char} (hs : s.toList = '/' :: rest)
    {base u : Url} (hbase : IsHierarchic base.scheme) (hsettled : Settled base)
    (h : parse? s (some base) = some u) :
    u.scheme = base.scheme ∧
      if opensAuthority s then readAuthority base.scheme (namedAuthority s) = some (authorityOf u)
      else authorityOf u = authorityOf base := by
  rw [parse?_rooted hs hbase hsettled] at h
  split at h
  · next hopens =>
    rw [if_pos hopens]
    exact ⟨readFromAuthority_scheme h, readFromAuthority_authority hbase.special h⟩
  · next hopens =>
    rw [if_neg hopens]
    obtain rfl := Option.some.inj h
    exact ⟨rfl, rfl⟩

/-! ## Texts that are a path as they stand -/

/-- Slashes and characters of segments only. -/
def IsPathText (s : List Char) : Prop := ∀ c ∈ s, c = '/' ∨ isSegmentChar c = true

/-- The character is not ignored, and it neither ends a path nor stands for a slash. -/
structure IsPlain (c : Char) : Prop where
  not_edge : isEdge c = false
  not_dropped : isDropped c = false
  ne_hash : c ≠ '#'
  ne_question : c ≠ '?'
  ne_backslash : c ≠ '\\'

theorem isPlain_of_isSegmentChar {c : Char} (h : isSegmentChar c = true) : IsPlain c := by
  have hle := not_le_of_isSegmentChar h
  obtain ⟨hset, hslash⟩ := isSegmentChar_iff.mp h
  refine ⟨by simpa [isEdge] using hle, isDropped_eq_false hle, ?_, ?_, ?_⟩
  · rintro rfl
    exact absurd hset (by decide)
  · rintro rfl
    exact absurd hset (by decide)
  · rintro rfl
    exact absurd hslash (by decide)

section
variable {s : List Char}

theorem IsPathText.isPlain (h : IsPathText s) {c : Char} (hc : c ∈ s) : IsPlain c := by
  rcases h c hc with rfl | hchar
  · constructor <;> decide
  · exact isPlain_of_isSegmentChar hchar

theorem dropWhile_of_forall {p : Char → Bool} (h : ∀ c ∈ s, p c = false) : s.dropWhile p = s := by
  cases s with
  | nil => rfl
  | cons c rest => simp [h c List.mem_cons_self]

/-- Nothing is dropped of a text without controls and spaces. -/
theorem clean_of_forall (h : ∀ c ∈ s, ¬ c.toNat ≤ 0x20) : clean s = s := by
  have hedge : ∀ c ∈ s, isEdge c = false := fun c hc => decide_eq_false (h c hc)
  have hback : ∀ c ∈ s.reverse, isEdge c = false :=
    fun c hc => hedge c (List.mem_reverse.mp hc)
  rw [clean, dropWhile_of_forall hedge, dropWhile_of_forall hback, List.reverse_reverse,
    List.filter_eq_self]
  intro c hc
  rw [isDropped_eq_false (h c hc)]
  rfl

theorem IsPathText.clean_eq (h : IsPathText s) : clean s = s :=
  clean_of_forall fun _ hc => of_decide_eq_false (h.isPlain hc).not_edge

theorem cutAtChar_of_not_mem {c : Char} (h : c ∉ s) : cutAtChar c s = (s, none) := by
  induction s with
  | nil => rfl
  | cons a rest ih =>
    have ha : a ≠ c := fun hac => h (hac ▸ List.mem_cons_self)
    have hrest := ih fun hm => h (List.mem_cons_of_mem a hm)
    simp [cutAtChar, ha, hrest]

/-- Such a text has no query and no fragment. -/
theorem IsPathText.parts (h : IsPathText s) : Parts.of (clean s) = ⟨s, none, none⟩ := by
  have hhash : '#' ∉ s := fun hm => (h.isPlain hm).ne_hash rfl
  have hquestion : '?' ∉ s := fun hm => (h.isPlain hm).ne_question rfl
  rw [h.clean_eq, Parts.of, cutAtChar_of_not_mem hhash]
  dsimp only
  rw [cutAtChar_of_not_mem hquestion]

/-- The pieces of such a text need no escape. -/
theorem IsPathText.areSegments (h : IsPathText s) : AreSegments (slashPieces true s) := by
  intro piece hp c hc
  obtain ⟨hmem, hslash⟩ := mem_slashPieces hp c hc
  rcases h c hmem with rfl | hchar
  · cases hslash
  · exact hchar

end

/-- How such a text is read relative to a URL of a server. -/
theorem parse?_pathText {s : String} {rest : List Char} (hs : s.toList = '/' :: rest) {base : Url}
    (hbase : IsHierarchic base.scheme) (hsettled : Settled base) (htext : IsPathText s.toList)
    (hopens : opensAuthority s = false) :
    parse? s (some base) =
      some (make base.scheme (authorityOf base) (readSegments base.scheme [] rest) none none) := by
  rw [parse?_rooted hs hbase hsettled, hopens, mainPart, queryPart, fragmentPart, htext.parts, hs]
  rfl

/-! ## Written forms -/

theorem toList_pathname {u : Url} {list : List String} (h : u.path = .segments list) :
    u.pathname.toList = (list.map String.toList).flatMap fun s => '/' :: s := by
  have htext : u.pathname = String.join (list.map fun s => "/" ++ s) := by
    rw [pathname, h]
    rfl
  rw [htext, String.toList_join, List.flatMap_map, List.flatMap_map]
  congr 1
  funext s
  exact String.toList_append

/-- The path of a settled URL is written as its segments, each behind a slash. -/
theorem Settled.toList_pathname {u : Url} (h : Settled u) :
    u.pathname.toList = u.path.list.flatMap fun s => '/' :: s := by
  obtain ⟨list, hlist, _, _⟩ := h.segments
  rw [Url.toList_pathname hlist, hlist]
  rfl

theorem Settled.isPathText {u : Url} (h : Settled u) : IsPathText u.pathname.toList := by
  rw [h.toList_pathname]
  intro c hc
  obtain ⟨s, hs, hc⟩ := List.mem_flatMap.mp hc
  rcases List.mem_cons.mp hc with rfl | hc
  · exact .inl rfl
  · exact .inr (h.path_areSegments s hs c hc)

/-- The segments are read back from the written path. -/
theorem Settled.slashPieces_pathname {u : Url} (h : Settled u) :
    slashPieces true u.pathname.toList = [] :: u.path.list := by
  rw [h.toList_pathname]
  exact slashPieces_flatMap fun s hs c hc => (isSegmentChar_iff.mp (h.path_areSegments s hs c hc)).2

theorem path_make {scheme : String} {a : Authority} {path : List (List Char)}
    {query fragment : Option String} (h : path ≠ []) :
    (make scheme a path query fragment).path = .segments (path.map String.ofList) := by
  have hempty : path.isEmpty = false := by simpa using h
  simp [make, Path.ofSegments, hempty]

@[simp] theorem fragment_withSearch (u : Url) (search : String) :
    (u.withSearch search).fragment = u.fragment := by
  unfold withSearch
  split <;> rfl

/-- The setter of the query leaves a path with segments alone. -/
theorem pathname_withSearch {u : Url} {list : List String} (h : u.path = .segments list)
    (search : String) : (u.withSearch search).pathname = u.pathname := by
  unfold withSearch
  split
  · simp [pathname, h, Path.withoutTrailingSpaces]
  · rfl

/-- A query that needs no escape is set as it is. -/
theorem keptQuery_of_isQuery {scheme q : String} (hs : isSpecialScheme scheme = true)
    (hq : IsQuery q.toList) : keptQuery scheme (q.toList.filter fun c => !isDropped c) = q := by
  have hkept : (q.toList.filter fun c => !isDropped c) = q.toList := by
    rw [List.filter_eq_self]
    intro c hc
    rw [isDropped_eq_false (not_le_of_not_inSpecialQuerySet (hq c hc))]
    rfl
  simp only [keptQuery, hs, if_true, hkept, encode_of_forall hq, String.ofList_toList]

/-- The setter writes the query of another URL as that URL does. -/
theorem search_withSearch {u v : Url} (hu : isSpecialScheme u.scheme = true)
    (hv : ∀ q, v.query = some q → IsQuery q.toList) :
    (u.withSearch v.search).search = v.search := by
  cases hq : v.query with
  | none => simp [search, withSearch, hq]
  | some q =>
    by_cases hempty : q = ""
    · simp [search, withSearch, hq, hempty]
    · have hsearch : v.search = "?" ++ q := by simp [search, hq, hempty]
      have hlist : ("?" ++ q).toList = '?' :: q.toList := by simp
      have hset : (u.withSearch ("?" ++ q)).query = some q := by
        rw [withSearch, hlist]
        simp [keptQuery_of_isQuery hu (hv q hq)]
      rw [hsearch]
      simp [search, hset, hempty]

end Gateway.Url
