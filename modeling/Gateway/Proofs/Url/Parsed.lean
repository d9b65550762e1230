import Gateway.Proofs.Url.Characters

/- What holds of every URL that has been read. `Parsed` are the URLs that come from the
   parser, on their own or relative to such a URL, and from the setter of the query. If
   the scheme of such a URL is special and names no file, its path has segments, and path
   and query hold no character that a second reading would take for something else
   (`Parsed.settled`). -/
namespace Gateway.Url

/-- URLs that have been read. -/
inductive Parsed : Url → Prop
  | alone {s : String} {u : Url} (h : ofText? s = some u) : Parsed u
  | relative {s : String} {base u : Url} (hbase : Parsed base)
    (h : parse? s (some base) = some u) : Parsed u
  | searched {u : Url} (h : Parsed u) (search : String) : Parsed (u.withSearch search)

/-- A scheme with an authority of its own that names no file. -/
structure IsHierarchic (scheme : String) : Prop where
  special : isSpecialScheme scheme = true
  not_file : scheme ≠ "file"

/-- A URL that the forwarder can reach a server by. -/
def IsWeb (u : Url) : Prop := u.scheme = "http" ∨ u.scheme = "https"

theorem IsWeb.isHierarchic {u : Url} (h : u.IsWeb) : IsHierarchic u.scheme := by
  rcases h with h | h <;> rw [h] <;> constructor <;> decide

/-- The path has segments, and neither path nor query needs an escape. -/
structure Settled (u : Url) : Prop where
  segments : ∃ list : List String, u.path = .segments list ∧ list ≠ [] ∧
    ∀ s ∈ list, IsSegment s.toList
  query : ∀ q, u.query = some q → IsQuery q.toList

/-! ## Paths -/

section
variable {scheme : String}

theorem mem_shorten {path : List (List Char)} {s : List Char} (h : s ∈ shorten scheme path) :
    s ∈ path := by
  unfold shorten at h
  split at h
  · split at h
    · exact h
    · cases h
  · exact List.dropLast_subset path h

theorem keptSegment_eq (hs : IsHierarchic scheme) (path : List (List Char)) (s : List Char) :
    keptSegment scheme path s = encode inPathSet s := by
  simp [keptSegment, hs.not_file]

/-- What the segments of a path consist of. -/
def AreSegments (path : List (List Char)) : Prop := ∀ s ∈ path, IsSegment s

theorem AreSegments.append_singleton {path : List (List Char)} {s : List Char}
    (h : AreSegments path) (hs : IsSegment s) : AreSegments (path ++ [s]) := by
  intro t ht
  rcases List.mem_append.mp ht with ht | ht
  · exact h t ht
  · obtain rfl := List.mem_singleton.mp ht
    exact hs

theorem AreSegments.shorten {path : List (List Char)} (h : AreSegments path) :
    AreSegments (Url.shorten scheme path) := fun s hs => h s (mem_shorten hs)

/-- One step of reading a path. -/
def addPiece (scheme : String) (path : List (List Char)) (s : List Char) (isLast : Bool) :
    List (List Char) :=
  if isDoubleDot s then
    if isLast then endAbove scheme path else shorten scheme path
  else if isSingleDot s then
    if isLast then path ++ [[]] else path
  else path ++ [keptSegment scheme path s]

theorem addPieces_cons (path : List (List Char)) (s : List Char) (rest : List (List Char)) :
    addPieces scheme path (s :: rest) =
      addPieces scheme (addPiece scheme path s rest.isEmpty) rest := rfl

theorem eq_pair_of_isDrive {s : List Char} (h : isDrive s = true) : ∃ a b, s = [a, b] := by
  unfold isDrive at h
  split at h
  · exact ⟨_, _, rfl⟩
  · cases h

theorem endAbove_eq (hs : IsHierarchic scheme) (path : List (List Char)) :
    endAbove scheme path = shorten scheme path ++ [[]] := by
  simp [endAbove, hs.special]

/-- What is kept of a piece is a segment, also of the drive of a file. -/
theorem isSegment_keptSegment {s : List Char} (hslash : ∀ c ∈ s, isSlash true c = false)
    (path : List (List Char)) : IsSegment (keptSegment scheme path s) := by
  unfold keptSegment
  split
  · next hdrive =>
    rw [Bool.and_eq_true] at hdrive
    obtain ⟨a, b, rfl⟩ := eq_pair_of_isDrive hdrive.2
    obtain ⟨halpha, -⟩ := Bool.and_eq_true_iff.mp hdrive.2
    intro c hc
    rcases List.mem_cons.mp hc with rfl | hc
    · exact isSegmentChar_of_isAlphanum (by simp [Char.isAlphanum, halpha])
    · obtain rfl := List.mem_singleton.mp hc
      decide
  · exact isSegment_encode hslash

/-- A step keeps segments. -/
theorem AreSegments.addPiece {path : List (List Char)} (h : AreSegments path) {s : List Char}
    (hslash : ∀ c ∈ s, isSlash true c = false) (isLast : Bool) :
    AreSegments (addPiece scheme path s isLast) := by
  unfold Url.addPiece endAbove
  split
  · split
    · split
      · simp [AreSegments]
      · exact h.shorten.append_singleton .nil
    · exact h.shorten
  · split
    · split
      · exact h.append_singleton .nil
      · exact h
    · exact h.append_singleton (isSegment_keptSegment hslash path)

/-- The last step leaves a segment. -/
theorem addPiece_last_ne_nil (hs : IsHierarchic scheme) (path : List (List Char)) (s : List Char) :
    addPiece scheme path s true ≠ [] := by
  unfold Url.addPiece
  rw [endAbove_eq hs]
  split <;> simp
  split <;> simp

theorem AreSegments.addPieces {path : List (List Char)} (h : AreSegments path)
    {pieces : List (List Char)} (hslash : ∀ s ∈ pieces, ∀ c ∈ s, isSlash true c = false) :
    AreSegments (addPieces scheme path pieces) := by
  induction pieces generalizing path with
  | nil => exact h
  | cons s rest ih =>
    -- one step keeps segments, so the rest of the run starts on segments again
    rw [addPieces_cons]
    exact ih (h.addPiece (hslash s List.mem_cons_self) _)
      fun t ht => hslash t (List.mem_cons_of_mem s ht)

theorem addPieces_ne_nil (hs : IsHierarchic scheme) {pieces : List (List Char)} (h : pieces ≠ [])
    (path : List (List Char)) : addPieces scheme path pieces ≠ [] := by
  induction pieces generalizing path with
  | nil => exact absurd rfl h
  | cons s rest ih =>
    -- only the last step matters
    rw [addPieces_cons]
    cases rest with
    | nil => exact addPiece_last_ne_nil hs path s
    | cons t more => exact ih (by simp) _

/-- What is kept as it is written needs no escape. -/
theorem isSegment_of_verbatim {s piece : List Char} (h : isVerbatim scheme s = true)
    (hp : piece ∈ slashPieces true s) : IsSegment piece := by
  have hall : s.all isOrdinary = true := by
    simp only [isVerbatim, Bool.and_eq_true] at h
    exact h.1.1.1
  intro c hc
  obtain ⟨hmem, hslash⟩ := mem_slashPieces hp c hc
  have hordinary := List.all_eq_true.mp hall c hmem
  simp only [isOrdinary, Bool.and_eq_true, Bool.not_eq_true'] at hordinary
  exact isSegmentChar_iff.mpr ⟨hordinary.1.1, hslash⟩

/-- Reading a path behind segments gives segments, and at least one. -/
theorem AreSegments.readSegments (hs : IsHierarchic scheme) {path : List (List Char)}
    (h : AreSegments path) (s : List Char) :
    AreSegments (readSegments scheme path s) ∧ readSegments scheme path s ≠ [] := by
  have hslash (piece) (hp : piece ∈ slashPieces true s) :
      ∀ c ∈ piece, isSlash true c = false := fun c hc => (mem_slashPieces hp c hc).2
  simp only [Url.readSegments, hs.special]
  split
  · next hverbatim =>
    rw [Bool.and_eq_true] at hverbatim
    exact ⟨fun piece hp => isSegment_of_verbatim hverbatim.2 hp, slashPieces_ne_nil true s⟩
  · exact ⟨h.addPieces hslash, addPieces_ne_nil hs (slashPieces_ne_nil true s) path⟩

theorem areSegments_nil : AreSegments [] := by simp [AreSegments]

theorem segmentsAfterAuthority_settled (hs : IsHierarchic scheme) (s : List Char) :
    AreSegments (segmentsAfterAuthority scheme s) ∧ segmentsAfterAuthority scheme s ≠ [] := by
  unfold segmentsAfterAuthority
  split
  · simp [hs.special, AreSegments, IsSegment.nil]
  · exact areSegments_nil.readSegments hs _

/-- A URL made of segments and of a query that needs no escape is settled. -/
theorem make_settled {a : Authority} {path : List (List Char)} {query fragment : Option String}
    (hpath : AreSegments path ∧ path ≠ []) (hquery : ∀ q, query = some q → IsQuery q.toList) :
    Settled (make scheme a path query fragment) := by
  obtain ⟨hsegments, hne⟩ := hpath
  refine ⟨⟨path.map String.ofList, ?_, by simpa using hne, ?_⟩, hquery⟩
  · have hempty : path.isEmpty = false := by simpa using hne
    simp [make, Path.ofSegments, hempty]
  · intro s hmem
    obtain ⟨t, ht, rfl⟩ := List.mem_map.mp hmem
    rw [String.toList_ofList]
    exact hsegments t ht

end

/-! ## Readers -/

section
variable {s : List Char} {query fragment : Option String} {u : Url}

/-- A query of a special scheme is kept escaped. -/
theorem isQuery_keptQuery {scheme : String} (hs : isSpecialScheme scheme = true) (s : List Char) :
    IsQuery (keptQuery scheme s).toList := by
  simp only [keptQuery, hs, if_true, String.toList_ofList]
  exact isQuery_encode s

theorem readFromAuthority_eq {scheme : String}
    (h : readFromAuthority scheme s query fragment = some u) :
    ∃ a, u = make scheme a (segmentsAfterAuthority scheme
      (s.dropWhile fun c => !isSlash (isSpecialScheme scheme) c)) query fragment := by
  obtain ⟨a, _, ha⟩ := Option.map_eq_some_iff.mp h
  exact ⟨a, ha.symm⟩

theorem readFromAuthority_scheme {scheme : String}
    (h : readFromAuthority scheme s query fragment = some u) : u.scheme = scheme := by
  obtain ⟨a, rfl⟩ := readFromAuthority_eq h
  rfl

theorem readFromAuthority_settled {scheme : String} (hs : IsHierarchic scheme)
    (hquery : ∀ q, query = some q → IsQuery q.toList)
    (h : readFromAuthority scheme s query fragment = some u) : Settled u := by
  obtain ⟨a, rfl⟩ := readFromAuthority_eq h
  exact make_settled (segmentsAfterAuthority_settled hs _) hquery

/-- What a text relative to a URL may be: nothing, an authority with a path, or a path. -/
theorem readRelative_cases {base : Url} (h : readRelative base s query fragment = some u) :
    u = { base with query := query.or (inheritedQuery base), fragment } ∨
    (∃ t, readFromAuthority base.scheme t query fragment = some u) ∨
    ∃ path t, (path = [] ∨ path = shorten base.scheme base.path.list) ∧
      u = make base.scheme (authorityOf base) (readSegments base.scheme path t) query fragment := by
  unfold readRelative at h
  dsimp only at h
  split at h
  · exact .inl (Option.some.inj h).symm
  · split at h
    · split at h
      · split at h
        · exact .inr (.inl ⟨_, h⟩)
        · split at h
          · exact .inr (.inl ⟨_, h⟩)
          · exact .inr (.inr ⟨_, _, .inl rfl, (Option.some.inj h).symm⟩)
      · exact .inr (.inr ⟨_, _, .inl rfl, (Option.some.inj h).symm⟩)
    · exact .inr (.inr ⟨_, _, .inr rfl, (Option.some.inj h).symm⟩)

theorem readRelative_scheme {base : Url} (h : readRelative base s query fragment = some u) :
    u.scheme = base.scheme := by
  rcases readRelative_cases h with rfl | ⟨t, ht⟩ | ⟨path, t, _, rfl⟩
  · rfl
  · exact readFromAuthority_scheme ht
  · rfl

theorem Settled.path_areSegments (h : Settled u) : AreSegments u.path.list := by
  obtain ⟨list, hlist, _, hall⟩ := h.segments
  rw [hlist]
  intro t ht
  obtain ⟨segment, hmem, rfl⟩ := List.mem_map.mp ht
  exact hall segment hmem

theorem readRelative_settled {base : Url} (hs : IsHierarchic base.scheme) (hbase : Settled base)
    (hquery : ∀ q, query = some q → IsQuery q.toList)
    (h : readRelative base s query fragment = some u) : Settled u := by
  rcases readRelative_cases h with rfl | ⟨t, ht⟩ | ⟨path, t, hpath, rfl⟩
  · -- an empty text leaves the path, and perhaps the query, of the base
    refine ⟨hbase.segments, ?_⟩
    intro q hq
    rcases Option.or_eq_some_iff.mp hq with hq | ⟨_, hq⟩
    · exact hquery q hq
    · exact hbase.query q (Option.filter_eq_some_iff.mp hq).1
  · exact readFromAuthority_settled hs hquery ht
  · have hsegments : AreSegments path := by
      rcases hpath with rfl | rfl
      · exact areSegments_nil
      · exact hbase.path_areSegments.shorten
    exact make_settled (hsegments.readSegments hs t) hquery

theorem readFileHost_scheme (h : readFileHost s query fragment = some u) : u.scheme = "file" := by
  unfold readFileHost at h
  dsimp only at h
  split at h
  · obtain rfl := Option.some.inj h; rfl
  · split at h
    · obtain rfl := Option.some.inj h; rfl
    · obtain ⟨a, _, rfl⟩ := Option.map_eq_some_iff.mp h
      rfl

/-- Whatever is read as a file is one. -/
theorem readFile_scheme {base : Option Url} (h : readFile base s query fragment = some u) :
    u.scheme = "file" := by
  unfold readFile at h
  dsimp only at h
  split at h
  · split at h
    · next b hb =>
      obtain rfl := Option.some.inj h
      simpa using (Option.filter_eq_some_iff.mp hb).2
    · obtain rfl := Option.some.inj h; rfl
  · split at h
    · split at h
      · split at h
        · exact readFileHost_scheme h
        · obtain rfl := Option.some.inj h; rfl
      · obtain rfl := Option.some.inj h; rfl
    · split at h
      · obtain rfl := Option.some.inj h; rfl
      · obtain rfl := Option.some.inj h; rfl

theorem readOther_scheme {scheme : String} (h : readOther scheme s query fragment = some u) :
    u.scheme = scheme := by
  unfold readOther at h
  split at h
  · exact readFromAuthority_scheme h
  · obtain rfl := Option.some.inj h; rfl
  · obtain rfl := Option.some.inj h; rfl

/-- A base may hand its path on, so it has to be settled if its scheme is of the kind. -/
def BaseSettled (base : Option Url) : Prop :=
  ∀ b, base = some b → IsHierarchic b.scheme → Settled b

theorem readAfterScheme_settled {base : Option Url} {scheme : String} (hbase : BaseSettled base)
    (hquery : isSpecialScheme scheme = true → ∀ q, query = some q → IsQuery q.toList)
    (h : readAfterScheme base scheme s query fragment = some u) (hs : IsHierarchic u.scheme) :
    Settled u := by
  unfold readAfterScheme at h
  split at h
  · exact absurd (readFile_scheme h) hs.not_file
  · next hfile =>
    split at h
    · next hspecial =>
      have hscheme : IsHierarchic scheme := ⟨hspecial, hfile⟩
      split at h
      · next b hb =>
        obtain ⟨hbase', hsame⟩ := Option.filter_eq_some_iff.mp hb
        obtain rfl : b.scheme = scheme := by simpa using hsame
        split at h
        · exact readFromAuthority_settled hscheme (hquery hspecial) h
        · exact readRelative_settled hscheme (hbase b hbase' hscheme) (hquery hspecial) h
      · exact readFromAuthority_settled hscheme (hquery hspecial) h
    · next hspecial =>
      have hother := readOther_scheme h
      exact absurd (hother ▸ hs.special) hspecial

theorem readWithoutScheme_settled {base : Url} {p : Parts}
    (hbase : IsHierarchic base.scheme → Settled base) (h : readWithoutScheme base p = some u)
    (hs : IsHierarchic u.scheme) : Settled u := by
  -- all ways but that of a file end in `readRelative`, which keeps the scheme of the base
  have hrelative {t : List Char}
      (h : readRelative base t (p.query.map (keptQuery base.scheme)) (p.fragment.map keptFragment) =
        some u) : Settled u := by
    have hscheme : IsHierarchic base.scheme := readRelative_scheme h ▸ hs
    refine readRelative_settled hscheme (hbase hscheme) ?_ h
    intro q hq
    obtain ⟨t, _, rfl⟩ := Option.map_eq_some_iff.mp hq
    exact isQuery_keptQuery hscheme.special t
  unfold readWithoutScheme at h
  dsimp only at h
  split at h
  · split at h
    · unfold readBeside at h
      split at h
      · exact hrelative h
      · exact hrelative h
      · cases h
    · cases h
  · split at h
    · exact absurd (readFile_scheme h) hs.not_file
    · exact hrelative h

theorem parse?_settled {text : String} {base : Option Url} (hbase : BaseSettled base)
    (h : parse? text base = some u) (hs : IsHierarchic u.scheme) : Settled u := by
  unfold parse? readClean at h
  dsimp only at h
  split at h
  · refine readAfterScheme_settled hbase ?_ h hs
    intro hspecial q hq
    obtain ⟨t, _, rfl⟩ := Option.map_eq_some_iff.mp hq
    exact isQuery_keptQuery hspecial t
  · obtain ⟨b, hb, hread⟩ := Option.bind_eq_some_iff.mp h
    exact readWithoutScheme_settled (hbase b hb) hread hs

end

@[simp] theorem withSearch_scheme (u : Url) (search : String) :
    (u.withSearch search).scheme = u.scheme := by
  unfold withSearch
  split <;> rfl

theorem Settled.withSearch {u : Url} (h : Settled u) (hs : isSpecialScheme u.scheme = true)
    (search : String) : Settled (u.withSearch search) := by
  obtain ⟨list, hlist, hne, hall⟩ := h.segments
  unfold Url.withSearch
  split
  · refine ⟨⟨list, ?_, hne, hall⟩, by simp⟩
    simp [hlist, Path.withoutTrailingSpaces]
  · refine ⟨⟨list, hlist, hne, hall⟩, ?_⟩
    intro q hq
    obtain rfl := Option.some.inj hq
    exact isQuery_keptQuery hs _

/-- What has been read is settled if its scheme is special and names no file. -/
theorem Parsed.settled {u : Url} (h : Parsed u) (hs : IsHierarchic u.scheme) : Settled u := by
  -- by induction on how the URL came about: a base is settled before what is read from it
  induction h with
  | alone h =>
    refine parse?_settled ?_ h hs
    intro b hb; cases hb
  | relative _ h ih =>
    refine parse?_settled ?_ h hs
    intro b hb hscheme
    obtain rfl := Option.some.inj hb
    exact ih hscheme
  | searched _ search ih =>
    rw [withSearch_scheme] at hs
    exact (ih hs).withSearch hs.special search

end Gateway.Url
