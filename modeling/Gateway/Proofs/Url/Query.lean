import Gateway.Proofs.RequestPath
import Gateway.Proofs.Url.Rooted

/- Queries. A text with a slash in front that is read relative to a URL brings the query
   that stands behind its first question mark, whatever the URL is (`parse?_rooted_query`).
   Canonical form collapses the slashes of that query too, and changes nothing else of it
   (`query_canonical`). The query of a URL that has been read holds nothing that the setter
   would escape again, but for an apostrophe (`Parsed.isClear`). -/
namespace Gateway.Url

/-- The query of a URL; one that is missing is empty. -/
def queryText (u : Url) : String := u.query.getD ""

/-- A part of a text as it is read: without ignored characters, and at the end of the text
    also without the controls and spaces there. -/
def readPart (isLast : Bool) (s : List Char) : List Char :=
  (if isLast then trimEnd s else s).filter fun c => !isDropped c

/-! ## The parts of a text -/

theorem cutAtChar_append {c : Char} {s : List Char} (h : c ∉ s) (t : List Char) :
    cutAtChar c (s ++ c :: t) = (s, some t) := by
  induction s with
  | nil => simp [cutAtChar]
  | cons a rest ih =>
    have hne : a ≠ c := Ne.symm (List.ne_of_not_mem_cons h)
    simp [cutAtChar, hne, ih (List.not_mem_of_not_mem_cons h)]

theorem parts_of_not_mem {s : List Char} (h : '#' ∉ s) :
    Parts.of s = ⟨(cutAtChar '?' s).1, (cutAtChar '?' s).2, none⟩ := by
  rw [Parts.of, cutAtChar_of_not_mem h]

theorem parts_append {s : List Char} (h : '#' ∉ s) (t : List Char) :
    Parts.of (s ++ '#' :: t) = ⟨(cutAtChar '?' s).1, (cutAtChar '?' s).2, some t⟩ := by
  rw [Parts.of, cutAtChar_append h]

/-- The query of a text stands between the first question mark and the number sign behind
    it, or the end. -/
theorem parts_query_eq_some_iff {s q : List Char} :
    (Parts.of s).query = some q ↔ ∃ main ending, s = main ++ '?' :: (q ++ ending) ∧
      '?' ∉ main ∧ '#' ∉ main ∧ '#' ∉ q ∧ (ending = [] ∨ ∃ t, ending = '#' :: t) := by
  constructor
  · intro h
    by_cases hhash : '#' ∈ s
    · obtain ⟨front, fragment, rfl, hfront⟩ := List.eq_append_cons_of_mem hhash
      rw [parts_append hfront] at h
      by_cases hquestion : '?' ∈ front
      · obtain ⟨main, r, rfl, hmain⟩ := List.eq_append_cons_of_mem hquestion
        rw [cutAtChar_append hmain] at h
        obtain rfl : r = q := Option.some.inj h
        have hnone : '#' ∉ main ∧ '#' ∉ r := by simpa using hfront
        exact ⟨main, '#' :: fragment, by simp, hmain, hnone.1, hnone.2, .inr ⟨fragment, rfl⟩⟩
      · rw [cutAtChar_of_not_mem hquestion] at h
        cases h
    · rw [parts_of_not_mem hhash] at h
      by_cases hquestion : '?' ∈ s
      · obtain ⟨main, r, rfl, hmain⟩ := List.eq_append_cons_of_mem hquestion
        rw [cutAtChar_append hmain] at h
        obtain rfl : r = q := Option.some.inj h
        have hnone : '#' ∉ main ∧ '#' ∉ r := by simpa using hhash
        exact ⟨main, [], by simp, hmain, hnone.1, hnone.2, .inl rfl⟩
      · rw [cutAtChar_of_not_mem hquestion] at h
        cases h
  · rintro ⟨main, ending, rfl, hquestion, hmain, hq, hending⟩
    have hfront : '#' ∉ main ++ '?' :: q := by simp [hmain, hq]
    rcases hending with rfl | ⟨t, rfl⟩
    · rw [List.append_nil, parts_of_not_mem hfront, cutAtChar_append hquestion]
    · rw [← List.cons_append, ← List.append_assoc, parts_append hfront,
        cutAtChar_append hquestion]

/-! ## Canonical form -/

theorem trimEnd_append {c : Char} (hc : isEdge c = false) (s t : List Char) :
    trimEnd (s ++ c :: t) = s ++ c :: trimEnd t := by
  have hstop : (c :: s.reverse).dropWhile isEdge = c :: s.reverse := by simp [hc]
  rw [trimEnd, List.reverse_append, List.reverse_cons, List.append_assoc, List.singleton_append,
    List.dropWhile_append]
  split
  · next hempty =>
    rw [hstop, trimEnd, List.isEmpty_iff.mp hempty]
    simp
  · simp [trimEnd]

theorem mem_of_mem_clean {c : Char} {s : List Char} (h : c ∈ clean s) : c ∈ s := by
  have hend := List.mem_reverse.mp (List.mem_filter.mp h).1
  have hstart := List.mem_reverse.mp ((List.dropWhile_sublist isEdge).subset hend)
  exact (List.dropWhile_sublist isEdge).subset hstart

/-- A text in canonical form is read in two parts, if it is cut at a character that ends
    what is before it. -/
theorem clean_canonical_append {c : Char} (hslash : c ≠ '/') (hedge : isEdge c = false)
    (hkept : isDropped c = false) (s t : List Char) :
    clean (RequestPath.canonical (s ++ c :: t)) =
      readPart false (RequestPath.canonical s) ++ c :: readPart true (RequestPath.collapse t) := by
  obtain ⟨rest, hrest, _⟩ := RequestPath.canonical_eq_cons s
  rw [RequestPath.canonical_append hslash, hrest, List.cons_append, clean_slash,
    trimEnd_append hedge, List.filter_append, List.filter_cons, hkept]
  rfl

theorem not_mem_readPart {c : Char} (hslash : c ≠ '/') {s : List Char} (h : c ∉ s) :
    c ∉ readPart false (RequestPath.canonical s) := fun hm =>
  h (RequestPath.mem_canonical hslash (List.mem_filter.mp hm).1)

/-- The query of a text in canonical form is that of the text, collapsed. -/
theorem query_canonical (s : List Char) :
    (Parts.of (clean (RequestPath.canonical s))).query =
      (Parts.of s).query.map fun q =>
        readPart (Parts.of s).fragment.isNone (RequestPath.collapse q) := by
  by_cases hhash : '#' ∈ s
  · -- the text before the number sign is not at the end
    obtain ⟨front, fragment, rfl, hfront⟩ := List.eq_append_cons_of_mem hhash
    rw [clean_canonical_append (by decide) (by decide) (by decide), parts_append hfront,
      parts_append (not_mem_readPart (by decide) hfront)]
    by_cases hquestion : '?' ∈ front
    · obtain ⟨main, q, rfl, hmain⟩ := List.eq_append_cons_of_mem hquestion
      have hread : readPart false (RequestPath.canonical (main ++ '?' :: q)) =
          readPart false (RequestPath.canonical main) ++
            '?' :: readPart false (RequestPath.collapse q) := by
        rw [RequestPath.canonical_append (by decide)]
        exact List.filter_append _ _
      rw [hread, cutAtChar_append hmain, cutAtChar_append (not_mem_readPart (by decide) hmain)]
      rfl
    · rw [cutAtChar_of_not_mem hquestion,
        cutAtChar_of_not_mem (not_mem_readPart (by decide) hquestion)]
      rfl
  · have hclean : '#' ∉ clean (RequestPath.canonical s) := fun hm =>
      hhash (RequestPath.mem_canonical (by decide) (mem_of_mem_clean hm))
    rw [parts_of_not_mem hhash, parts_of_not_mem hclean]
    by_cases hquestion : '?' ∈ s
    · obtain ⟨main, q, rfl, hmain⟩ := List.eq_append_cons_of_mem hquestion
      rw [clean_canonical_append (by decide) (by decide) (by decide), cutAtChar_append hmain,
        cutAtChar_append (not_mem_readPart (by decide) hmain)]
      rfl
    · have hclean : '?' ∉ clean (RequestPath.canonical s) := fun hm =>
        hquestion (RequestPath.mem_canonical (by decide) (mem_of_mem_clean hm))
      rw [cutAtChar_of_not_mem hquestion, cutAtChar_of_not_mem hclean]
      rfl

/-! ## Where the query of a URL comes from -/

section
variable {s : List Char} {query fragment : Option String} {base u : Url}

theorem readFromAuthority_query {scheme : String}
    (h : readFromAuthority scheme s query fragment = some u) : u.query = query := by
  obtain ⟨a, rfl⟩ := readFromAuthority_eq h
  rfl

/-- Only the empty text takes over the query of its base. -/
theorem readRelative_query (hs : s ≠ []) (h : readRelative base s query fragment = some u) :
    u.query = query := by
  unfold readRelative at h
  dsimp only at h
  split at h
  · exact absurd rfl hs
  · split at h
    · split at h
      · split at h
        · exact readFromAuthority_query h
        · split at h
          · exact readFromAuthority_query h
          · obtain rfl := Option.some.inj h; rfl
      · obtain rfl := Option.some.inj h; rfl
    · obtain rfl := Option.some.inj h; rfl

theorem readFileHost_query (h : readFileHost s query fragment = some u) : u.query = query := by
  unfold readFileHost at h
  dsimp only at h
  split at h
  · obtain rfl := Option.some.inj h; rfl
  · split at h
    · obtain rfl := Option.some.inj h; rfl
    · obtain ⟨a, _, rfl⟩ := Option.map_eq_some_iff.mp h
      rfl

theorem readFile_query {base : Option Url} (hs : s ≠ [])
    (h : readFile base s query fragment = some u) : u.query = query := by
  unfold readFile at h
  dsimp only at h
  split at h
  · exact absurd rfl hs
  · split at h
    · split at h
      · split at h
        · exact readFileHost_query h
        · obtain rfl := Option.some.inj h; rfl
      · obtain rfl := Option.some.inj h; rfl
    · split at h
      · obtain rfl := Option.some.inj h; rfl
      · obtain rfl := Option.some.inj h; rfl

theorem readOther_query {scheme : String} (h : readOther scheme s query fragment = some u) :
    u.query = query := by
  unfold readOther at h
  split at h
  · exact readFromAuthority_query h
  · obtain rfl := Option.some.inj h; rfl
  · obtain rfl := Option.some.inj h; rfl

/-- A text with a slash in front has the scheme of its base and the query that it brings,
    whatever the base is. -/
theorem parse?_rooted_query {text : String} {rest : List Char} (htext : text.toList = '/' :: rest)
    (h : parse? text (some base) = some u) :
    u.scheme = base.scheme ∧ u.query = queryPart base text := by
  have hmain : (Parts.of (clean text.toList)).main = '/' :: (mainPart text).tail := by
    show mainPart text = _
    rw [mainPart_rooted htext]
    rfl
  have hrelative {query fragment : Option String}
      (h : readRelative base ('/' :: (mainPart text).tail) query fragment = some u) :
      u.scheme = base.scheme ∧ u.query = query :=
    ⟨readRelative_scheme h, readRelative_query (by simp) h⟩
  simp only [parse?, readClean, hmain, scheme?_slash, Option.bind_some] at h
  rw [readWithoutScheme, hmain] at h
  split at h
  · split at h
    · exact hrelative h
    · cases h
  · split at h
    · next hfile =>
      rw [hfile]
      exact ⟨readFile_scheme h, readFile_query (by simp) h⟩
    · exact hrelative h

/-- The query of what is read is the one that the text brings, or else that of its base. -/
def FromQuery (query : Option String) (base : Option Url) (u : Url) : Prop :=
  u.query = query ∨ ∃ b, base = some b ∧ u.query = query.or (inheritedQuery b)

theorem readRelative_fromQuery (h : readRelative base s query fragment = some u) :
    FromQuery query (some base) u := by
  by_cases hs : s = []
  · subst hs
    obtain rfl := Option.some.inj h
    exact .inr ⟨base, rfl, rfl⟩
  · exact .inl (readRelative_query hs h)

theorem readFile_fromQuery {base : Option Url} (h : readFile base s query fragment = some u) :
    FromQuery query base u := by
  by_cases hs : s = []
  · subst hs
    unfold readFile at h
    dsimp only at h
    split at h
    · next b hb =>
      obtain rfl := Option.some.inj h
      exact .inr ⟨b, (Option.filter_eq_some_iff.mp hb).1, rfl⟩
    · obtain rfl := Option.some.inj h
      exact .inl rfl
  · exact .inl (readFile_query hs h)

theorem readAfterScheme_fromQuery {base : Option Url} {scheme : String}
    (h : readAfterScheme base scheme s query fragment = some u) : FromQuery query base u := by
  unfold readAfterScheme at h
  split at h
  · exact readFile_fromQuery h
  · split at h
    · split at h
      · next b hb =>
        obtain rfl : base = some b := (Option.filter_eq_some_iff.mp hb).1
        split at h
        · exact .inl (readFromAuthority_query h)
        · exact readRelative_fromQuery h
      · exact .inl (readFromAuthority_query h)
    · exact .inl (readOther_query h)

theorem readWithoutScheme_fromQuery {p : Parts} (h : readWithoutScheme base p = some u) :
    FromQuery (p.query.map (keptQuery base.scheme)) (some base) u := by
  unfold readWithoutScheme at h
  dsimp only at h
  split at h
  · split at h
    · unfold readBeside at h
      split at h
      · exact readRelative_fromQuery h
      · exact readRelative_fromQuery h
      · cases h
    · cases h
  · split at h
    · exact readFile_fromQuery h
    · exact readRelative_fromQuery h

theorem parse?_fromQuery {text : String} {base : Option Url} (h : parse? text base = some u) :
    ∃ scheme, FromQuery ((Parts.of (clean text.toList)).query.map (keptQuery scheme)) base u := by
  unfold parse? readClean at h
  dsimp only at h
  split at h
  · exact ⟨_, readAfterScheme_fromQuery h⟩
  · obtain ⟨b, rfl, hread⟩ := Option.bind_eq_some_iff.mp h
    exact ⟨_, readWithoutScheme_fromQuery hread⟩

end

/-! ## What a query consists of -/

/-- The text holds no character that every query escapes. -/
def IsClear (s : List Char) : Prop := ∀ c ∈ s, inQuerySet c = false

theorem isClear_nil : IsClear [] := by simp [IsClear]

theorem isClear_keptQuery (scheme : String) (s : List Char) :
    IsClear (keptQuery scheme s).toList := by
  intro c hc
  rw [keptQuery, String.toList_ofList] at hc
  split at hc
  · have hout := isQuery_encode s c hc
    simp only [inSpecialQuerySet, Bool.or_eq_false_iff] at hout
    exact hout.1
  · exact not_mem_encode (by decide) (by decide) c hc

theorem queryText_eq_of_some {u : Url} {q : String} (h : u.query = some q) : u.queryText = q := by
  rw [queryText, h]
  rfl

/-- The query of a URL that has been read is clear. -/
theorem Parsed.isClear {u : Url} (h : Parsed u) : IsClear u.queryText.toList := by
  -- by induction on how the URL came about: it has a query of its own or that of its base
  have hread {query : Option (List Char)} {scheme : String} {base : Option Url} {u : Url}
      (hbase : ∀ b, base = some b → IsClear b.queryText.toList)
      (h : FromQuery (query.map (keptQuery scheme)) base u) : IsClear u.queryText.toList := by
    cases query with
    | some q =>
      have hsome : u.query = some (keptQuery scheme q) := by
        rcases h with h | ⟨b, _, h⟩ <;> exact h
      rw [queryText_eq_of_some hsome]
      exact isClear_keptQuery scheme q
    | none =>
      rcases h with h | ⟨b, hb, h⟩
      · rw [queryText, h]
        exact isClear_nil
      · rw [queryText, h, Option.map_none, Option.none_or, inheritedQuery]
        cases hq : b.query.filter (· != "") with
        | none => exact isClear_nil
        | some q =>
          have hbase := hbase b hb
          rwa [queryText_eq_of_some (Option.filter_eq_some_iff.mp hq).1] at hbase
  induction h with
  | alone h =>
    obtain ⟨scheme, hfrom⟩ := parse?_fromQuery h
    exact hread (fun b hb => by cases hb) hfrom
  | relative _ h ih =>
    obtain ⟨scheme, hfrom⟩ := parse?_fromQuery h
    exact hread (fun b hb => Option.some.inj hb ▸ ih) hfrom
  | searched _ search ih =>
    unfold Url.withSearch
    split
    · exact isClear_nil
    · exact isClear_keptQuery _ _

theorem encode_eq_nil {set : Char → Bool} {s : List Char} : encode set s = [] ↔ s = [] := by
  constructor
  · intro h
    cases s with
    | nil => rfl
    | cons c rest =>
      have hbytes : String.utf8EncodeChar c ≠ [] := by
        rw [← List.length_pos_iff, String.length_utf8EncodeChar]
        exact c.utf8Size_pos
      have hfirst := (List.append_eq_nil_iff.mp h).1
      dsimp only at hfirst
      split at hfirst
      · obtain ⟨b, more, hb⟩ := List.exists_cons_of_ne_nil hbytes
        rw [hb] at hfirst
        cases hfirst
      · cases hfirst
  · rintro rfl
    rfl

theorem slash_ne_hexDigit : ∀ n < 16, '/' ≠ hexDigit n := by decide

/-- Escaping leaves as many slashes as there were. -/
theorem count_encode {set : Char → Bool} (hset : set '/' = false) (s : List Char) :
    (encode set s).count '/' = s.count '/' := by
  induction s with
  | nil => rfl
  | cons c rest ih =>
    have hfirst : (encode set [c]).count '/' = [c].count '/' := by
      by_cases hc : set c = true
      · have hne : c ≠ '/' := by
          rintro rfl
          rw [hset] at hc
          cases hc
        have hout : '/' ∉ encode set [c] := by
          intro hm
          rcases mem_encode hm with ⟨hm, _⟩ | hm | ⟨n, hn, hm⟩
          · exact hne (List.mem_singleton.mp hm).symm
          · exact absurd hm (by decide)
          · exact absurd hm (slash_ne_hexDigit n hn)
        rw [List.count_eq_zero.mpr hout]
        simp [hne]
      · rw [encode_of_forall (by simpa using hc)]
    have hsplit : encode set (c :: rest) = encode set [c] ++ encode set rest := by
      rw [encode, encode, encode, ← List.flatMap_append, List.singleton_append]
    rw [hsplit, List.count_append, hfirst, ih, ← List.count_append, List.singleton_append]

theorem count_readPart (isLast : Bool) (s : List Char) :
    (readPart isLast s).count '/' = s.count '/' := by
  have htrim : (trimEnd s).count '/' = s.count '/' := by
    -- what is trimmed is no slash
    have hedge : (s.reverse.takeWhile isEdge).count '/' = 0 := by
      refine List.count_eq_zero.mpr fun hm => ?_
      exact absurd (List.all_eq_true.mp List.all_takeWhile _ hm) (by decide)
    have hsplit := congrArg (List.count '/')
      (List.takeWhile_append_dropWhile (p := isEdge) (l := s.reverse))
    rw [List.count_append, hedge, Nat.zero_add, List.count_reverse] at hsplit
    rw [trimEnd, List.count_reverse, hsplit]
  rw [readPart, List.count_filter (by decide)]
  cases isLast with
  | true => exact htrim
  | false => rfl

/-- A query is kept as it was before it was collapsed exactly if there was nothing to collapse. -/
theorem keptQuery_collapse_eq_iff (scheme : String) (isLast : Bool) (q : List Char) :
    keptQuery scheme (readPart isLast (RequestPath.collapse q)) =
      keptQuery scheme (readPart isLast q) ↔ RequestPath.IsCollapsed q := by
  constructor
  · intro h
    -- a slash that is gone is missing in what is kept
    have hcount := congrArg (List.count '/') (String.ofList_inj.mp h)
    rw [count_encode (by split <;> decide), count_encode (by split <;> decide), count_readPart,
      count_readPart] at hcount
    exact RequestPath.isCollapsed_of_count hcount
  · intro h
    rw [h.collapse_eq]

theorem keptQuery_eq_empty_iff {scheme : String} {q : List Char} :
    keptQuery scheme q = "" ↔ q = [] := by
  rw [keptQuery, ← String.toList_inj, String.toList_ofList]
  exact encode_eq_nil

theorem keptQuery_eq_self_iff {scheme q : String} (h : IsClear q.toList) :
    keptQuery scheme q.toList = q ↔ (isSpecialScheme scheme = true → '\'' ∉ q.toList) := by
  constructor
  · intro hkept hs hm
    rw [← hkept] at hm
    exact absurd (isQuery_keptQuery hs q.toList _ hm) (by decide)
  · intro hout
    rw [keptQuery, encode_of_forall, String.ofList_toList]
    intro c hc
    split
    · next hs =>
      have hne : c ≠ '\'' := fun heq => hout hs (heq ▸ hc)
      simp [inSpecialQuerySet, h c hc, hne]
    · exact h c hc

/-! ## The setter -/

theorem search_eq_empty_iff {u : Url} : u.search = "" ↔ u.queryText = "" := by
  unfold search queryText
  cases u.query with
  | none => simp
  | some q => by_cases hq : q = "" <;> simp [hq]

theorem queryText_withSearch {v : Url} (hv : IsClear v.queryText.toList) (u : Url) :
    (u.withSearch v.search).queryText = keptQuery u.scheme v.queryText.toList := by
  by_cases hempty : v.queryText = ""
  · rw [search_eq_empty_iff.mpr hempty, hempty]
    rfl
  · have hkept : (v.queryText.toList.filter fun c => !isDropped c) = v.queryText.toList := by
      rw [List.filter_eq_self]
      intro c hc
      have hle : ¬ c.toNat ≤ 0x20 := by
        intro hle
        have hout := hv c hc
        rw [inQuerySet_of_le hle] at hout
        cases hout
      rw [isDropped_eq_false hle]
      rfl
    have hsearch : v.search = "?" ++ v.queryText := by
      unfold queryText at hempty
      unfold search queryText
      cases hq : v.query with
      | none => simp [hq] at hempty
      | some q =>
        have hne : q ≠ "" := by simpa [hq] using hempty
        simp [hne]
    rw [hsearch, withSearch, show ("?" ++ v.queryText).toList = '?' :: v.queryText.toList by simp]
    simp only [if_true, hkept]
    rfl

end Gateway.Url
