import Gateway.Proofs.RequestPath

/- What the canonical form of a path keeps. A path is cut at its slashes, and empty pieces do not
   count: what is left are its segments. The canonical form is written from these and from whether
   the path ends with a slash (`canonical_eq_flatMap`), and both can be read off it again. So two
   paths have one canonical form exactly if they agree in both, and it does not matter whether the
   parts of a path have been brought into that form before (`normalize_canonicalizes`). -/
namespace Gateway.RequestPath

/-- The pieces of a path between its slashes that are not empty. -/
def segments (s : List Char) : List (List Char) := (s.splitOn '/').filter (· ≠ [])

/-- What the canonical form of a path has behind the segments. -/
def ending (s : List Char) : List Char := if s = [] ∨ s.getLast? = some '/' then ['/'] else []

/-- A path is one name, or a name and a path behind a slash. The name may be empty. -/
theorem path_induction {motive : List Char → Prop} (name : ∀ s, '/' ∉ s → motive s)
    (slash : ∀ front rest, '/' ∉ front → motive rest → motive (front ++ '/' :: rest))
    (s : List Char) : motive s := by
  induction hn : s.length using Nat.strongRecOn generalizing s with
  | _ n ih =>
    by_cases h : '/' ∈ s
    · obtain ⟨front, rest, rfl, hfront⟩ := List.eq_append_cons_of_mem h
      rw [List.length_append, List.length_cons] at hn
      exact slash front rest hfront (ih rest.length (by omega) rest rfl)
    · exact name s h

/-! ## Segments and ending -/

theorem segments_append_slash (s t : List Char) :
    segments (s ++ '/' :: t) = segments s ++ segments t := by
  rw [segments, List.splitOn_append_cons_self, List.filter_append]
  rfl

theorem segments_slash (s : List Char) : segments ('/' :: s) = segments s :=
  segments_append_slash [] s

theorem segments_name {name : List Char} (h : '/' ∉ name) (hne : name ≠ []) :
    segments name = [name] := by
  simp [segments, List.splitOn_eq_singleton h, hne]

/-- Only the part behind the last slash decides how a path ends. -/
theorem ending_append_slash (s t : List Char) : ending (s ++ '/' :: t) = ending t := by
  cases t with
  | nil => simp [ending]
  | cons c rest => simp [ending, List.getLast?_append, List.getLast?_cons_cons]

theorem ending_name {name : List Char} (h : '/' ∉ name) (hne : name ≠ []) : ending name = [] := by
  have hlast : name.getLast? ≠ some '/' := fun hlast => h (List.mem_of_getLast? hlast)
  simp [ending, hne, hlast]

/-- A path without segments is empty or ends with a slash. -/
theorem ending_of_segments_eq_nil {s : List Char} (h : segments s = []) : ending s = ['/'] := by
  induction s using path_induction with
  | name s hs =>
    by_cases hne : s = []
    · rw [hne]
      rfl
    · rw [segments_name hs hne] at h
      cases h
  | slash front rest _ ih =>
    rw [segments_append_slash] at h
    rw [ending_append_slash]
    exact ih (List.append_eq_nil_iff.mp h).2

/-! ## The canonical form -/

/-- The canonical form is that of the path behind one more slash. -/
theorem collapse_slash (s : List Char) : collapse ('/' :: s) = canonical s := by
  cases s with
  | nil => rfl
  | cons c rest =>
    by_cases hc : c = '/'
    · subst hc
      rw [collapse, if_pos ⟨rfl, rfl⟩, canonical, collapse_cons]
      rfl
    · rw [collapse, if_neg fun h => hc h.2, canonical, collapse_cons, rooted]
      intro more h
      exact hc (List.cons.inj h).1

theorem canonical_slash (s : List Char) : canonical ('/' :: s) = canonical s := by
  rw [← collapse_slash, collapse, if_pos ⟨rfl, rfl⟩, collapse_slash]

theorem collapse_name_append {name : List Char} (h : '/' ∉ name) (s : List Char) :
    collapse (name ++ s) = name ++ collapse s := by
  induction name with
  | nil => rfl
  | cons c name ih =>
    have hc : c ≠ '/' := Ne.symm (List.ne_of_not_mem_cons h)
    have hcons := collapse_append hc [] (name ++ s)
    rw [ih (List.not_mem_of_not_mem_cons h)] at hcons
    exact hcons

theorem canonical_name_append {name : List Char} (h : '/' ∉ name) (hne : name ≠ [])
    (s : List Char) : canonical (name ++ s) = '/' :: (name ++ collapse s) := by
  obtain ⟨c, rest, rfl⟩ := List.exists_cons_of_ne_nil hne
  have hc : c ≠ '/' := Ne.symm (List.ne_of_not_mem_cons h)
  rw [canonical, collapse_name_append h, List.cons_append, rooted]
  intro more heq
  exact hc (List.cons.inj heq).1

/-- The canonical form is each segment behind a slash, and a slash behind them all if the path is
    empty or ends with one. -/
theorem canonical_eq_flatMap (s : List Char) :
    canonical s = (segments s).flatMap ('/' :: ·) ++ ending s := by
  induction s using path_induction with
  | name s hs =>
    by_cases hne : s = []
    · rw [hne]
      rfl
    · have hcanonical := canonical_name_append hs hne []
      rw [List.append_nil] at hcanonical
      rw [hcanonical, segments_name hs hne, ending_name hs hne]
      simp [collapse]
  | slash front rest hfront ih =>
    rw [segments_append_slash, ending_append_slash, List.flatMap_append, List.append_assoc, ← ih]
    by_cases hne : front = []
    · rw [hne]
      exact canonical_slash rest
    · rw [canonical_name_append hfront hne, collapse_slash, segments_name hfront hne]
      simp

/-- The canonical form has the segments of the path. -/
theorem segments_canonical (s : List Char) : segments (canonical s) = segments s := by
  induction s using path_induction with
  | name s hs =>
    by_cases hne : s = []
    · rw [hne]
      rfl
    · have hcanonical := canonical_name_append hs hne []
      rw [List.append_nil] at hcanonical
      rw [hcanonical, segments_slash, collapse, List.append_nil]
  | slash front rest hfront ih =>
    rw [segments_append_slash, ← ih]
    by_cases hne : front = []
    · rw [hne]
      exact congrArg segments (canonical_slash rest)
    · obtain ⟨more, hmore, -⟩ := canonical_eq_cons rest
      rw [canonical_name_append hfront hne, collapse_slash, hmore, segments_slash,
        segments_append_slash, segments_slash]

/-! ## Paths with one canonical form -/

/-- The paths have the same segments, and if there are any, both end with a slash or none does. -/
def SamePlace (s t : List Char) : Prop :=
  segments s = segments t ∧ (segments s ≠ [] → (s.getLast? = some '/' ↔ t.getLast? = some '/'))

theorem ne_nil_of_segments {s : List Char} (h : segments s ≠ []) : s ≠ [] := by
  rintro rfl
  exact h rfl

/-- For paths with segments, the ending says whether the last character is a slash. -/
theorem ending_eq_iff {s t : List Char} (hs : s ≠ []) (ht : t ≠ []) :
    ending s = ending t ↔ (s.getLast? = some '/' ↔ t.getLast? = some '/') := by
  by_cases hlast : s.getLast? = some '/' <;> by_cases hlast' : t.getLast? = some '/' <;>
    simp [ending, hs, ht, hlast, hlast']

theorem samePlace_iff {s t : List Char} :
    SamePlace s t ↔ segments s = segments t ∧ ending s = ending t := by
  refine and_congr_right fun hsame => ?_
  by_cases hnone : segments s = []
  · have hs := ending_of_segments_eq_nil hnone
    have ht := ending_of_segments_eq_nil (hsame ▸ hnone)
    exact iff_of_true (fun h => absurd hnone h) (hs.trans ht.symm)
  · have hs := ne_nil_of_segments hnone
    have ht := ne_nil_of_segments (hsame ▸ hnone)
    rw [ending_eq_iff hs ht]
    exact ⟨fun h => h hnone, fun h _ => h⟩

theorem canonical_eq_iff {s t : List Char} : canonical s = canonical t ↔ SamePlace s t := by
  rw [samePlace_iff]
  constructor
  · intro h
    have hsegments : segments s = segments t := by
      rw [← segments_canonical s, h, segments_canonical]
    rw [canonical_eq_flatMap, canonical_eq_flatMap, hsegments] at h
    exact ⟨hsegments, List.append_cancel_left h⟩
  · intro h
    rw [canonical_eq_flatMap, canonical_eq_flatMap, h.1, h.2]

theorem canonical_canonical (s : List Char) : canonical (canonical s) = canonical s := by
  obtain ⟨rest, hrest, -⟩ := canonical_eq_cons s
  rw [canonical_eq_self_iff]
  exact ⟨by rw [hrest]; rfl, isCollapsed_iff.mp (isCollapsed_canonical s)⟩

/-- Both parts of a path may be replaced by their canonical forms. -/
theorem samePlace_join (s t : List Char) :
    SamePlace (s ++ '/' :: t) (canonical s ++ '/' :: canonical t) := by
  -- a canonical form is at the place of the path it comes from
  have hplace := samePlace_iff.mp (canonical_eq_iff.mp (canonical_canonical t))
  rw [samePlace_iff, segments_append_slash, segments_append_slash, segments_canonical,
    segments_canonical, ending_append_slash, ending_append_slash, hplace.2]
  exact ⟨rfl, rfl⟩

/-- Normalizing gives a canonical form: a text with a slash in front and no doubled one, which
    normalizing leaves as it is. Two paths have the same one exactly if they have the same
    segments and, where there are any, end alike; so the parts of a path may be normalized before
    it is. -/
theorem normalize_canonicalizes (p q : String) :
    ((normalize p).toList.head? = some '/' ∧ ¬['/', '/'] <:+: (normalize p).toList ∧
      normalize (normalize p) = normalize p) ∧
    (normalize p = normalize q ↔ segments p.toList = segments q.toList ∧
      (segments p.toList ≠ [] → (p.toList.getLast? = some '/' ↔ q.toList.getLast? = some '/'))) ∧
    normalize (p ++ "/" ++ q) = normalize (normalize p ++ "/" ++ normalize q) := by
  have hfixed : normalize (normalize p) = normalize p := by
    rw [← String.toList_inj, toList_normalize, toList_normalize, canonical_canonical]
  have hform := normalize_eq_self_iff.mp hfixed
  refine ⟨⟨hform.1, hform.2, hfixed⟩, ?_, ?_⟩
  · rw [← String.toList_inj, toList_normalize, toList_normalize]
    exact canonical_eq_iff
  · rw [← String.toList_inj, toList_normalize, toList_normalize, canonical_eq_iff]
    simpa using samePlace_join p.toList q.toList

example : segments "//a///b/".toList = ["a".toList, "b".toList] := by decide

end Gateway.RequestPath
