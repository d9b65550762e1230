import Gateway.RequestPath

/- The canonical form of a request path. Collapsing keeps the first character, takes no
   character in and leaves no slash behind another one, so a canonical path is a slash
   and a text that does not begin with one (`canonical_eq_cons`), and the texts with a
   slash in front and none behind another are in canonical form (`canonical_eq_self_iff`). -/
namespace Gateway.RequestPath

/-- No slash follows another one. -/
def IsCollapsed : List Char → Prop
  | c :: d :: rest => ¬ (c = '/' ∧ d = '/') ∧ IsCollapsed (d :: rest)
  | _ => True

theorem head?_collapse (s : List Char) : (collapse s).head? = s.head? := by
  fun_induction collapse s with
  | case1 => rfl
  | case2 c => rfl
  | case3 c d rest h ih => rw [ih, h.1, h.2]; rfl
  | case4 c d rest h ih => rfl

theorem mem_of_mem_collapse {c : Char} {s : List Char} (h : c ∈ collapse s) : c ∈ s := by
  fun_induction collapse s with
  | case1 => exact h
  | case2 d => exact h
  | case3 a b rest _ ih => exact List.mem_cons_of_mem a (ih h)
  | case4 a b rest _ ih =>
    rcases List.mem_cons.mp h with rfl | h
    · exact List.mem_cons_self
    · exact List.mem_cons_of_mem a (ih h)

/-- A collapsed text is still one behind a character, if not both begin with a slash. -/
theorem IsCollapsed.cons {c : Char} {s : List Char} (hs : IsCollapsed s)
    (h : ¬ (c = '/' ∧ s.head? = some '/')) : IsCollapsed (c :: s) := by
  cases s with
  | nil => trivial
  | cons d rest =>
    refine ⟨?_, hs⟩
    rintro ⟨hc, hd⟩
    exact h ⟨hc, by rw [hd]; rfl⟩

theorem isCollapsed_collapse (s : List Char) : IsCollapsed (collapse s) := by
  fun_induction collapse s with
  | case1 => trivial
  | case2 c => trivial
  | case3 c d rest _ ih => exact ih
  | case4 c d rest h ih =>
    -- what follows `c` may have lost characters, but not its first one
    refine ih.cons ?_
    rw [head?_collapse]
    rintro ⟨hc, hd⟩
    exact h ⟨hc, Option.some.inj hd⟩

theorem IsCollapsed.tail_head? {s : List Char} (h : IsCollapsed ('/' :: s)) :
    s.head? ≠ some '/' := by
  cases s with
  | nil => simp
  | cons d rest =>
    intro hd
    exact h.1 ⟨rfl, Option.some.inj hd⟩

theorem IsCollapsed.of_cons {c : Char} {s : List Char} (h : IsCollapsed (c :: s)) :
    IsCollapsed s := by
  cases s with
  | nil => trivial
  | cons d rest => exact h.2

theorem IsCollapsed.of_append {s t : List Char} (h : IsCollapsed (s ++ t)) : IsCollapsed t := by
  induction s with
  | nil => exact h
  | cons c s ih => exact ih h.of_cons

/-- Rooting adds a slash in front of a text that begins otherwise, and changes no other. -/
theorem rooted_cases (s : List Char) :
    rooted s = s ∧ s.head? = some '/' ∨ rooted s = '/' :: s ∧ s.head? ≠ some '/' := by
  unfold rooted
  split
  · exact .inl ⟨rfl, rfl⟩
  · next hslash =>
    refine .inr ⟨rfl, ?_⟩
    intro hhead
    cases s with
    | nil => cases hhead
    | cons c rest => exact hslash rest (by rw [Option.some.inj hhead])

theorem isCollapsed_canonical (s : List Char) : IsCollapsed (canonical s) := by
  unfold canonical
  rcases rooted_cases (collapse s) with ⟨h, _⟩ | ⟨h, hhead⟩
  · rw [h]
    exact isCollapsed_collapse s
  · rw [h]
    exact (isCollapsed_collapse s).cons fun hboth => hhead hboth.2

theorem canonical_eq_cons (s : List Char) :
    ∃ rest, canonical s = '/' :: rest ∧ rest.head? ≠ some '/' := by
  have hcollapsed := isCollapsed_canonical s
  obtain ⟨rest, hrest⟩ : ∃ rest, canonical s = '/' :: rest := by
    unfold canonical
    rcases rooted_cases (collapse s) with ⟨h, hhead⟩ | ⟨h, _⟩
    · rw [h]
      cases hs : collapse s with
      | nil => rw [hs] at hhead; cases hhead
      | cons c rest =>
        rw [hs] at hhead
        exact ⟨rest, by rw [Option.some.inj hhead]⟩
    · exact ⟨_, h⟩
  rw [hrest] at hcollapsed
  exact ⟨rest, hrest, hcollapsed.tail_head?⟩

@[simp] theorem toList_normalize (path : String) :
    (normalize path).toList = canonical path.toList := by
  simp [normalize]

theorem isCollapsed_of_normalize {path : String} (h : normalize path = path) :
    IsCollapsed path.toList := by
  rw [← h, toList_normalize]
  exact isCollapsed_canonical path.toList

/-! ## Texts in canonical form -/

theorem IsCollapsed.collapse_eq {s : List Char} (h : IsCollapsed s) : collapse s = s := by
  fun_induction collapse s with
  | case1 => rfl
  | case2 c => rfl
  | case3 c d rest hslash _ => exact absurd hslash h.1
  | case4 c d rest _ ih => rw [ih h.2]

theorem isCollapsed_iff {s : List Char} : IsCollapsed s ↔ ¬['/', '/'] <:+: s := by
  induction s with
  | nil => exact iff_of_true trivial (by decide)
  | cons c rest ih =>
    rw [List.infix_cons_iff, not_or]
    cases rest with
    | nil =>
      have hshort : ¬['/', '/'] <+: [c] := by simp
      have hnil : ¬['/', '/'] <:+: [] := by decide
      exact iff_of_true trivial ⟨hshort, hnil⟩
    | cons d rest =>
      have hfront : ['/', '/'] <+: c :: d :: rest ↔ c = '/' ∧ d = '/' := by
        rw [List.cons_prefix_cons, List.cons_prefix_cons]
        simp [eq_comm]
      rw [hfront, ← ih]
      rfl

/-- The texts in canonical form. -/
theorem canonical_eq_self_iff {s : List Char} :
    canonical s = s ↔ s.head? = some '/' ∧ ¬['/', '/'] <:+: s := by
  constructor
  · intro h
    obtain ⟨rest, hrest, -⟩ := canonical_eq_cons s
    have hhead : s.head? = some '/' := by
      rw [← h, hrest]
      rfl
    exact ⟨hhead, isCollapsed_iff.mp (h ▸ isCollapsed_canonical s)⟩
  · intro h
    obtain ⟨hhead, hslashes⟩ := h
    rw [canonical, (isCollapsed_iff.mpr hslashes).collapse_eq]
    rcases rooted_cases s with ⟨hrooted, -⟩ | ⟨-, hother⟩
    · exact hrooted
    · exact absurd hhead hother

theorem normalize_eq_self_iff {path : String} :
    normalize path = path ↔ path.toList.head? = some '/' ∧ ¬['/', '/'] <:+: path.toList := by
  rw [← canonical_eq_self_iff, ← toList_normalize, String.toList_inj]

/-! ## Canonical form of a part of a text -/

/-- A text collapses to one that has as many slashes only if it is collapsed already. -/
theorem isCollapsed_of_count {s : List Char} (h : (collapse s).count '/' = s.count '/') :
    IsCollapsed s := by
  have hle (s : List Char) : (collapse s).count '/' ≤ s.count '/' := by
    fun_induction collapse s with
    | case1 => exact Nat.le_refl _
    | case2 c => exact Nat.le_refl _
    | case3 c d rest _ ih => exact Nat.le_trans ih List.count_le_count_cons
    | case4 c d rest _ ih =>
      rw [List.count_cons, List.count_cons (b := c)]
      exact Nat.add_le_add_right ih _
  fun_induction collapse s with
  | case1 => trivial
  | case2 c => trivial
  | case3 c d rest hslash _ =>
    -- a slash has gone, so one is missing
    have hrest := hle (d :: rest)
    rw [List.count_cons (b := c), hslash.1] at h
    simp only [beq_self_eq_true, if_true] at h
    omega
  | case4 c d rest hslash ih =>
    rw [List.count_cons, List.count_cons (b := c)] at h
    exact ⟨hslash, ih (Nat.add_right_cancel h)⟩

/-- A slash is never lost altogether. -/
theorem isCollapsed_of_not_mem {s : List Char} (h : '/' ∉ collapse s) : IsCollapsed s := by
  fun_induction collapse s with
  | case1 => trivial
  | case2 c => trivial
  | case3 c d rest hslash _ =>
    refine absurd (List.mem_of_head? ?_) h
    rw [head?_collapse, hslash.2]
    rfl
  | case4 c d rest hslash ih => exact ⟨hslash, ih (List.not_mem_of_not_mem_cons h)⟩

/-- What stands behind another character than a slash collapses for itself. -/
theorem collapse_append {c : Char} (hc : c ≠ '/') (s t : List Char) :
    collapse (s ++ c :: t) = collapse s ++ c :: collapse t := by
  have hcons (t : List Char) : collapse (c :: t) = c :: collapse t := by
    cases t with
    | nil => rfl
    | cons d rest => rw [collapse, if_neg fun h => hc h.1]
  fun_induction collapse s with
  | case1 => exact hcons t
  | case2 a =>
    rw [List.cons_append, List.nil_append, collapse, if_neg fun h => hc h.2, hcons]
    rfl
  | case3 a b rest h ih =>
    rw [← ih, List.cons_append, List.cons_append, collapse, if_pos h]
  | case4 a b rest h ih =>
    rw [List.cons_append, List.cons_append, collapse, if_neg h, ← List.cons_append, ih]
    rfl

theorem rooted_append {c : Char} (hc : c ≠ '/') (s t : List Char) :
    rooted (s ++ c :: t) = rooted s ++ c :: t := by
  cases s with
  | nil => simp [rooted, hc]
  | cons a rest => by_cases ha : a = '/' <;> simp [rooted, ha]

theorem canonical_append {c : Char} (hc : c ≠ '/') (s t : List Char) :
    canonical (s ++ c :: t) = canonical s ++ c :: collapse t := by
  rw [canonical, collapse_append hc, rooted_append hc]
  rfl

/-- The first character stays in front. -/
theorem collapse_cons (c : Char) (s : List Char) :
    collapse (c :: s) = c :: (collapse (c :: s)).tail := by
  have hhead := head?_collapse (c :: s)
  cases hcollapse : collapse (c :: s) with
  | nil =>
    rw [hcollapse] at hhead
    cases hhead
  | cons d rest =>
    rw [hcollapse] at hhead
    exact congrArg (· :: rest) (Option.some.inj hhead)

/-- What stands behind a slash collapses with that slash. -/
theorem collapse_append_of_isCollapsed {s : List Char} (h : IsCollapsed s)
    (hlast : s.getLast? = some '/') (t : List Char) :
    collapse (s ++ t) = s ++ (collapse ('/' :: t)).tail := by
  induction s with
  | nil => cases hlast
  | cons c s ih =>
    cases s with
    | nil =>
      obtain rfl : c = '/' := Option.some.inj hlast
      exact collapse_cons _ t
    | cons d rest =>
      rw [List.getLast?_cons_cons] at hlast
      rw [List.cons_append, List.cons_append, collapse, if_neg h.1, ← List.cons_append, ih h.2 hlast]
      rfl

/-- A canonical path that ends with a slash stays in front of what is put behind it. -/
theorem canonical_append_of_getLast? {dir : List Char} (h : canonical dir = dir)
    (hlast : dir.getLast? = some '/') (t : List Char) :
    canonical (dir ++ t) = dir ++ (collapse ('/' :: t)).tail := by
  obtain ⟨rest, hrest, -⟩ := canonical_eq_cons dir
  have hcollapsed : IsCollapsed dir := h ▸ isCollapsed_canonical dir
  rw [canonical, collapse_append_of_isCollapsed hcollapsed hlast, ← h, hrest]
  rfl

/-- What a collapsed text has behind one of its slashes is a path without the slash in front. -/
theorem canonical_of_append {s t : List Char} (h : IsCollapsed (s ++ t))
    (hlast : s.getLast? = some '/') : canonical t = '/' :: t := by
  obtain ⟨front, rfl⟩ := List.getLast?_eq_some_iff.mp hlast
  rw [List.append_assoc] at h
  have hslash : IsCollapsed ('/' :: t) := h.of_append
  rw [canonical, hslash.of_cons.collapse_eq]
  rcases rooted_cases t with ⟨-, hhead⟩ | ⟨hroot, -⟩
  · exact absurd hhead hslash.tail_head?
  · exact hroot

theorem mem_canonical {c : Char} (hc : c ≠ '/') {s : List Char} (h : c ∈ canonical s) : c ∈ s := by
  unfold canonical at h
  rcases rooted_cases (collapse s) with ⟨hroot, _⟩ | ⟨hroot, _⟩
  · rw [hroot] at h
    exact mem_of_mem_collapse h
  · rw [hroot] at h
    exact mem_of_mem_collapse ((List.mem_cons.mp h).resolve_left hc)

end Gateway.RequestPath
