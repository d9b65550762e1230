import Gateway.Text.Pieces
import Mathlib.Data.List.Infix

/- Cutting texts. At a single character the pieces are those of `List.splitOn`, and to replace
   a character is to replace each place where it stands (`replaceAll_singleton`). A part of a
   text is found in it (`contains_of_infix`), and what is written in front of a separator is cut
   off there again if it does not hold the first character of the separator
   (`cutFirst_append_of_not_mem`, `pieces_intercalate`). To replace a text is to replace what
   stands at the front or to keep one character, again and again (`cut_induction`). -/
namespace Gateway.Text

theorem consPiece_eq_modifyHead {α : Type} (a : α) {pieces : List (List α)} (h : pieces ≠ []) :
    consPiece a pieces = pieces.modifyHead (List.cons a) := by
  cases pieces with
  | nil => exact absurd rfl h
  | cons piece more => rfl

variable {α : Type} [BEq α] [LawfulBEq α]

theorem pieces_singleton (c : α) (s : List α) : pieces [c] s = s.splitOn c := by
  induction s with
  | nil => rfl
  | cons a rest ih =>
    rw [pieces] at ih
    rw [List.splitOn_cons_eq_if_modifyHead, pieces, splitFrom, ← ih]
    by_cases h : a = c
    · simp [h]
    · simp [h, Ne.symm h, consPiece_eq_modifyHead a (splitFrom_ne_nil [c] 0 rest)]

/-- Replacing a character is done at each place by itself. -/
theorem replaceAll_singleton (c : α) (new s : List α) :
    replaceAll [c] new s = s.flatMap fun a => if a == c then new else [a] := by
  rw [replaceAll, pieces_singleton]
  induction s with
  | nil => simp
  | cons a rest ih =>
    obtain ⟨piece, more, hcut⟩ := List.ne_nil_iff_exists_cons.mp (List.splitOn_ne_nil c rest)
    rw [hcut] at ih
    rw [List.splitOn_cons_eq_if_modifyHead, hcut, List.flatMap_cons, ← ih]
    split
    · rw [List.intercalate_cons_cons, List.nil_append]
    · cases more with
      | nil => simp
      | cons next more => simp [List.intercalate_cons_cons]

/-- The first piece is what stands before the first cut. -/
theorem splitOn_eq_cons (c : α) (s : List α) :
    ∃ more, s.splitOn c = s.takeWhile (· != c) :: more := by
  induction s with
  | nil => exact ⟨[], rfl⟩
  | cons a rest ih =>
    obtain ⟨more, hcut⟩ := ih
    rw [List.splitOn_cons_eq_if_modifyHead, hcut]
    by_cases h : a = c
    · exact ⟨_, by simp [h]; rfl⟩
    · exact ⟨more, by simp [h]⟩

/-- The pieces hold what the text holds, but for the cuts. -/
theorem mem_of_mem_splitOn {c : α} {s piece : List α} (h : piece ∈ s.splitOn c) :
    ∀ a ∈ piece, a ∈ s ∧ a ≠ c := by
  induction s generalizing piece with
  | nil =>
    obtain rfl := List.mem_singleton.mp h
    simp
  | cons b rest ih =>
    obtain ⟨first, more, hcut⟩ := List.ne_nil_iff_exists_cons.mp (List.splitOn_ne_nil c rest)
    have hrest : ∀ piece ∈ first :: more, ∀ a ∈ piece, a ∈ b :: rest ∧ a ≠ c := by
      intro piece hpiece a ha
      exact (ih (hcut ▸ hpiece) a ha).imp_left (List.mem_cons_of_mem b)
    rw [List.splitOn_cons_eq_if_modifyHead, hcut] at h
    split at h
    · rcases List.mem_cons.mp h with rfl | h
      · simp
      · exact hrest piece h
    · next hne =>
      rcases List.mem_cons.mp h with rfl | h
      · have hb : b ≠ c := by simpa using hne
        exact List.forall_mem_cons.mpr ⟨⟨List.mem_cons_self, hb⟩, hrest first List.mem_cons_self⟩
      · exact hrest piece (List.mem_cons_of_mem first h)

/-- A text without a cut belongs to the first piece of what follows. -/
theorem splitOn_append_of_not_mem {c : α} {s : List α} (h : c ∉ s) (t : List α) :
    (s ++ t).splitOn c = (t.splitOn c).modifyHead (s ++ ·) := by
  obtain ⟨more, hcut⟩ := splitOn_eq_cons c t
  rw [hcut]
  induction s with
  | nil => exact hcut
  | cons a rest ih =>
    have hne : a ≠ c := fun hac => h (hac ▸ List.mem_cons_self)
    have hrest := ih fun hm => h (List.mem_cons_of_mem a hm)
    simp [List.splitOn_cons_eq_if_modifyHead, hrest, hne]

/-- What the text holds is in one of the pieces, but for the cuts. -/
theorem exists_mem_splitOn {c a : α} {s : List α} (h : a ∈ s) (hne : a ≠ c) :
    ∃ piece ∈ s.splitOn c, a ∈ piece := by
  induction s with
  | nil => cases h
  | cons b rest ih =>
    obtain ⟨first, more, hcut⟩ := List.ne_nil_iff_exists_cons.mp (List.splitOn_ne_nil c rest)
    rw [hcut] at ih
    rw [List.splitOn_cons_eq_if_modifyHead, hcut]
    rcases List.mem_cons.mp h with rfl | hrest
    · rw [if_neg (by simpa using hne)]
      exact ⟨a :: first, List.mem_cons_self, List.mem_cons_self⟩
    · obtain ⟨piece, hpiece, ha⟩ := ih hrest
      split
      · exact ⟨piece, List.mem_cons_of_mem [] hpiece, ha⟩
      · rcases List.mem_cons.mp hpiece with rfl | hmore
        · exact ⟨b :: piece, List.mem_cons_self, List.mem_cons_of_mem b ha⟩
        · exact ⟨piece, List.mem_cons_of_mem (b :: first) hmore, ha⟩

omit [LawfulBEq α] in
/-- Each cut makes one piece more. -/
theorem length_splitOn (c : α) (s : List α) : (s.splitOn c).length = s.count c + 1 := by
  induction s with
  | nil => rfl
  | cons a rest ih =>
    rw [List.splitOn_cons_eq_if_modifyHead, List.count_cons]
    split <;> simp [ih]

/-- There is one piece exactly if there is nothing to cut at. -/
theorem length_splitOn_eq_one_iff {c : α} {s : List α} : (s.splitOn c).length = 1 ↔ c ∉ s := by
  rw [length_splitOn, Nat.add_eq_right, List.count_eq_zero]

/-- Texts that are joined by a character are cut there again, and in their own pieces. -/
theorem splitOn_intercalate {c : α} {texts : List (List α)} (h : texts ≠ []) :
    ([c].intercalate texts).splitOn c = texts.flatMap (List.splitOn c) := by
  induction texts with
  | nil => exact absurd rfl h
  | cons s rest ih =>
    cases rest with
    | nil => simp
    | cons t more =>
      rw [List.intercalate_cons_cons, List.append_assoc, List.singleton_append,
        List.splitOn_append_cons_self, ih (List.cons_ne_nil t more)]
      rfl

omit [BEq α] [LawfulBEq α] in
theorem infix_intercalate {sep t : List α} {texts : List (List α)} (h : t ∈ texts) :
    t <:+: sep.intercalate texts := by
  induction texts with
  | nil => cases h
  | cons s rest ih =>
    cases rest with
    | nil =>
      obtain rfl := List.mem_singleton.mp h
      simp
    | cons next more =>
      rw [List.intercalate_cons_cons, List.append_assoc]
      rcases List.mem_cons.mp h with rfl | h
      · exact (List.prefix_append _ _).isInfix
      · exact ((ih h).trans (List.suffix_append _ _).isInfix).trans
          (List.suffix_append _ _).isInfix

/-! ## Cutting at a separator -/

theorem cutFirst_append_self {sep : List α} (h : sep ≠ []) (s : List α) :
    cutFirst sep (sep ++ s) = some ([], s) := by
  obtain ⟨a, rest, rfl⟩ := List.exists_cons_of_ne_nil h
  have hprefix : (a :: rest).isPrefixOf (a :: (rest ++ s)) = true :=
    List.isPrefixOf_iff_prefix.mpr (List.prefix_append (a :: rest) s)
  rw [List.cons_append, cutFirst, if_pos hprefix]
  simp

theorem removeFirst_of_prefix {part : List α} (h : part ≠ []) (s : List α) :
    removeFirst part (part ++ s) = s := by
  rw [removeFirst, cutFirst_append_self h]
  rfl

theorem cutFirst_cons {sep : List α} {a : α} {s : List α} (h : ¬sep <+: a :: s) :
    cutFirst sep (a :: s) = (cutFirst sep s).map fun cut => (a :: cut.1, cut.2) := by
  rw [cutFirst, if_neg (mt List.isPrefixOf_iff_prefix.mp h)]

/-- A text is cut where the separator stands. -/
theorem eq_append_of_cutFirst {sep s before after : List α}
    (h : cutFirst sep s = some (before, after)) : s = before ++ sep ++ after := by
  induction s generalizing before with
  | nil =>
    rw [cutFirst] at h
    split at h
    · next hempty =>
      cases h
      simpa using hempty
    · cases h
  | cons a rest ih =>
    by_cases hprefix : sep <+: a :: rest
    · rw [cutFirst, if_pos (List.isPrefixOf_iff_prefix.mpr hprefix)] at h
      cases h
      exact (List.prefix_iff_eq_append.mp hprefix).symm
    · rw [cutFirst_cons hprefix] at h
      obtain ⟨⟨front, back⟩, hcut, heq⟩ := Option.map_eq_some_iff.mp h
      cases heq
      rw [ih hcut]
      rfl

/-- A text without the first element of the separator belongs to what stands before it. -/
theorem cutFirst_append_of_not_mem {c : α} {t : List α} (h : c ∉ t) (sep s : List α) :
    cutFirst (c :: sep) (t ++ s) = (cutFirst (c :: sep) s).map fun cut => (t ++ cut.1, cut.2) := by
  induction t with
  | nil => simp
  | cons a t ih =>
    have hne : ¬(c :: sep) <+: a :: (t ++ s) := by
      intro hprefix
      obtain ⟨rfl, -⟩ := List.cons_prefix_cons.mp hprefix
      exact h List.mem_cons_self
    rw [List.cons_append, cutFirst_cons hne, ih fun hmem => h (List.mem_cons_of_mem a hmem),
      Option.map_map]
    rfl

/-- A text is cut at the first occurrence of an element. -/
theorem cutFirst_singleton_eq_some_iff {c : α} {s before after : List α} :
    cutFirst [c] s = some (before, after) ↔ s = before ++ c :: after ∧ c ∉ before := by
  constructor
  · intro h
    induction s generalizing before with
    | nil => cases h
    | cons a rest ih =>
      by_cases hprefix : [c] <+: a :: rest
      · obtain ⟨after', happend⟩ := hprefix
        obtain ⟨rfl, rfl⟩ := List.cons.inj happend
        rw [← happend, cutFirst_append_self (List.cons_ne_nil c [])] at h
        cases h
        exact ⟨rfl, List.not_mem_nil⟩
      · rw [cutFirst_cons hprefix] at h
        obtain ⟨⟨front, back⟩, hcut, heq⟩ := Option.map_eq_some_iff.mp h
        cases heq
        obtain ⟨rfl, hfront⟩ := ih hcut
        refine ⟨rfl, fun hmem => ?_⟩
        rcases List.mem_cons.mp hmem with rfl | hmem
        · exact hprefix ⟨_, rfl⟩
        · exact hfront hmem
  · rintro ⟨rfl, hbefore⟩
    rw [cutFirst_append_of_not_mem hbefore [] (c :: after)]
    have hcut := cutFirst_append_self (List.cons_ne_nil c []) after
    rw [List.cons_append, List.nil_append] at hcut
    rw [hcut]
    simp

omit [LawfulBEq α] in
theorem splitFrom_append (sep t s : List α) : splitFrom sep t.length (t ++ s) = pieces sep s := by
  induction t with
  | nil => rfl
  | cons a t ih => exact ih

/-- At the separator an empty piece is cut off. -/
theorem pieces_append_self {sep : List α} (h : sep ≠ []) (s : List α) :
    pieces sep (sep ++ s) = [] :: pieces sep s := by
  obtain ⟨a, rest, rfl⟩ := List.exists_cons_of_ne_nil h
  have hprefix : (a :: rest).isPrefixOf (a :: (rest ++ s)) = true :=
    List.isPrefixOf_iff_prefix.mpr (List.prefix_append (a :: rest) s)
  rw [List.cons_append, pieces, splitFrom, if_pos hprefix, List.length_cons, Nat.add_sub_cancel,
    splitFrom_append]

theorem pieces_cons {sep : List α} {a : α} {s : List α} (h : ¬sep <+: a :: s) :
    pieces sep (a :: s) = consPiece a (pieces sep s) := by
  rw [pieces, splitFrom, if_neg (mt List.isPrefixOf_iff_prefix.mp h)]
  rfl

/-- A text without the first element of the separator belongs to the first piece. -/
theorem pieces_append_of_not_mem {c : α} {t : List α} (h : c ∉ t) (sep s : List α) :
    pieces (c :: sep) (t ++ s) = (pieces (c :: sep) s).modifyHead (t ++ ·) := by
  obtain ⟨piece, more, hpieces⟩ := List.exists_cons_of_ne_nil (splitFrom_ne_nil (c :: sep) 0 s)
  rw [pieces, pieces, hpieces]
  induction t with
  | nil => exact hpieces
  | cons a t ih =>
    have hne : ¬(c :: sep) <+: a :: (t ++ s) := by
      intro hprefix
      obtain ⟨rfl, -⟩ := List.cons_prefix_cons.mp hprefix
      exact h List.mem_cons_self
    rw [List.cons_append, ← pieces, pieces_cons hne, pieces,
      ih fun hmem => h (List.mem_cons_of_mem a hmem)]
    rfl

/-- Texts that are joined by a separator are its pieces, if none of them holds the first element
    of the separator. -/
theorem pieces_intercalate {c : α} {sep : List α} {texts : List (List α)} (hne : texts ≠ [])
    (h : ∀ t ∈ texts, c ∉ t) : pieces (c :: sep) ((c :: sep).intercalate texts) = texts := by
  induction texts with
  | nil => exact absurd rfl hne
  | cons t rest ih =>
    obtain ⟨ht, hrest⟩ := List.forall_mem_cons.mp h
    cases rest with
    | nil =>
      have hlast := pieces_append_of_not_mem ht sep []
      rw [List.append_nil] at hlast
      rw [List.intercalate_singleton, hlast]
      simp [pieces, splitFrom]
    | cons next more =>
      rw [List.intercalate_cons_cons, List.append_assoc, pieces_append_of_not_mem ht,
        pieces_append_self (List.cons_ne_nil c sep), ih (List.cons_ne_nil next more) hrest]
      simp

theorem contains_of_infix {part s : List α} (h : part <:+: s) : contains part s = true := by
  unfold contains
  induction s with
  | nil =>
    obtain rfl := List.infix_nil.mp h
    rfl
  | cons a rest ih =>
    rw [cutFirst]
    split
    · rfl
    · next hprefix =>
      rcases List.infix_cons_iff.mp h with h | h
      · exact absurd (List.isPrefixOf_iff_prefix.mpr h) hprefix
      · simpa using ih h

/-! ## Replacing a text -/

omit [BEq α] [LawfulBEq α] in
theorem intercalate_consPiece (new : List α) (a : α) {pieces : List (List α)} (h : pieces ≠ []) :
    new.intercalate (consPiece a pieces) = a :: new.intercalate pieces := by
  rcases pieces with _ | ⟨piece, _ | ⟨next, more⟩⟩
  · exact absurd rfl h
  · simp [consPiece]
  · simp [consPiece, List.intercalate_cons_cons]

omit [LawfulBEq α] in
theorem replaceAll_nil (sep new : List α) : replaceAll sep new [] = [] := by
  simp [replaceAll, pieces, splitFrom]

/-- What stands at the front is replaced first. -/
theorem replaceAll_append {sep : List α} (h : sep ≠ []) (new s : List α) :
    replaceAll sep new (sep ++ s) = new ++ replaceAll sep new s := by
  obtain ⟨piece, more, hpieces⟩ := List.exists_cons_of_ne_nil (splitFrom_ne_nil sep 0 s)
  rw [replaceAll, replaceAll, pieces_append_self h, pieces, hpieces, List.intercalate_cons_cons,
    List.nil_append]

theorem replaceAll_cons {sep : List α} {a : α} {s : List α} (h : ¬sep <+: a :: s) (new : List α) :
    replaceAll sep new (a :: s) = a :: replaceAll sep new s := by
  rw [replaceAll, pieces_cons h, pieces, intercalate_consPiece new a (splitFrom_ne_nil sep 0 s)]
  rfl

/-- A text without the first element of what is replaced is kept. -/
theorem replaceAll_append_of_not_mem {c : α} {t : List α} (h : c ∉ t) (sep new s : List α) :
    replaceAll (c :: sep) new (t ++ s) = t ++ replaceAll (c :: sep) new s := by
  induction t with
  | nil => rfl
  | cons a t ih =>
    have hne : ¬(c :: sep) <+: a :: (t ++ s) := by
      intro hprefix
      obtain ⟨rfl, -⟩ := List.cons_prefix_cons.mp hprefix
      exact h List.mem_cons_self
    rw [List.cons_append, replaceAll_cons hne, ih fun hmem => h (List.mem_cons_of_mem a hmem)]
    rfl

omit [BEq α] [LawfulBEq α] in
/-- A text is read from the left, by one occurrence of the separator or by one element. -/
theorem cut_induction {sep : List α} (hsep : sep ≠ []) {motive : List α → Prop}
    (nil : motive []) (found : ∀ s, motive s → motive (sep ++ s))
    (other : ∀ a s, ¬sep <+: a :: s → motive s → motive (a :: s)) (s : List α) : motive s := by
  generalize hn : s.length = n
  induction n using Nat.strong_induction_on generalizing s with
  | _ n ih =>
    cases s with
    | nil => exact nil
    | cons a s =>
      by_cases h : sep <+: a :: s
      · obtain ⟨rest, hrest⟩ := h
        have hlt : rest.length < n := by
          have hpos := List.length_pos_of_ne_nil hsep
          rw [← hn, ← hrest, List.length_append]
          omega
        rw [← hrest]
        exact found rest (ih _ hlt rest rfl)
      · refine other a s h (ih s.length ?_ s rfl)
        rw [← hn, List.length_cons]
        exact Nat.lt_succ_self _

section
variable {sep t : List α} {x : α} (hsep : sep ≠ [])
include hsep

theorem mem_replaceAll {new s : List α} {a : α} (h : a ∈ replaceAll sep new s) :
    a ∈ s ∨ a ∈ new := by
  induction s using cut_induction hsep with
  | nil =>
    rw [replaceAll_nil] at h
    cases h
  | found s ih =>
    rw [replaceAll_append hsep] at h
    rcases List.mem_append.mp h with h | h
    · exact .inr h
    · exact (ih h).imp_left (List.mem_append_right sep)
  | other b s hother ih =>
    rw [replaceAll_cons hother] at h
    rcases List.mem_cons.mp h with rfl | h
    · exact .inl List.mem_cons_self
    · exact (ih h).imp_left (List.mem_cons_of_mem b)

/-- A front without the element that is put in stood there before. -/
theorem prefix_of_prefix_replaceAll (hx : x ∉ t) {s : List α} (h : t <+: replaceAll sep [x] s) :
    t <+: s := by
  induction s using cut_induction hsep generalizing t with
  | nil =>
    rw [replaceAll_nil] at h
    exact h
  | found s ih =>
    rw [replaceAll_append hsep] at h
    cases t with
    | nil => exact List.nil_prefix
    | cons b t =>
      obtain ⟨rfl, -⟩ := List.cons_prefix_cons.mp h
      exact absurd List.mem_cons_self hx
  | other a s hother ih =>
    rw [replaceAll_cons hother] at h
    cases t with
    | nil => exact List.nil_prefix
    | cons b t =>
      obtain ⟨rfl, hrest⟩ := List.cons_prefix_cons.mp h
      exact List.cons_prefix_cons.mpr ⟨rfl, ih (fun hmem => hx (List.mem_cons_of_mem _ hmem)) hrest⟩

/-- A part without the element that is put in stood where the separator did not. -/
theorem exists_of_infix_replaceAll (hx : x ∉ t) (ht : t ≠ []) {s : List α}
    (h : t <:+: replaceAll sep [x] s) :
    ∃ back, back <:+ s ∧ t <+: back ∧ ¬sep <+: back := by
  induction s using cut_induction hsep with
  | nil =>
    rw [replaceAll_nil] at h
    exact absurd (List.infix_nil.mp h) ht
  | found s ih =>
    rw [replaceAll_append hsep] at h
    rcases List.infix_cons_iff.mp h with hfront | hrest
    · obtain ⟨b, t, rfl⟩ := List.exists_cons_of_ne_nil ht
      obtain ⟨rfl, -⟩ := List.cons_prefix_cons.mp hfront
      exact absurd List.mem_cons_self hx
    · obtain ⟨back, hback, hprefix⟩ := ih hrest
      exact ⟨back, hback.trans (List.suffix_append _ _), hprefix⟩
  | other a s hother ih =>
    rw [replaceAll_cons hother] at h
    rcases List.infix_cons_iff.mp h with hfront | hrest
    · rw [← replaceAll_cons hother] at hfront
      exact ⟨a :: s, List.suffix_refl _, prefix_of_prefix_replaceAll hsep hx hfront, hother⟩
    · obtain ⟨back, hback, hprefix⟩ := ih hrest
      exact ⟨back, hback.trans (List.suffix_cons a s), hprefix⟩

theorem not_infix_replaceAll_self (hx : x ∉ sep) (s : List α) : ¬sep <:+: replaceAll sep [x] s := by
  intro h
  obtain ⟨back, -, hfront, hother⟩ := exists_of_infix_replaceAll hsep hx hsep h
  exact hother hfront

theorem not_infix_replaceAll (hx : x ∉ t) (ht : t ≠ []) {s : List α} (h : ¬t <:+: s) :
    ¬t <:+: replaceAll sep [x] s := by
  intro hinfix
  obtain ⟨back, hback, hfront, -⟩ := exists_of_infix_replaceAll hsep hx ht hinfix
  exact h (hfront.isInfix.trans hback.isInfix)

end

end Gateway.Text
