import Gateway.Proofs.Url.Parsed

/- Dot segments. The URL standard resolves them while a path is read (`addPieces`), so no
   path that it reads has one. The runtime leaves them in a path that it keeps as it is
   written, and it departs from the standard there and nowhere else
   (`areResolved_readSegments_iff`). A path without dot segments that needs no escape is
   read as it is (`readSegments_of_resolved`). -/
namespace Gateway.Url

/-- No segment stands for a directory. -/
def AreResolved (path : List (List Char)) : Prop :=
  ∀ s ∈ path, isSingleDot s = false ∧ isDoubleDot s = false

/-- The path has no dot segment, as the URL standard promises of every URL. -/
def IsResolved (u : Url) : Prop := AreResolved u.path.list

/-! ## Dots behind escapes -/

theorem dots_other {c : Char} (h : c ≠ '%') (s : List Char) : dots (c :: s) = c :: dots s := by
  rw [dots]
  intro a rest hc
  exact absurd hc h

/-- A percent sign is kept, unless it begins an escaped dot. -/
theorem dots_percent (s : List Char) :
    (dots ('%' :: s)).head? = some '%' ∨
      ∃ c rest, s = '2' :: c :: rest ∧ (c = 'e' ∨ c = 'E') ∧ dots ('%' :: s) = '.' :: dots rest := by
  by_cases h : ∃ c rest, s = '2' :: c :: rest
  · obtain ⟨c, rest, rfl⟩ := h
    by_cases hc : c = 'e' ∨ c = 'E'
    · exact .inr ⟨c, rest, rfl, hc, by simp [dots, hc]⟩
    · exact .inl (by simp [dots, hc])
  · left
    rw [dots]
    · rfl
    · intro c rest _ hs
      exact h ⟨c, rest, hs⟩

/-- An escaped dot does not reach into an escape behind it. -/
theorem dots_percent_append (s t : List Char) :
    (dots ('%' :: (s ++ '%' :: t))).head? = some '%' ∨
      ∃ c rest, s = '2' :: c :: rest ∧
        dots ('%' :: (s ++ '%' :: t)) = '.' :: dots (rest ++ '%' :: t) := by
  rcases dots_percent (s ++ '%' :: t) with hhead | ⟨c, more, hs, hc, hdots⟩
  · exact .inl hhead
  · right
    cases s with
    | nil => simp at hs
    | cons a s =>
      cases s with
      | nil =>
        simp only [List.cons_append, List.nil_append, List.cons.injEq] at hs
        obtain ⟨_, rfl, _⟩ := hs
        exact absurd hc (by decide)
      | cons b rest =>
        simp only [List.cons_append, List.cons.injEq] at hs
        obtain ⟨rfl, rfl, rfl⟩ := hs
        exact ⟨_, rest, rfl, hdots⟩

/-- Any other escape leaves its percent sign behind. -/
theorem percent_mem_dots {x y : Char} (h : ¬ (x = '2' ∧ (y = 'e' ∨ y = 'E'))) (t : List Char)
    (s : List Char) : '%' ∈ dots (s ++ '%' :: x :: y :: t) := by
  -- by induction on the length, since an escaped dot takes three characters at once
  induction hn : s.length using Nat.strongRecOn generalizing s with
  | ind n ih =>
    cases s with
    | nil =>
      rcases dots_percent (x :: y :: t) with hhead | ⟨c, rest, hs, hc, _⟩
      · exact List.mem_of_head? hhead
      · simp only [List.cons.injEq] at hs
        exact absurd ⟨hs.1, hs.2.1 ▸ hc⟩ h
    | cons a s =>
      rw [List.length_cons] at hn
      by_cases ha : a = '%'
      · subst ha
        rcases dots_percent_append s (x :: y :: t) with hhead | ⟨c, rest, rfl, hdots⟩
        · exact List.mem_of_head? hhead
        · rw [List.length_cons, List.length_cons] at hn
          rw [List.cons_append, hdots]
          exact List.mem_cons_of_mem _ (ih rest.length (by omega) rest rfl)
      · rw [List.cons_append, dots_other ha]
        exact List.mem_cons_of_mem _ (ih s.length (by omega) s rfl)

/-- The first byte of a character is that of a dot only if the character is one. -/
theorem utf8EncodeChar_cons {c : Char} (hc : c ≠ '.') :
    ∃ b more, String.utf8EncodeChar c = b :: more ∧ b.toNat ≠ 46 := by
  have hne : c.val.toNat ≠ 46 := by
    intro h
    exact hc (Char.toNat_inj.mp h)
  -- one byte is the character itself, and the first of several is above 127
  unfold String.utf8EncodeChar
  dsimp only
  split
  · exact ⟨_, _, rfl, by rw [UInt8.toNat_ofNat']; omega⟩
  · split
    · exact ⟨_, _, rfl, by rw [UInt8.toNat_ofNat']; omega⟩
    · split
      · exact ⟨_, _, rfl, by rw [UInt8.toNat_ofNat']; omega⟩
      · exact ⟨_, _, rfl, by rw [UInt8.toNat_ofNat']; omega⟩

theorem hexDigit_eq_two : ∀ n < 16, hexDigit n = '2' → n = 2 := by decide

theorem hexDigit_eq_e : ∀ n < 16, hexDigit n = 'e' ∨ hexDigit n = 'E' → n = 14 := by decide

/-- No escape that is made stands for a dot. -/
theorem escape_eq {c : Char} (hc : c ≠ '.') :
    ∃ x y more, (String.utf8EncodeChar c).flatMap escapeByte = '%' :: x :: y :: more ∧
      ¬ (x = '2' ∧ (y = 'e' ∨ y = 'E')) := by
  obtain ⟨b, more, hb, hne⟩ := utf8EncodeChar_cons hc
  have hlt : b.toNat < 256 := UInt8.toNat_lt b
  refine ⟨hexDigit (b.toNat / 16), hexDigit (b.toNat % 16), more.flatMap escapeByte, ?_, ?_⟩
  · rw [hb]
    rfl
  · rintro ⟨hx, hy⟩
    have hhigh := hexDigit_eq_two _ (by omega) hx
    have hlow := hexDigit_eq_e _ (by omega) hy
    omega

/-- What is a dot segment after escaping needed no escape. -/
theorem encode_of_dots {s : List Char} (h : '%' ∉ dots (encode inPathSet s)) :
    encode inPathSet s = s := by
  refine encode_of_forall ?_
  intro c hc
  cases hset : inPathSet c with
  | false => rfl
  | true =>
    -- its escape would leave a percent sign behind
    obtain ⟨a, b, rfl⟩ := List.append_of_mem hc
    have hdot : c ≠ '.' := by
      rintro rfl
      cases hset
    obtain ⟨x, y, more, hescape, hne⟩ := escape_eq hdot
    have hencode : encode inPathSet (a ++ c :: b) =
        encode inPathSet a ++ '%' :: x :: y :: (more ++ encode inPathSet b) := by
      simp [encode, hset, hescape]
    rw [hencode] at h
    exact absurd (percent_mem_dots hne _ _) h

/-- Escaping makes no dot segment. -/
theorem dots_encode_ne {s t : List Char} (ht : '%' ∉ t) (h : (dots s == t) = false) :
    (dots (encode inPathSet s) == t) = false := by
  cases hdots : dots (encode inPathSet s) == t with
  | false => rfl
  | true =>
    have hsame : encode inPathSet s = s := by
      apply encode_of_dots
      rw [eq_of_beq hdots]
      exact ht
    rw [hsame, h] at hdots
    cases hdots

/-! ## Reading a path -/

theorem AreResolved.append {path more : List (List Char)} (h : AreResolved path)
    (hmore : AreResolved more) : AreResolved (path ++ more) := by
  intro s hs
  rcases List.mem_append.mp hs with hs | hs
  · exact h s hs
  · exact hmore s hs

theorem areResolved_singleton {s : List Char} (h : isSingleDot s = false ∧ isDoubleDot s = false) :
    AreResolved [s] := by
  intro t ht
  obtain rfl := List.mem_singleton.mp ht
  exact h

section
variable {scheme : String}

/-- A step leaves no dot segment. -/
theorem AreResolved.addPiece (hs : IsHierarchic scheme) {path : List (List Char)}
    (h : AreResolved path) (s : List Char) (isLast : Bool) :
    AreResolved (addPiece scheme path s isLast) := by
  have hempty : AreResolved [[]] := areResolved_singleton (by decide)
  have habove : AreResolved (shorten scheme path) := fun t ht => h t (mem_shorten ht)
  unfold Url.addPiece
  split
  · split
    · rw [endAbove_eq hs]
      exact habove.append hempty
    · exact habove
  · next hdouble =>
    split
    · split
      · exact h.append hempty
      · exact h
    · next hsingle =>
      rw [keptSegment_eq hs]
      exact h.append (areResolved_singleton
        ⟨dots_encode_ne (by decide) (Bool.eq_false_iff.mpr hsingle),
          dots_encode_ne (by decide) (Bool.eq_false_iff.mpr hdouble)⟩)

theorem AreResolved.addPieces (hs : IsHierarchic scheme) {path : List (List Char)}
    (h : AreResolved path) (pieces : List (List Char)) :
    AreResolved (addPieces scheme path pieces) := by
  induction pieces generalizing path with
  | nil => exact h
  | cons s rest ih =>
    rw [addPieces_cons]
    exact ih (h.addPiece hs s _)

/-- Segments without dots that need no escape are put behind a path as they are. -/
theorem addPieces_of_resolved (hs : IsHierarchic scheme) {pieces : List (List Char)}
    (hsegments : AreSegments pieces) (hresolved : AreResolved pieces) (path : List (List Char)) :
    addPieces scheme path pieces = path ++ pieces := by
  induction pieces generalizing path with
  | nil => exact (List.append_nil path).symm
  | cons s rest ih =>
    have hencode : encode inPathSet s = s :=
      encode_of_forall fun c hc => (isSegmentChar_iff.mp (hsegments s List.mem_cons_self c hc)).1
    have hdots := hresolved s List.mem_cons_self
    have hstep : addPiece scheme path s rest.isEmpty = path ++ [s] := by
      simp [addPiece, hdots.1, hdots.2, keptSegment_eq hs, hencode]
    rw [addPieces_cons, hstep, ih (fun t ht => hsegments t (List.mem_cons_of_mem s ht))
      (fun t ht => hresolved t (List.mem_cons_of_mem s ht)), List.append_assoc]
    rfl

/-- Reading a path leaves no dot segment exactly if it reads as the URL standard says. -/
theorem areResolved_readSegments_iff (hs : IsHierarchic scheme) {path : List (List Char)}
    (hpath : AreResolved path) (s : List Char) :
    AreResolved (readSegments scheme path s) ↔
      readSegments scheme path s = addPieces scheme path (slashPieces true s) := by
  constructor
  · intro h
    unfold readSegments at h ⊢
    rw [hs.special] at h ⊢
    dsimp only at h ⊢
    split
    · next hverbatim =>
      rw [if_pos hverbatim] at h
      rw [Bool.and_eq_true] at hverbatim
      have hsegments : AreSegments (slashPieces true s) :=
        fun piece hp => isSegment_of_verbatim hverbatim.2 hp
      rw [addPieces_of_resolved hs hsegments h, List.isEmpty_iff.mp hverbatim.1]
      rfl
    · rfl
  · intro h
    rw [h]
    exact hpath.addPieces hs _

/-- A path that the runtime keeps as it is written, although the standard resolves it. -/
example : readSegments "http" [] "a/.b/../c".toList = ["a", ".b", "..", "c"].map String.toList ∧
    addPieces "http" [] (slashPieces true "a/.b/../c".toList) = ["a", "c"].map String.toList := by
  decide +kernel

/-- A path without dot segments that needs no escape is read as it is. -/
theorem readSegments_of_resolved (hs : IsHierarchic scheme) {s : List Char}
    (hsegments : AreSegments (slashPieces true s)) (hresolved : AreResolved (slashPieces true s)) :
    readSegments scheme [] s = slashPieces true s := by
  unfold readSegments
  rw [hs.special]
  dsimp only
  split
  · rfl
  · exact addPieces_of_resolved hs hsegments hresolved []

end

end Gateway.Url
