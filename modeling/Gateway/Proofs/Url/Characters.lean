import Gateway.Proofs.Text.Letters
import Gateway.Url.Parser

/- The characters that the parts of a URL are left with. Escaping takes every character
   of its set away and brings in no other one than the percent sign and hexadecimal
   digits, which are in none of the sets (`not_mem_encode`). So a second escaping
   changes nothing (`encode_of_forall`). -/
namespace Gateway.Url

/-- A character that stands for itself in a segment: it needs no escape and cuts nothing. -/
def isSegmentChar (c : Char) : Bool := !inPathSet c && !isSlash true c

/-- A text with such characters only. -/
def IsSegment (s : List Char) : Prop := ∀ c ∈ s, isSegmentChar c = true

/-- A text that a query of a special scheme can hold as it is. -/
def IsQuery (s : List Char) : Prop := ∀ c ∈ s, inSpecialQuerySet c = false

theorem IsSegment.nil : IsSegment [] := by simp [IsSegment]

theorem isSegmentChar_iff {c : Char} :
    isSegmentChar c = true ↔ inPathSet c = false ∧ isSlash true c = false := by
  simp [isSegmentChar]

theorem isSegmentChar_of_isAlphanum {c : Char} (h : c.isAlphanum = true) :
    isSegmentChar c = true := by
  have hbound {high : Char} (hhigh : high.toNat < 0x80) (hle : c.val ≤ high.val) :
      c.toNat < 0x80 :=
    Nat.lt_of_le_of_lt (UInt32.le_iff_toNat_le.mp hle) hhigh
  have hlt : c.toNat < 0x80 := by
    rcases Bool.or_eq_true_iff.mp h with halpha | hdigit
    · rcases Bool.or_eq_true_iff.mp halpha with hupper | hlower
      · have hrange : c.val ≥ 'A'.val ∧ c.val ≤ 'Z'.val := of_decide_eq_true hupper
        exact hbound (by decide) hrange.2
      · have hle : c.val ≤ 'z'.val := of_decide_eq_true (Bool.and_eq_true_iff.mp hlower).2
        exact hbound (by decide) hle
    · have hle : c.val ≤ '9'.val := of_decide_eq_true (Bool.and_eq_true_iff.mp hdigit).2
      exact hbound (by decide) hle
  exact Text.forall_ascii (p := fun c => c.isAlphanum = true → isSegmentChar c = true)
    (by decide) hlt h

/-! ## Escaping -/

theorem mem_encode {set : Char → Bool} {s : List Char} {c : Char} (h : c ∈ encode set s) :
    (c ∈ s ∧ set c = false) ∨ c = '%' ∨ ∃ n < 16, c = hexDigit n := by
  obtain ⟨a, ha, hc⟩ := List.mem_flatMap.mp h
  split at hc
  · obtain ⟨b, _, hb⟩ := List.mem_flatMap.mp hc
    have hlt : b.toNat < 256 := UInt8.toNat_lt b
    simp only [escapeByte, List.mem_cons, List.not_mem_nil, or_false] at hb
    rcases hb with rfl | rfl | rfl
    · exact .inr (.inl rfl)
    · exact .inr (.inr ⟨_, by omega, rfl⟩)
    · exact .inr (.inr ⟨_, by omega, rfl⟩)
  · next hset =>
    obtain rfl := List.mem_singleton.mp hc
    exact .inl ⟨ha, by simpa using hset⟩

/-- No character of the escaped text is in the set, if the set has no percent sign and no
    digit of an escape. -/
theorem not_mem_encode {set : Char → Bool} (hpercent : set '%' = false)
    (hdigit : ∀ n < 16, set (hexDigit n) = false) {s : List Char} :
    ∀ c ∈ encode set s, set c = false := by
  intro c hc
  rcases mem_encode hc with ⟨_, h⟩ | rfl | ⟨n, hn, rfl⟩
  · exact h
  · exact hpercent
  · exact hdigit n hn

theorem encode_of_forall {set : Char → Bool} {s : List Char} (h : ∀ c ∈ s, set c = false) :
    encode set s = s := by
  induction s with
  | nil => rfl
  | cons c rest ih =>
    have hc := h c List.mem_cons_self
    have hrest := ih fun d hd => h d (List.mem_cons_of_mem c hd)
    show (if set c then _ else [c]) ++ encode set rest = c :: rest
    simp [hc, hrest]

theorem isSegmentChar_hexDigit : ∀ n < 16, isSegmentChar (hexDigit n) = true := by decide

/-- An escaped text without slashes is a segment. -/
theorem isSegment_encode {s : List Char} (h : ∀ c ∈ s, isSlash true c = false) :
    IsSegment (encode inPathSet s) := by
  intro c hc
  rcases mem_encode hc with ⟨hmem, hset⟩ | rfl | ⟨n, hn, rfl⟩
  · exact isSegmentChar_iff.mpr ⟨hset, h c hmem⟩
  · decide
  · exact isSegmentChar_hexDigit n hn

theorem isQuery_encode (s : List Char) : IsQuery (encode inSpecialQuerySet s) :=
  not_mem_encode (by decide) (by decide)

/-! ## What lies in every set -/

/-- What the parser drops everywhere are controls. -/
theorem isDropped_eq_false {c : Char} (h : ¬ c.toNat ≤ 0x20) : isDropped c = false := by
  cases hc : isDropped c with
  | false => rfl
  | true =>
    simp only [isDropped, Bool.or_eq_true, beq_iff_eq] at hc
    rcases hc with (rfl | rfl) | rfl <;> exact absurd (by decide) h

theorem inQuerySet_of_le {c : Char} (h : c.toNat ≤ 0x20) : inQuerySet c = true := by
  unfold inQuerySet inControlSet
  by_cases hc : c = ' '
  · simp [hc]
  · have hne : c.toNat ≠ 0x20 := fun h' => hc (Char.toNat_inj.mp h')
    have hlt : c.toNat < 0x20 := by omega
    simp [hlt]

theorem inPathSet_of_inQuerySet {c : Char} (h : inQuerySet c = true) : inPathSet c = true := by
  simp [inPathSet, h]

/-- A character that a segment may hold is none of those that the parser drops. -/
theorem not_le_of_isSegmentChar {c : Char} (h : isSegmentChar c = true) : ¬ c.toNat ≤ 0x20 := by
  intro hle
  have hset := inPathSet_of_inQuerySet (inQuerySet_of_le hle)
  rw [(isSegmentChar_iff.mp h).1] at hset
  cases hset

/-- Neither is one that a query may hold. -/
theorem not_le_of_not_inSpecialQuerySet {c : Char} (h : inSpecialQuerySet c = false) :
    ¬ c.toNat ≤ 0x20 := by
  intro hle
  simp [inSpecialQuerySet, inQuerySet_of_le hle] at h

/-! ## Cutting at slashes -/

theorem consPiece_head (c : Char) (first : List Char) (more : List (List Char)) :
    Text.consPiece c (first :: more) = (c :: first) :: more := rfl

theorem slashPieces_cons_slash {special : Bool} {c : Char} (h : isSlash special c = true)
    (s : List Char) : slashPieces special (c :: s) = [] :: slashPieces special s := by
  simp [slashPieces, h]

theorem slashPieces_cons_other {special : Bool} {c : Char} (h : isSlash special c = false)
    (s : List Char) :
    slashPieces special (c :: s) = Text.consPiece c (slashPieces special s) := by
  simp [slashPieces, h]

theorem slashPieces_ne_nil (special : Bool) (s : List Char) : slashPieces special s ≠ [] := by
  cases s with
  | nil => simp [slashPieces]
  | cons c rest =>
    cases hc : isSlash special c with
    | true => simp [slashPieces_cons_slash hc]
    | false =>
      rw [slashPieces_cons_other hc]
      cases slashPieces special rest <;> simp [Text.consPiece]

/-- The first piece and the others. -/
theorem slashPieces_eq_cons (special : Bool) (s : List Char) :
    ∃ first more, slashPieces special s = first :: more :=
  List.ne_nil_iff_exists_cons.mp (slashPieces_ne_nil special s)

/-- No piece holds a slash, and all its characters are from the text. -/
theorem mem_slashPieces {special : Bool} {s piece : List Char}
    (h : piece ∈ slashPieces special s) :
    ∀ c ∈ piece, c ∈ s ∧ isSlash special c = false := by
  induction s generalizing piece with
  | nil =>
    obtain rfl := List.mem_singleton.mp h
    simp
  | cons a rest ih =>
    cases ha : isSlash special a with
    | true =>
      rw [slashPieces_cons_slash ha] at h
      rcases List.mem_cons.mp h with rfl | h
      · simp
      · intro c hc
        exact ⟨List.mem_cons_of_mem a (ih h c hc).1, (ih h c hc).2⟩
    | false =>
      obtain ⟨first, more, hcut⟩ := slashPieces_eq_cons special rest
      -- `a` has gone to the front of the first piece; the others are as they were
      rw [slashPieces_cons_other ha, hcut, consPiece_head] at h
      rw [hcut] at ih
      intro c hc
      rcases List.mem_cons.mp h with rfl | h
      · rcases List.mem_cons.mp hc with rfl | hc
        · exact ⟨List.mem_cons_self, ha⟩
        · exact ⟨List.mem_cons_of_mem a (ih List.mem_cons_self c hc).1,
            (ih List.mem_cons_self c hc).2⟩
      · have hfrom := ih (List.mem_cons_of_mem first h) c hc
        exact ⟨List.mem_cons_of_mem a hfrom.1, hfrom.2⟩

/-- The pieces on both sides of a slash are those of both sides. -/
theorem slashPieces_append_slash {special : Bool} {c : Char} (hc : isSlash special c = true)
    (s t : List Char) :
    slashPieces special (s ++ c :: t) = slashPieces special s ++ slashPieces special t := by
  induction s with
  | nil => simp [slashPieces_cons_slash hc, slashPieces]
  | cons a rest ih =>
    cases ha : isSlash special a with
    | true => simp [slashPieces_cons_slash ha, ih]
    | false =>
      obtain ⟨first, more, hcut⟩ := slashPieces_eq_cons special rest
      simp [slashPieces_cons_other ha, ih, hcut, consPiece_head]

/-- A text without slashes belongs to the first piece of what follows. -/
theorem slashPieces_append {special : Bool} {s t first : List Char} {more : List (List Char)}
    (hs : ∀ c ∈ s, isSlash special c = false) (ht : slashPieces special t = first :: more) :
    slashPieces special (s ++ t) = (s ++ first) :: more := by
  induction s with
  | nil => exact ht
  | cons c rest ih =>
    have hrest := ih fun d hd => hs d (List.mem_cons_of_mem c hd)
    rw [List.cons_append, slashPieces_cons_other (hs c List.mem_cons_self), hrest]
    rfl

/-- Segments behind slashes are read back, behind the empty piece before the first slash. -/
theorem slashPieces_flatMap {segments : List (List Char)}
    (h : ∀ s ∈ segments, ∀ c ∈ s, isSlash true c = false) :
    slashPieces true (segments.flatMap fun s => '/' :: s) = [] :: segments := by
  induction segments with
  | nil => rfl
  | cons s rest ih =>
    have hrest := ih fun t ht => h t (List.mem_cons_of_mem s ht)
    rw [List.flatMap_cons, List.cons_append, slashPieces_cons_slash rfl,
      slashPieces_append (h s List.mem_cons_self) hrest, List.append_nil]

/-- The pieces with their slashes make up the text again, if there is one kind of slash. -/
theorem flatMap_slashPieces {s : List Char} (h : '\\' ∉ s) :
    (slashPieces true s).flatMap (fun piece => '/' :: piece) = '/' :: s := by
  induction s with
  | nil => rfl
  | cons a rest ih =>
    have hrest := ih fun hm => h (List.mem_cons_of_mem a hm)
    cases ha : isSlash true a with
    | true =>
      have hslash : a = '/' := by
        simp only [isSlash, Bool.true_and, Bool.or_eq_true, beq_iff_eq] at ha
        rcases ha with ha | ha
        · exact ha
        · exact absurd (ha ▸ List.mem_cons_self) h
      rw [slashPieces_cons_slash ha, List.flatMap_cons, hrest, hslash]
      rfl
    | false =>
      obtain ⟨first, more, hcut⟩ := slashPieces_eq_cons true rest
      rw [hcut] at hrest
      rw [slashPieces_cons_other ha, hcut, consPiece_head]
      simp only [List.flatMap_cons, List.cons_append, List.cons.injEq, true_and] at hrest ⊢
      exact hrest

end Gateway.Url
