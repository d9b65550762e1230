import Gateway.Text.Blank
import Gateway.Text.Lowercase
import Mathlib.Data.List.Infix
import Mathlib.Data.List.TakeWhile

/- Letter case and blanks. The lowercase form of an ASCII character is the same wherever it
   stands, so the ASCII parts of a text are found again in its lowercase form
   (`infix_lowercaseFrom`). What trimming drops are the blanks around a text
   (`trim_framed`). -/
namespace Gateway.Text

/-- A text of ASCII characters only. -/
def IsAscii (s : List Char) : Prop := ∀ c ∈ s, c.toNat < 0x80

instance (s : List Char) : Decidable (IsAscii s) := List.decidableBAll _ s

/-- What holds of all ASCII characters is seen by going through them. -/
theorem forall_ascii {p : Char → Prop} (h : ∀ n < 0x80, p (Char.ofNat n)) {c : Char}
    (hc : c.toNat < 0x80) : p c := by
  have hchar := h c.toNat hc
  rwa [Char.ofNat_toNat] at hchar

/-! ## Letter case -/

/-- What has an ASCII character as its lowercase letter is one. -/
theorem toNat_lt_of_toLower {c : Char} (h : c.toLower.toNat < 0x80) : c.toNat < 0x80 := by
  unfold Char.toLower at h
  split at h
  · next hupper => exact Nat.lt_of_le_of_lt (UInt32.le_iff_toNat_le.mp hupper.2) (by decide)
  · exact h

theorem isAscii_of_map_toLower {s t : List Char} (h : s.map Char.toLower = t) (ht : IsAscii t) :
    IsAscii s := by
  intro c hc
  exact toNat_lt_of_toLower (ht _ (h ▸ List.mem_map_of_mem hc))

/-- Neither what stands before an ASCII character nor what follows it decides its case. -/
theorem lowercaseFrom_cons_ascii {c : Char} (hc : c.toNat < 0x80) (before rest : List Char) :
    lowercaseFrom before (c :: rest) = c.toLower :: lowercaseFrom (c :: before) rest := by
  have hsigma : c ≠ capitalSigma := by
    rintro rfl
    exact absurd hc (by decide)
  simp [lowercaseFrom, hsigma, lowercaseChar, hc]

theorem lowercaseFrom_ascii_append {s : List Char} (h : IsAscii s) (before t : List Char) :
    lowercaseFrom before (s ++ t) =
      s.map Char.toLower ++ lowercaseFrom (s.reverse ++ before) t := by
  induction s generalizing before with
  | nil => rfl
  | cons c rest ih =>
    have hrest := ih (fun d hd => h d (List.mem_cons_of_mem c hd)) (c :: before)
    rw [List.cons_append, lowercaseFrom_cons_ascii (h c List.mem_cons_self), hrest]
    simp

/-- The ASCII parts of a text are parts of its lowercase form. -/
theorem infix_lowercaseFrom {part s : List Char} (hpart : IsAscii part) (h : part <:+: s)
    (before : List Char) : part.map Char.toLower <:+: lowercaseFrom before s := by
  obtain ⟨front, back, rfl⟩ := h
  rw [List.append_assoc]
  -- what is before the part is lowercased first, and becomes a front of another kind
  induction front generalizing before with
  | nil =>
    rw [List.nil_append, lowercaseFrom_ascii_append hpart]
    exact (List.prefix_append _ _).isInfix
  | cons c rest ih => exact (ih (c :: before)).trans (List.suffix_append _ _).isInfix

theorem lowercaseFrom_ascii {s : List Char} (h : IsAscii s) (before : List Char) :
    lowercaseFrom before s = s.map Char.toLower := by
  have happend := lowercaseFrom_ascii_append h before []
  rwa [List.append_nil, lowercaseFrom, List.append_nil] at happend

/-! ## Blanks -/

/-- No letter has a blank for its other case. -/
theorem isBlank_toLower {c : Char} (h : isBlank c = true) : isBlank c.toLower = true := by
  unfold Char.toLower
  split
  · next hupper =>
    have hlower : 65 ≤ c.toNat := UInt32.le_iff_toNat_le.mp hupper.1
    have hle : c.toNat ≤ 90 := UInt32.le_iff_toNat_le.mp hupper.2
    simp [isBlank, isBlankCode] at h
    omega
  · exact h

/-- The blanks around a text without blanks are dropped. -/
theorem trim_framed {front core back : List Char} (hfront : ∀ c ∈ front, isBlank c = true)
    (hcore : ∀ c ∈ core, isBlank c = false) (hne : core ≠ [])
    (hback : ∀ c ∈ back, isBlank c = true) : trim (front ++ core ++ back) = core := by
  have hstop {s : List Char} (hs : ∀ c ∈ s, isBlank c = false) (hs' : s ≠ []) (t : List Char) :
      (s ++ t).dropWhile isBlank = s ++ t := by
    obtain ⟨c, rest, rfl⟩ := List.ne_nil_iff_exists_cons.mp hs'
    exact List.dropWhile_cons_of_neg (by simp [hs c List.mem_cons_self])
  have hstart : (front ++ core ++ back).dropWhile isBlank = core ++ back := by
    rw [List.append_assoc, List.dropWhile_append_of_pos hfront, hstop hcore hne]
  have hend : (back.reverse ++ core.reverse).dropWhile isBlank = core.reverse := by
    rw [List.dropWhile_append_of_pos fun c hc => hback c (List.mem_reverse.mp hc)]
    simpa using hstop (fun c hc => hcore c (List.mem_reverse.mp hc)) (by simpa using hne) []
  rw [trim, hstart, dropTrailing, List.reverse_append, hend, List.reverse_reverse]

/-- A character that is no blank is never trimmed. -/
theorem mem_trim {c : Char} (hc : isBlank c = false) {s : List Char} (h : c ∈ s) : c ∈ trim s := by
  have hdrop {s : List Char} (h : c ∈ s) : c ∈ s.dropWhile isBlank := by
    rw [← List.takeWhile_append_dropWhile (p := isBlank) (l := s)] at h
    rcases List.mem_append.mp h with h | h
    · rw [List.mem_takeWhile_imp h] at hc
      cases hc
    · exact h
  exact List.mem_reverse.mpr (hdrop (List.mem_reverse.mpr (hdrop h)))

theorem mem_of_mem_trim {c : Char} {s : List Char} (h : c ∈ trim s) : c ∈ s := by
  have hstart : c ∈ s.dropWhile isBlank :=
    List.mem_reverse.mp ((List.dropWhile_sublist _).mem (List.mem_reverse.mp h))
  exact (List.dropWhile_sublist _).mem hstart

/-- Something is left of a text exactly if not all of it is blank. -/
theorem trim_eq_nil_iff {s : List Char} : trim s = [] ↔ ∀ c ∈ s, isBlank c = true := by
  constructor
  · intro h c hc
    by_contra hblank
    have hm := mem_trim (Bool.eq_false_iff.mpr hblank) hc
    rw [h] at hm
    cases hm
  · intro h
    have hdrop : s.dropWhile isBlank = [] := List.dropWhile_eq_nil_iff.mpr h
    rw [trim, hdrop]
    rfl

end Gateway.Text
