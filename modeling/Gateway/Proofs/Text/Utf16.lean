import Gateway.Text.Utf16

/- Texts and their units. The units of a character are one that is no surrogate, or a high
   surrogate and a low one (`unitsOfChar_cases`), so the characters are read off again one by
   one (`ofUnits_toUnits_append`). -/
namespace Gateway.Text

theorem toNat_valid (c : Char) :
    c.toNat < 0xD800 ∨ (0xDFFF < c.toNat ∧ c.toNat < 0x110000) := c.valid

section
variable {n : Nat} (h : n < 0x10000)
include h

theorem toNat_unit : (UInt16.ofNat n).toNat = n := UInt16.toNat_ofNat_of_lt' h

theorem isHighSurrogate_unit :
    isHighSurrogate (UInt16.ofNat n) = decide (0xD800 ≤ n ∧ n < 0xDC00) := by
  simp [isHighSurrogate, UInt16.le_iff_toNat_le, UInt16.lt_iff_toNat_lt, toNat_unit h]

theorem isLowSurrogate_unit :
    isLowSurrogate (UInt16.ofNat n) = decide (0xDC00 ≤ n ∧ n < 0xE000) := by
  simp [isLowSurrogate, UInt16.le_iff_toNat_le, UInt16.lt_iff_toNat_lt, toNat_unit h]

end

/-- A character is one unit that stands for itself, or a pair of surrogates. -/
theorem unitsOfChar_cases (c : Char) :
    (∃ u, unitsOfChar c = [u] ∧ isHighSurrogate u = false ∧ isLowSurrogate u = false ∧
      Char.ofNat u.toNat = c) ∨
    (∃ high low, unitsOfChar c = [high, low] ∧ isHighSurrogate high = true ∧
      isLowSurrogate low = true ∧ Char.ofNat (pairCode high low) = c) := by
  have hvalid := toNat_valid c
  unfold unitsOfChar pairCode
  split
  · next hsmall =>
    refine .inl ⟨_, rfl, ?_, ?_, ?_⟩
    · rw [isHighSurrogate_unit hsmall, decide_eq_false_iff_not]
      omega
    · rw [isLowSurrogate_unit hsmall, decide_eq_false_iff_not]
      omega
    · rw [toNat_unit hsmall, Char.ofNat_toNat]
  · next hlarge =>
    have hhigh : 0xD800 + (c.toNat - 0x10000) / 0x400 < 0x10000 := by omega
    have hlow : 0xDC00 + (c.toNat - 0x10000) % 0x400 < 0x10000 := by omega
    refine .inr ⟨_, _, rfl, ?_, ?_, ?_⟩
    · rw [isHighSurrogate_unit hhigh, decide_eq_true_eq]
      omega
    · rw [isLowSurrogate_unit hlow, decide_eq_true_eq]
      omega
    · have hcode : 0x10000 + (c.toNat - 0x10000) / 0x400 * 0x400 +
          (c.toNat - 0x10000) % 0x400 = c.toNat := by omega
      rw [toNat_unit hhigh, toNat_unit hlow, Nat.add_sub_cancel_left, Nat.add_sub_cancel_left,
        hcode, Char.ofNat_toNat]

/-- A unit that is no surrogate stands for one character only. -/
theorem eq_of_mem_unitsOfChar {c : Char} {u : CodeUnit} (h : u ∈ unitsOfChar c)
    (hhigh : isHighSurrogate u = false) (hlow : isLowSurrogate u = false) :
    Char.ofNat u.toNat = c := by
  rcases unitsOfChar_cases c with ⟨v, hc, -, -, hcode⟩ | ⟨v, w, hc, hv, hw, -⟩
  · rw [hc, List.mem_singleton] at h
    rw [h, hcode]
  · rw [hc] at h
    rcases List.mem_cons.mp h with rfl | h
    · rw [hv] at hhigh
      cases hhigh
    · obtain rfl := List.mem_singleton.mp h
      rw [hw] at hlow
      cases hlow

theorem ofUnits_cons {u : CodeUnit} (hhigh : isHighSurrogate u = false)
    (hlow : isLowSurrogate u = false) (rest : List CodeUnit) :
    ofUnits (u :: rest) = Char.ofNat u.toNat :: ofUnits rest := by
  cases rest with
  | nil => simp [ofUnits, hhigh, hlow]
  | cons v rest => simp [ofUnits, hhigh, hlow]

/-- The characters of a text are read off its units, whatever stands behind them. -/
theorem ofUnits_toUnits_append (s : List Char) (rest : List CodeUnit) :
    ofUnits (toUnits s ++ rest) = s ++ ofUnits rest := by
  induction s with
  | nil => rfl
  | cons c s ih =>
    have hcons : toUnits (c :: s) = unitsOfChar c ++ toUnits s := rfl
    rw [hcons, List.append_assoc, List.cons_append]
    rcases unitsOfChar_cases c with ⟨u, hc, hhigh, hlow, hcode⟩ | ⟨u, v, hc, hhigh, hlow, hcode⟩
    · rw [hc, List.singleton_append, ofUnits_cons hhigh hlow, hcode, ih]
    · rw [hc, List.cons_append, List.singleton_append, ofUnits, hhigh, hlow]
      simp [hcode, ih]

theorem ofUnits_toUnits (s : List Char) : ofUnits (toUnits s) = s := by
  simpa [ofUnits] using ofUnits_toUnits_append s []

end Gateway.Text
