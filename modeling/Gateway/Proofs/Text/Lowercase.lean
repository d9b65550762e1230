import Gateway.Proofs.Text.Letters

/- The lowercase form of a text is its own lowercase form (`lowercase_lowercase`), so names that
   differ in letter case only are told by it. This rests on one pass over the table of letters:
   no lowercase form in it has another one (`lowercaseRuns_settled`). Digits have no case, so a
   text of digits is the lowercase form of itself alone (`eq_of_lowercase_digits`). -/
namespace Gateway.Text

/-- A character that is its own lowercase form wherever it stands. -/
structure IsLowercase (c : Char) : Prop where
  ne_capitalSigma : c ≠ capitalSigma
  lowercaseChar_eq : lowercaseChar c = [c]

/-! ## The table -/

/-- Whether a run holds none of the code points from `first` to `last` in these steps. -/
def misses (first last step : Nat) (r : Nat × Nat × Nat × Int) : Bool :=
  Nat.blt last r.1 || Nat.blt r.2.1 first ||
    ((Nat.beq step 2 || Nat.beq first last) && Nat.beq r.2.2.1 2 && Nat.beq ((first + r.1) % 2) 1)

/-- Whether the lowercase forms in a run have no other lowercase form. All of them are
    characters, and beyond ASCII unless they are the letter k. -/
def isSettledRun (r : Nat × Nat × Nat × Int) : Bool :=
  let first := (r.1 + r.2.2.2).toNat
  let last := (r.2.1 + r.2.2.2).toNat
  (Nat.ble 0x80 first || (Nat.beq first 0x6B && Nat.beq last 0x6B)) &&
    (Nat.blt last 0xD800 || (Nat.blt 0xDFFF first && Nat.blt last 0x110000)) &&
    (misses first last r.2.2.1 (0x130, 0x130, 1, 0) &&
      lowercaseRuns.all (misses first last r.2.2.1))

theorem lowercaseRuns_settled : lowercaseRuns.all isSettledRun = true := by decide +kernel

/-- The code point belongs to the run. -/
def InRun (n : Nat) (r : Nat × Nat × Nat × Int) : Prop :=
  r.1 ≤ n ∧ n ≤ r.2.1 ∧ (n - r.1) % r.2.2.1 = 0

theorem lowercaseCode_cases (n : Nat) :
    (∃ r ∈ lowercaseRuns, InRun n r ∧ lowercaseCode n = (n + r.2.2.2).toNat) ∨
    ((∀ r ∈ lowercaseRuns, ¬ InRun n r) ∧ lowercaseCode n = n) := by
  unfold lowercaseCode
  split
  · next r hfind =>
    have hin := List.find?_some hfind
    simp only [Bool.and_eq_true, decide_eq_true_eq, beq_iff_eq, and_assoc] at hin
    exact .inl ⟨r, List.mem_of_find?_eq_some hfind, hin, rfl⟩
  · next hfind =>
    refine .inr ⟨fun r hr hin => ?_, rfl⟩
    have hout := List.find?_eq_none.mp hfind r hr
    simp only [Bool.and_eq_true, decide_eq_true_eq, beq_iff_eq, and_assoc] at hout
    exact hout hin

theorem lowercaseCode_of_not_inRun {n : Nat} (h : ∀ r ∈ lowercaseRuns, ¬ InRun n r) :
    lowercaseCode n = n := by
  rcases lowercaseCode_cases n with ⟨r, hr, hin, -⟩ | ⟨-, hn⟩
  · exact absurd hin (h r hr)
  · exact hn

/-- What a settled run makes of its code points. -/
theorem lowercaseCode_settled {n : Nat} {r : Nat × Nat × Nat × Int} (hin : InRun n r)
    (hr : isSettledRun r = true) :
    (0x80 ≤ (n + r.2.2.2).toNat ∨ (n + r.2.2.2).toNat = 0x6B) ∧
      (n + r.2.2.2).toNat.isValidChar ∧ (n + r.2.2.2).toNat ≠ 0x130 ∧
      ∀ s ∈ lowercaseRuns, ¬ InRun (n + r.2.2.2).toNat s := by
  obtain ⟨first, last, step, shift⟩ := r
  obtain ⟨hfirst, hlast, hstep⟩ := hin
  simp only [isSettledRun, Bool.and_eq_true, Bool.or_eq_true, Nat.ble_eq, Nat.blt_eq, Nat.beq_eq,
    List.all_eq_true] at hr
  simp only at hfirst hlast hstep
  obtain ⟨⟨hascii, hvalid⟩, hdotted, hmiss⟩ := hr
  -- the code points of the run keep their order and their distance
  have hshift : (n + shift).toNat = (first + shift).toNat + (n - first) := by omega
  have hle : (n + shift).toNat ≤ (last + shift).toNat := by omega
  have hout {s : Nat × Nat × Nat × Int}
      (hs : misses (first + shift).toNat (last + shift).toNat step s = true) :
      ¬ InRun (n + shift).toNat s := by
    rintro ⟨hlow, hhigh, hmod⟩
    simp only [misses, Bool.or_eq_true, Bool.and_eq_true, Nat.blt_eq, Nat.beq_eq] at hs
    rcases hs with (hs | hs) | ⟨⟨hs, htwo⟩, hodd⟩
    · omega
    · omega
    · rw [htwo] at hmod
      rcases hs with rfl | hs <;> omega
  refine ⟨?_, ?_, ?_, fun s hs => hout (hmiss s hs)⟩
  · simp only
    omega
  · simp only [Nat.isValidChar]
    omega
  · intro hdot
    exact hout hdotted ⟨hdot.ge, hdot.le, Nat.mod_one _⟩

/-- The code point that a character becomes is that of a character, which is in no run. -/
theorem lowercaseCode_fixed {c : Char} (hc : c ≠ capitalDottedI) :
    (lowercaseCode c.toNat).isValidChar ∧ lowercaseCode c.toNat ≠ 0x130 ∧
      ∀ r ∈ lowercaseRuns, ¬ InRun (lowercaseCode c.toNat) r := by
  rcases lowercaseCode_cases c.toNat with ⟨r, hr, hin, hcode⟩ | ⟨hout, hcode⟩
  · have hsettled := lowercaseCode_settled hin (List.all_eq_true.mp lowercaseRuns_settled r hr)
    rw [hcode]
    exact hsettled.2
  · rw [hcode]
    refine ⟨c.valid, fun hdotted => hc ?_, hout⟩
    rw [← Char.ofNat_toNat c, hdotted]
    rfl

/-- Beyond ASCII only the letter k can come of a character. -/
theorem lowercaseCode_ascii {n : Nat} (hn : 0x80 ≤ n) :
    0x80 ≤ lowercaseCode n ∨ lowercaseCode n = 0x6B := by
  rcases lowercaseCode_cases n with ⟨r, hr, hin, hcode⟩ | ⟨-, hcode⟩
  · rw [hcode]
    exact (lowercaseCode_settled hin (List.all_eq_true.mp lowercaseRuns_settled r hr)).1
  · rw [hcode]
    exact .inl hn

/-! ## Characters -/

theorem toNat_ofNat_of_valid {n : Nat} (h : n.isValidChar) : (Char.ofNat n).toNat = n := by
  rw [Char.ofNat, dif_pos h]
  rfl

/-- A character that is in no run is its own lowercase form. -/
theorem isLowercase_ofNat {n : Nat} (hvalid : n.isValidChar) (hdotted : n ≠ 0x130)
    (hascii : n < 0x80 → n = 0x6B) (hout : ∀ r ∈ lowercaseRuns, ¬ InRun n r) :
    IsLowercase (Char.ofNat n) := by
  have htoNat := toNat_ofNat_of_valid hvalid
  refine ⟨fun hsigma => ?_, ?_⟩
  · -- the capital sigma is in a run
    have hn : n = 0x3A3 := by rw [← htoNat, hsigma]; rfl
    exact hout (0x3A3, 0x3AB, 1, 32) (by decide) (by subst hn; exact ⟨by decide, by decide, rfl⟩)
  · by_cases hlow : n < 0x80
    · rw [hascii hlow]
      rfl
    · have hne : Char.ofNat n ≠ capitalDottedI := by
        intro hdot
        exact hdotted (by rw [← htoNat, hdot]; rfl)
      rw [lowercaseChar, htoNat, if_neg hlow, if_neg hne, lowercaseCode_of_not_inRun hout]

theorem isLowercase_toLower {c : Char} (hc : c.toNat < 0x80) : IsLowercase c.toLower := by
  have hlower : c.toLower.toNat < 0x80 ∧ c.toLower.toLower = c.toLower :=
    forall_ascii (p := fun c => c.toLower.toNat < 0x80 ∧ c.toLower.toLower = c.toLower)
      (by decide) hc
  refine ⟨fun hsigma => ?_, ?_⟩
  · exact absurd hlower.1 (by rw [hsigma]; decide)
  · rw [lowercaseChar, if_pos hlower.1, hlower.2]

/-- What a character becomes stays as it is. -/
theorem isLowercase_of_mem_lowercaseChar {c d : Char} (h : d ∈ lowercaseChar c) : IsLowercase d := by
  rw [lowercaseChar] at h
  split at h
  · next hc =>
    obtain rfl := List.mem_singleton.mp h
    exact isLowercase_toLower hc
  · next hc =>
    split at h
    · -- the small i and the dot above it
      rcases List.mem_pair.mp h with rfl | rfl
      · exact ⟨by decide, rfl⟩
      · exact ⟨by decide, by decide +kernel⟩
    · next hdotted =>
      obtain rfl := List.mem_singleton.mp h
      obtain ⟨hvalid, hdot, hout⟩ := lowercaseCode_fixed hdotted
      refine isLowercase_ofNat hvalid hdot (fun hlow => ?_) hout
      rcases lowercaseCode_ascii (Nat.le_of_not_lt hc) with hhigh | hk
      · omega
      · exact hk

theorem isLowercase_of_isDigit {c : Char} (h : c.isDigit = true) : IsLowercase c := by
  rw [Char.isDigit_iff_toNat] at h
  have hzero : '0'.toNat = 0x30 := rfl
  have hnine : '9'.toNat = 0x39 := rfl
  have hlower : c.toLower = c := by
    unfold Char.toLower
    split
    · next hupper =>
      have hbound : 0x41 ≤ c.toNat := UInt32.le_iff_toNat_le.mp hupper.1
      omega
    · rfl
  rw [← hlower]
  exact isLowercase_toLower (by omega)

theorem lowercaseChar_eq_digit {c : Char} (h : ∀ d ∈ lowercaseChar c, d.isDigit = true) :
    lowercaseChar c = [c] := by
  rw [lowercaseChar] at h ⊢
  split at h
  · next hc =>
    have hlower : c.toLower.isDigit = true → c.toLower = c :=
      forall_ascii (p := fun c => c.toLower.isDigit = true → c.toLower = c) (by decide) hc
    rw [if_pos hc, hlower (h _ (List.mem_singleton_self _))]
  · next hc =>
    split at h
    · exact absurd (h 'i' (by simp)) (by decide)
    · next hdotted =>
      have hdigit : (Char.ofNat (lowercaseCode c.toNat)).isDigit = true :=
        h _ (List.mem_singleton_self _)
      rcases lowercaseCode_ascii (Nat.le_of_not_lt hc) with hhigh | hk
      · -- digits are ASCII
        rw [Char.isDigit_iff_toNat, toNat_ofNat_of_valid (lowercaseCode_fixed hdotted).1] at hdigit
        have hnine : '9'.toNat = 0x39 := rfl
        omega
      · rw [hk] at hdigit
        cases hdigit

/-! ## Texts -/

theorem isLowercase_of_mem_lowercaseFrom {before s : List Char} {d : Char}
    (h : d ∈ lowercaseFrom before s) : IsLowercase d := by
  induction s generalizing before with
  | nil => cases h
  | cons c rest ih =>
    rw [lowercaseFrom] at h
    rcases List.mem_append.mp h with h | h
    · split at h
      · -- the final sigma
        obtain rfl := List.mem_singleton.mp h
        exact ⟨by decide, by decide +kernel⟩
      · exact isLowercase_of_mem_lowercaseChar h
    · exact ih h

theorem lowercaseFrom_of_isLowercase {s : List Char} (h : ∀ c ∈ s, IsLowercase c)
    (before : List Char) : lowercaseFrom before s = s := by
  induction s generalizing before with
  | nil => rfl
  | cons c rest ih =>
    have hc := h c List.mem_cons_self
    have hrest := ih (fun d hd => h d (List.mem_cons_of_mem c hd)) (c :: before)
    simp [lowercaseFrom, hc.ne_capitalSigma, hc.lowercaseChar_eq, hrest]

/-- Digits come of themselves only. -/
theorem eq_of_lowercaseFrom_digits {before s : List Char}
    (h : ∀ c ∈ lowercaseFrom before s, c.isDigit = true) : lowercaseFrom before s = s := by
  induction s generalizing before with
  | nil => rfl
  | cons c rest ih =>
    rw [lowercaseFrom] at h ⊢
    have hrest := ih fun d hd => h d (List.mem_append_right _ hd)
    split at h
    · exact absurd (h '\u03C2' (by simp)) (by decide)
    · next hsigma =>
      have hfirst := lowercaseChar_eq_digit fun d hd => h d (List.mem_append_left _ hd)
      rw [if_neg hsigma, hfirst, hrest]
      rfl

end Gateway.Text

namespace Gateway

open Gateway.Text

/-- A lowercase form has no other lowercase form. -/
theorem lowercase_lowercase (s : String) : lowercase (lowercase s) = lowercase s := by
  unfold lowercase
  rw [String.toList_ofList, lowercaseFrom_of_isLowercase fun c => isLowercase_of_mem_lowercaseFrom]

/-- A text of digits has no other spelling. -/
theorem eq_of_lowercase_digits {s digits : String} (hdigits : ∀ c ∈ digits.toList, c.isDigit = true)
    (h : lowercase s = lowercase digits) : s = digits := by
  unfold lowercase at h
  have hlower := String.ofList_injective h
  rw [lowercaseFrom_of_isLowercase fun c hc => isLowercase_of_isDigit (hdigits c hc)] at hlower
  have hsame := eq_of_lowercaseFrom_digits fun c hc => hdigits c (hlower ▸ hc)
  exact String.toList_injective (hsame.symm.trans hlower)

end Gateway
