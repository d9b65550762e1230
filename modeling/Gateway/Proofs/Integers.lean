import Gateway.Proofs.Number
import Mathlib.Algebra.Group.Nat.Defs

/- Integers as numbers. An integer below 2 ^ 53 is held exactly (`ofRatio_exact`), so it is the value
   of its number and of no other one (`toNat?_ofNat`). Its text is found by trying counts of digits
   from one on. A count is enough exactly if all places behind it hold zeros (`digitsOf?_ofNat`), and
   the zeros are written again in front of the point, so the text is the one of the integer
   (`toText_ofNat`). -/
namespace Gateway.Number

/-! ## Integers are held exactly -/

theorem roundDiv_mul {q d : Nat} (hd : 0 < d) : roundDiv (q * d) d = q := by
  rw [roundDiv, Nat.mul_div_cancel q hd, Nat.mul_mod_left]
  simp [hd]

/-- How an integer is held: with 53 binary digits, the zeros behind it included. -/
def held (n : Nat) : Number := .finite false (n * 2 ^ (52 - n.log2)) ((n.log2 : Int) - 52)

section
variable {n : Nat} (hn : 0 < n)
include hn

theorem mul_two_pow_ne_zero (k : Nat) : n * 2 ^ k ≠ 0 :=
  Nat.ne_of_gt (Nat.mul_pos hn (Nat.two_pow_pos k))

theorem log2_mul_two_pow (k : Nat) : (n * 2 ^ k).log2 = n.log2 + k := by
  rw [Nat.log2_eq_iff (mul_two_pow_ne_zero hn k), Nat.pow_add, Nat.add_right_comm, Nat.pow_add]
  exact ⟨Nat.mul_le_mul_right _ (Nat.log2_self_le (Nat.ne_of_gt hn)),
    Nat.mul_lt_mul_of_pos_right Nat.lt_log2_self (Nat.two_pow_pos k)⟩

variable (h : n < 2 ^ 53)
include h

theorem log2_le : n.log2 ≤ 52 := Nat.le_of_lt_succ ((Nat.log2_lt (Nat.ne_of_gt hn)).mpr h)

theorem exponentOf_exact (k : Nat) : exponentOf (n * 2 ^ k) (2 ^ k) = (n.log2 : Int) - 52 := by
  have hlog := log2_le hn h
  have hguess : ((n * 2 ^ k).log2 : Int) - (2 ^ k).log2 - 52 = (n.log2 : Int) - 52 := by
    rw [log2_mul_two_pow hn, Nat.log2_two_pow]
    omega
  have hplace : (n.log2 : Int) - 52 + 52 = n.log2 := by omega
  have hleast : max minExponent ((n.log2 : Int) - 52) = (n.log2 : Int) - 52 := by
    rw [minExponent]
    omega
  have hbelow : isBelow (n * 2 ^ k) (2 ^ k) n.log2 = false := by
    have hle : 2 ^ k * 2 ^ n.log2 ≤ n * 2 ^ k := by
      rw [Nat.mul_comm]
      exact Nat.mul_le_mul_right _ (Nat.log2_self_le (Nat.ne_of_gt hn))
    have hnot : ¬ (n.log2 : Int) < 0 := by omega
    rw [isBelow, if_neg hnot]
    exact decide_eq_false (Nat.not_lt.mpr hle)
  rw [exponentOf, hguess, hplace, hbelow, if_neg Bool.false_ne_true, hleast]

theorem scaled_exact (k : Nat) :
    scaled (n * 2 ^ k) (2 ^ k) ((n.log2 : Int) - 52) = n * 2 ^ (52 - n.log2) := by
  have hlog := log2_le hn h
  have hpos : 0 < 2 ^ k := Nat.two_pow_pos k
  unfold scaled
  split
  · have hplaces : (-((n.log2 : Int) - 52)).toNat = 52 - n.log2 := by omega
    have hswap : n * 2 ^ k * Nat.pow 2 (52 - n.log2) = n * 2 ^ (52 - n.log2) * 2 ^ k :=
      Nat.mul_right_comm ..
    rw [hplaces, hswap, roundDiv_mul hpos]
  · have hplaces : ((n.log2 : Int) - 52).toNat = 0 := by omega
    have hzero : 52 - n.log2 = 0 := by omega
    rw [hplaces, hzero]
    exact (congrArg (roundDiv (n * 2 ^ k)) (Nat.mul_one _)).trans
      ((roundDiv_mul hpos).trans (Nat.mul_one n).symm)

/-- The digits fill their places, and there are no more of them. -/
theorem significand_lt : n * 2 ^ (52 - n.log2) < 2 ^ 53 := by
  have hlog := log2_le hn h
  have hplaces : n.log2 + 1 + (52 - n.log2) = 53 := by omega
  calc n * 2 ^ (52 - n.log2)
      < 2 ^ (n.log2 + 1) * 2 ^ (52 - n.log2) :=
        Nat.mul_lt_mul_of_pos_right Nat.lt_log2_self (Nat.two_pow_pos _)
    _ = 2 ^ 53 := by rw [← Nat.pow_add, hplaces]

theorem ofRatio_exact (k : Nat) : ofRatio false (n * 2 ^ k) (2 ^ k) = held n := by
  have hfull : n * 2 ^ (52 - n.log2) ≠ Nat.pow 2 53 := Nat.ne_of_lt (significand_lt hn h)
  have hlog := log2_le hn h
  have he : ¬ maxExponent < (n.log2 : Int) - 52 := by
    rw [maxExponent]
    omega
  rw [ofRatio, if_neg (mul_two_pow_ne_zero hn k), exponentOf_exact hn h]
  dsimp only
  rw [scaled_exact hn h, if_neg hfull]
  dsimp only
  rw [if_neg (mul_two_pow_ne_zero hn _), if_neg he]
  rfl

theorem ofNat_eq_held : ofNat n = held n := by
  have hexact := ofRatio_exact hn h 0
  rwa [Nat.pow_zero, Nat.mul_one] at hexact

theorem ratio_held :
    ratio (n * 2 ^ (52 - n.log2)) ((n.log2 : Int) - 52) =
      (n * 2 ^ (52 - n.log2), 2 ^ (52 - n.log2)) := by
  have hlog := log2_le hn h
  unfold ratio
  split
  · have hplaces : (-((n.log2 : Int) - 52)).toNat = 52 - n.log2 := by omega
    rw [hplaces]
    rfl
  · have hplaces : ((n.log2 : Int) - 52).toNat = 0 := by omega
    have hzero : 52 - n.log2 = 0 := by omega
    rw [hplaces, hzero]
    exact congrArg (·, 1) (Nat.mul_one _)

end

theorem toNat?_zero : toNat? 0 = some 0 := by
  have hzero : (0 : Number) = .finite false 0 minExponent := by decide
  -- the denominator is too large to be computed
  have hratio : ratio 0 minExponent = (0, Nat.pow 2 (-minExponent).toNat) := if_pos (by decide)
  simp only [hzero, toNat?, hratio, Nat.zero_mod, Nat.zero_div, decide_true, Bool.not_false,
    Bool.true_or, Bool.and_self, if_true]

/-- An integer is the value of its number. -/
theorem toNat?_ofNat {n : Nat} (h : n < 2 ^ 53) : (ofNat n).toNat? = some n := by
  rcases Nat.eq_zero_or_pos n with rfl | hn
  · exact toNat?_zero
  · have hpos : 0 < 2 ^ (52 - n.log2) := Nat.two_pow_pos _
    rw [ofNat_eq_held hn h, held, toNat?, ratio_held hn h]
    simp [Nat.mul_mod_left, Nat.mul_div_cancel n hpos]

theorem ofNat_inj {m n : Nat} (hm : m < 2 ^ 53) (hn : n < 2 ^ 53) : ofNat m = ofNat n ↔ m = n := by
  constructor
  · intro h
    have hvalue := congrArg toNat? h
    rw [toNat?_ofNat hm, toNat?_ofNat hn] at hvalue
    exact Option.some.inj hvalue
  · intro h
    rw [h]

/-! ## Counts of digits -/

/-- The number of decimal digits. -/
def places (n : Nat) : Nat := (Nat.toDigits 10 n).length

theorem places_le {n k : Nat} (hk : 0 < k) (h : n < 10 ^ k) : places n ≤ k :=
  (Nat.length_toDigits_le_iff (by decide) hk).mpr h

theorem places_le_sixteen {n : Nat} (h : n < 2 ^ 53) : places n ≤ 16 :=
  places_le (by decide) (Nat.lt_trans h (by decide))

/-- A number is as large as its first digit in its place. -/
theorem ten_pow_le {n j : Nat} (hn : 0 < n) (hj : j < places n) : 10 ^ j ≤ n := by
  rcases Nat.eq_zero_or_pos j with rfl | hpos
  · exact hn
  · rw [← Nat.not_lt]
    intro hlt
    have hle := places_le hpos hlt
    omega

/-- An integer that is given as digits and zeros behind them. -/
theorem ofDecimal_eq_ofNat {x j : Nat} (h : x * 10 ^ j < 2 ^ 53) :
    ofDecimal false x j = ofNat (x * 10 ^ j) := by
  rcases Nat.eq_zero_or_pos x with rfl | hx
  · rw [Nat.zero_mul]
    rfl
  · have hsmall : (2 : Nat) ^ 53 < 10 ^ 16 := by decide
    have hdigits : x ≤ x * 10 ^ j := Nat.le_mul_of_pos_right x (Nat.pow_pos (by decide))
    have hzeros : 10 ^ j ≤ x * 10 ^ j := Nat.le_mul_of_pos_left _ hx
    have hlength : places x ≤ 16 := places_le_sixteen (by omega)
    have hj : j < 16 := (Nat.pow_lt_pow_iff_right (a := 10) (by decide)).mp (by omega)
    unfold places at hlength
    have hrange : ¬(x = 0 ∨ ((Nat.toDigits 10 x).length + j : Int) < -330) := by omega
    have hmost : ¬ (310 : Int) < (Nat.toDigits 10 x).length + j := by omega
    have hsign : ¬ (j : Int) < 0 := by omega
    rw [ofDecimal, if_neg (by simpa using hrange), if_neg hmost, if_neg hsign, Int.toNat_natCast]
    rfl

/-- The digits of the first count that is enough. Proved in tactics, since a proof that is `rfl` by
    itself is checked by evaluating both sides. -/
theorem shortestFrom_succ (value : Number) (num den fuel n : Nat) :
    shortestFrom value num den (fuel + 1) n =
      match digitsOf? value num den n with
      | some digits => (digits, pointOf num den - n)
      | none => shortestFrom value num den fuel (n + 1) := by
  rfl

section
variable {n : Nat} (hn : 0 < n)
include hn

theorem pointOf_exact (k : Nat) : pointOf (n * 2 ^ k) (2 ^ k) = places n := by
  have hpos : 0 < 2 ^ k := Nat.two_pow_pos k
  rw [pointOf, if_pos (Nat.le_mul_of_pos_left _ hn), Nat.mul_div_cancel n hpos]
  rfl

omit hn in
/-- The digits in front of the last `j` places, where these hold zeros. -/
theorem onGrid_exact (k : Nat) (j : Nat) :
    (onGrid (n * 2 ^ k) (2 ^ k) j).1 = n / 10 ^ j ∧
      (10 ^ j ∣ n → (onGrid (n * 2 ^ k) (2 ^ k) j).2 = false) := by
  have hpos : 0 < 2 ^ k := Nat.two_pow_pos k
  have hgrid : onGrid (n * 2 ^ k) (2 ^ k) j = (n / 10 ^ j,
      decide (2 ^ k * 10 ^ j < 2 * (2 ^ k * (n % 10 ^ j))) ||
        decide (2 ^ k * 10 ^ j = 2 * (2 ^ k * (n % 10 ^ j))) && n / 10 ^ j % 2 = 1) := by
    have hsign : ¬ (j : Int) < 0 := by omega
    have hdiv : n * 2 ^ k / (2 ^ k * 10 ^ j) = n / 10 ^ j := by
      rw [Nat.mul_comm, Nat.mul_div_mul_left _ _ hpos]
    have hmod : n * 2 ^ k % (2 ^ k * 10 ^ j) = 2 ^ k * (n % 10 ^ j) := by
      rw [Nat.mul_comm, Nat.mul_mod_mul_left]
    rw [← hdiv, ← hmod, onGrid, if_neg hsign, Int.toNat_natCast]
    simp
  rw [hgrid]
  refine ⟨rfl, fun hdvd => ?_⟩
  have hstep : 0 < 2 ^ k * 10 ^ j := Nat.mul_pos hpos (Nat.pow_pos (by decide))
  rw [Nat.mod_eq_zero_of_dvd hdvd, Nat.mul_zero, Nat.mul_zero]
  simp only [Nat.not_lt_zero, Nat.ne_of_gt hstep, decide_false, Bool.false_and, Bool.or_self]

variable (h : n < 2 ^ 52)
include h

/-- So many digits are enough exactly if the places behind them hold zeros. -/
theorem digitsOf?_ofNat (k : Nat) {count j : Nat} (hcount : 0 < count)
    (hj : count + j = places n) :
    digitsOf? (ofNat n) (n * 2 ^ k) (2 ^ k) count =
      if 10 ^ j ∣ n then some (n / 10 ^ j) else none := by
  have hpoint : pointOf (n * 2 ^ k) (2 ^ k) - count = j := by
    rw [pointOf_exact hn]
    omega
  have hle : 10 ^ j ≤ n := ten_pow_le hn (by omega)
  have hlow : n / 10 ^ j * 10 ^ j ≤ n := Nat.div_mul_le_self n _
  have hnext : (n / 10 ^ j + 1) * 10 ^ j = n / 10 ^ j * 10 ^ j + 10 ^ j := Nat.succ_mul ..
  have habove : n < (n / 10 ^ j + 1) * 10 ^ j := by
    rw [Nat.mul_comm]
    exact Nat.lt_mul_div_succ n (Nat.pow_pos (by decide))
  -- the digits below the integer read back if nothing is cut off, those above it never do
  have hbelow : ofDecimal false (n / 10 ^ j) j = ofNat n ↔ 10 ^ j ∣ n := by
    rw [ofDecimal_eq_ofNat (by omega), ofNat_inj (by omega) (by omega)]
    exact ⟨fun heq => ⟨n / 10 ^ j, by rw [Nat.mul_comm, heq]⟩, Nat.div_mul_cancel⟩
  have hnever : ofDecimal false (n / 10 ^ j + 1) j ≠ ofNat n := by
    rw [ofDecimal_eq_ofNat (by omega), ne_eq, ofNat_inj (by omega) (by omega)]
    omega
  obtain ⟨hfirst, hup⟩ := onGrid_exact (n := n) k j
  rw [digitsOf?]
  dsimp only
  rw [hpoint, hfirst]
  by_cases hdvd : 10 ^ j ∣ n
  · simp [hup hdvd, hbelow.mpr hdvd, hdvd]
  · have hother : ofDecimal false (n / 10 ^ j) j ≠ ofNat n := fun heq => hdvd (hbelow.mp heq)
    cases (onGrid (n * 2 ^ k) (2 ^ k) j).2 <;> simp [hother, hnever, hdvd]

/-- Some count is enough, at the latest that of all digits. -/
theorem shortestFrom_ofNat (k : Nat) {fuel count : Nat} (hcount : 0 < count)
    (hle : count ≤ places n) (hfuel : places n < count + fuel) :
    ∃ j, j < places n ∧ 10 ^ j ∣ n ∧
      shortestFrom (ofNat n) (n * 2 ^ k) (2 ^ k) fuel count = (n / 10 ^ j, (j : Int)) := by
  induction fuel generalizing count with
  | zero => omega
  | succ fuel ih =>
    obtain ⟨j, hj⟩ := Nat.exists_eq_add_of_le hle
    rw [shortestFrom_succ, digitsOf?_ofNat hn h k hcount hj.symm]
    by_cases hdvd : 10 ^ j ∣ n
    · refine ⟨j, by omega, hdvd, ?_⟩
      have hpoint : pointOf (n * 2 ^ k) (2 ^ k) - count = j := by
        rw [pointOf_exact hn]
        omega
      rw [if_pos hdvd, hpoint]
    · have hpos : j ≠ 0 := by
        rintro rfl
        exact hdvd (Nat.one_dvd n)
      rw [if_neg hdvd]
      exact ih (by omega) (by omega) (by omega)

end

/-! ## The text -/

/-- Zeros that are dropped are written again. -/
theorem exists_dropZeros (s : List Char) : ∃ i, s = dropZeros s ++ List.replicate i '0' := by
  refine ⟨(s.reverse.takeWhile (· == '0')).length, ?_⟩
  have hzeros : s.reverse.takeWhile (· == '0') =
      List.replicate (s.reverse.takeWhile (· == '0')).length '0' := by
    rw [List.eq_replicate_iff]
    refine ⟨rfl, fun c hc => ?_⟩
    have hall := List.all_takeWhile (p := (· == '0')) (l := s.reverse)
    exact beq_iff_eq.mp (List.all_eq_true.mp hall c hc)
  have hsplit := List.takeWhile_append_dropWhile (p := (· == '0')) (l := s.reverse)
  rw [dropZeros, ← List.reverse_replicate, ← hzeros, ← List.reverse_append, hsplit,
    List.reverse_reverse]

theorem toDigits_mul_ten_pow {n : Nat} (hn : 0 < n) (j : Nat) :
    Nat.toDigits 10 (n * 10 ^ j) = Nat.toDigits 10 n ++ List.replicate j '0' := by
  induction j with
  | zero => simp
  | succ j ih =>
    have hpos : 0 < n * 10 ^ j := Nat.mul_pos hn (Nat.pow_pos (by decide))
    have hstep : n * 10 ^ (j + 1) = 10 * (n * 10 ^ j) + 0 := by
      rw [Nat.pow_succ, ← Nat.mul_assoc, Nat.mul_comm, Nat.add_zero]
    rw [hstep, ← Nat.toDigits_append_toDigits (by decide) hpos (by decide), ih, Nat.toDigits_zero,
      List.append_assoc, List.replicate_succ']

/-- Digits are laid out with the zeros behind them if the point is not too far. -/
theorem layout_dropZeros {s : List Char} {j : Nat} (hpos : 0 < s.length + j)
    (hle : s.length + j ≤ 21) :
    layout (dropZeros s) (s.length + j) = s ++ List.replicate j '0' := by
  obtain ⟨i, hi⟩ := exists_dropZeros s
  have hlength : s.length = (dropZeros s).length + i := by
    conv => lhs; rw [hi]
    simp
  have hexponent : ¬(21 < (s.length + j : Int) ∨ (s.length + j : Int) ≤ -6) := by omega
  have hfraction : ¬ (s.length + j : Int) ≤ 0 := by omega
  have hpoint : (s.length + j : Int).toNat = s.length + j := by omega
  have hroom : (dropZeros s).length ≤ s.length + j := by omega
  have hzeros : s.length + j - (dropZeros s).length = i + j := by omega
  rw [layout]
  dsimp only
  rw [if_neg (by simpa using hexponent), if_neg hfraction, hpoint, if_pos hroom, hzeros,
    ← List.replicate_append_replicate, ← List.append_assoc, ← hi]

/-- The digits up to the zeros behind them, and the place of the point behind those. -/
theorem shortest_ofNat {n : Nat} (hn : 0 < n) (h : n < 2 ^ 52) (k : Nat) :
    ∃ j : Nat, 10 ^ j ∣ n ∧ 0 < n / 10 ^ j ∧ shortest (n * 2 ^ k) (2 ^ k) =
      (dropZeros (Nat.toDigits 10 (n / 10 ^ j)), (Nat.toDigits 10 (n / 10 ^ j)).length + (j : Int)) := by
  have hexact : n < 2 ^ 53 := Nat.lt_trans h (by decide)
  have hpos : 0 < places n := Nat.length_toDigits_pos
  have hplaces : places n ≤ 16 := places_le_sixteen hexact
  have hfuel : places n < 1 + 17 := by omega
  obtain ⟨j, hj, hdvd, hshortest⟩ := shortestFrom_ofNat hn h k Nat.zero_lt_one hpos hfuel
  refine ⟨j, hdvd, Nat.div_pos (ten_pow_le hn hj) (Nat.pow_pos (by decide)), ?_⟩
  unfold shortest
  rw [ofRatio_exact hn hexact, ← ofNat_eq_held hn hexact, hshortest]

/-- An integer is written with its digits. -/
theorem toText_ofNat {n : Nat} (h : n < 2 ^ 52) :
    (ofNat n).toText = String.ofList (Nat.toDigits 10 n) := by
  rcases Nat.eq_zero_or_pos n with rfl | hn
  · rfl
  · have hexact : n < 2 ^ 53 := Nat.lt_trans h (by decide)
    obtain ⟨j, hdvd, hfront, hshortest⟩ := shortest_ofNat hn h (52 - n.log2)
    have hdigits : Nat.toDigits 10 n = Nat.toDigits 10 (n / 10 ^ j) ++ List.replicate j '0' := by
      rw [← toDigits_mul_ten_pow hfront, Nat.div_mul_cancel hdvd]
    have hplaces : places n ≤ 16 := places_le_sixteen hexact
    have hpos : 0 < places n := Nat.length_toDigits_pos
    rw [places, hdigits, List.length_append, List.length_replicate] at hplaces hpos
    rw [ofNat_eq_held hn hexact, held, toText, if_neg (mul_two_pow_ne_zero hn _),
      ratio_held hn hexact]
    dsimp only
    rw [hshortest]
    dsimp only
    rw [layout_dropZeros (by omega) (by omega), hdigits]
    rfl

end Gateway.Number
