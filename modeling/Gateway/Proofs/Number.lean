import Gateway.Number.Printer
import Mathlib.Data.List.Basic

/- The texts of numbers. They consist of digits, letters, signs and points
   (`isNumeral_of_mem_toText`), so they stand on one line and have no blank. -/
namespace Gateway.Number

/-- The characters that numbers are written with. -/
def isNumeral (c : Char) : Bool := c.isAlphanum || c == '+' || c == '-' || c == '.'

theorem isNumeral_of_isDigit {c : Char} (h : c.isDigit = true) : isNumeral c = true := by
  simp [isNumeral, Char.isAlphanum, h]

theorem isDigit_of_mem_toDigits {n : Nat} {c : Char} (h : c ∈ Nat.toDigits 10 n) :
    c.isDigit = true :=
  Nat.isDigit_of_mem_toDigits (by decide) (by decide) h

theorem isDigit_of_mem_shortest {num den : Nat} {c : Char} (h : c ∈ (shortest num den).1) :
    c.isDigit = true := by
  have hreversed := (List.dropWhile_sublist _).mem (List.mem_reverse.mp h)
  exact isDigit_of_mem_toDigits (List.mem_reverse.mp hreversed)

theorem isNumeral_of_mem_exponentText {e : Int} {c : Char} (h : c ∈ exponentText e) :
    isNumeral c = true := by
  rw [exponentText] at h
  split at h
  all_goals
    rcases List.mem_cons.mp h with rfl | h
    · rfl
    · exact isNumeral_of_isDigit (isDigit_of_mem_toDigits h)

section
variable {digits : List Char} (hdigits : ∀ d ∈ digits, d.isDigit = true) {c : Char}
include hdigits

/-- Digits before and behind a point. -/
theorem isNumeral_of_mem_pointed {n : Nat} (h : c ∈ digits.take n ++ '.' :: digits.drop n) :
    isNumeral c = true := by
  rcases List.mem_append.mp h with h | h
  · exact isNumeral_of_isDigit (hdigits c (List.mem_of_mem_take h))
  · rcases List.mem_cons.mp h with rfl | h
    · rfl
    · exact isNumeral_of_isDigit (hdigits c (List.mem_of_mem_drop h))

theorem isNumeral_of_mem_layout {point : Int} (h : c ∈ layout digits point) :
    isNumeral c = true := by
  have hdigit (hc : c ∈ digits) : isNumeral c = true := isNumeral_of_isDigit (hdigits c hc)
  have hzeros {n : Nat} (hc : c ∈ List.replicate n '0') : isNumeral c = true := by
    rw [List.eq_of_mem_replicate hc]
    rfl
  have hexponent {e : Int} (hc : c ∈ 'e' :: exponentText e) : isNumeral c = true := by
    rcases List.mem_cons.mp hc with rfl | hc
    · rfl
    · exact isNumeral_of_mem_exponentText hc
  unfold layout at h
  dsimp only at h
  split at h
  · -- with an exponent
    split at h
    · exact (List.mem_append.mp h).elim hdigit hexponent
    · exact (List.mem_append.mp h).elim (isNumeral_of_mem_pointed hdigits) hexponent
  · split at h
    · -- below one
      rcases List.mem_append.mp h with h | h
      · rcases List.mem_append.mp h with h | h
        · exact List.all_eq_true.mp (show "0.".toList.all isNumeral = true from rfl) c h
        · exact hzeros h
      · exact hdigit h
    · split at h
      · exact (List.mem_append.mp h).elim hdigit hzeros
      · exact isNumeral_of_mem_pointed hdigits h

end

theorem isNumeral_of_mem_toText {n : Number} {c : Char} (h : c ∈ n.toText.toList) :
    isNumeral c = true := by
  have hword (text : String) (htext : text.toList.all isNumeral = true) (hc : c ∈ text.toList) :
      isNumeral c = true := List.all_eq_true.mp htext c hc
  cases n with
  | nan => exact hword "NaN" rfl h
  | infinity negative =>
    cases negative
    · exact hword "Infinity" rfl h
    · exact hword "-Infinity" rfl h
  | finite negative m e =>
    rw [toText] at h
    split at h
    · exact hword _ rfl h
    · rw [String.toList_ofList] at h
      rcases List.mem_append.mp h with h | h
      · split at h
        · rw [List.mem_singleton.mp h]
          rfl
        · cases h
      · exact isNumeral_of_mem_layout (fun d hd => isDigit_of_mem_shortest hd) h

/-- Other characters, such as blanks and line ends, are not in the text of a number. -/
theorem not_mem_toText {c : Char} (hc : isNumeral c = false) (n : Number) : c ∉ n.toText.toList := by
  intro h
  rw [isNumeral_of_mem_toText h] at hc
  cases hc

end Gateway.Number
