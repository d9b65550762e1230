/- White space: the blank characters of Unicode, the line ends and the byte order
   mark, but neither the zero width space nor the next line control. -/
namespace Gateway.Text

def isBlankCode (n : Nat) : Bool :=
  (9 ≤ n && n ≤ 13) || n == 0x20 || n == 0xA0 || n == 0x1680 || (0x2000 ≤ n && n ≤ 0x200A)
    || n == 0x2028 || n == 0x2029 || n == 0x202F || n == 0x205F || n == 0x3000 || n == 0xFEFF

def isBlank (c : Char) : Bool := isBlankCode c.toNat

/-- Drops what satisfies `p` from the end. -/
def dropTrailing {α : Type} (p : α → Bool) (s : List α) : List α :=
  (s.reverse.dropWhile p).reverse

/-- Drops blank characters from both ends. -/
def trim (s : List Char) : List Char := dropTrailing isBlank (s.dropWhile isBlank)

theorem isBlank_of_isWhitespace {c : Char} (h : c.isWhitespace = true) : isBlank c = true := by
  simp only [Char.isWhitespace, Bool.or_eq_true, decide_eq_true_eq] at h
  rcases h with ((h | h) | h) | h <;> subst h <;> decide

end Gateway.Text

namespace Gateway

/-- The text without blank characters at its ends. -/
def trimmed (s : String) : String := String.ofList (Text.trim s.toList)

end Gateway
