import Gateway.Number.Basic
import Gateway.Text.Blank

/- Numbers from a text on its own: decimal with an optional sign, fraction and
   exponent, or an unsigned hexadecimal, octal or binary integer behind its mark.
   Blanks at the ends are skipped and a blank text is zero. -/
namespace Gateway.Number

/-- The value of a digit, letters included. -/
def digitValue (c : Char) : Option Nat :=
  if c.isDigit then some (c.toNat - 48)
  else if 'a' ≤ c ∧ c ≤ 'z' then some (c.toNat - 87)
  else if 'A' ≤ c ∧ c ≤ 'Z' then some (c.toNat - 55)
  else none

/-- The value of a text of digits below `base`. -/
def readDigits (base : Nat) (s : List Char) : Option Nat :=
  s.foldl (fun value c => value.bind fun n => (digitValue c).bind fun d =>
    if d < base then some (n * base + d) else none) (some 0)

/-- A signed exponent, digits only. -/
def readExponent (s : List Char) : Option Int :=
  let read (s : List Char) := if s.isEmpty then none else readDigits 10 s
  match s with
  | '+' :: s => (read s).map Int.ofNat
  | '-' :: s => (read s).map fun n => -(n : Int)
  | s => (read s).map Int.ofNat

/-- Cuts a text at the first character that satisfies `p`, which is dropped. -/
def cutAt (p : Char → Bool) (s : List Char) : List Char × Option (List Char) :=
  match s.dropWhile (fun c => !p c) with
  | [] => (s, none)
  | _ :: rest => (s.takeWhile fun c => !p c, some rest)

/-- An unsigned decimal. -/
def readDecimal (negative : Bool) (s : List Char) : Option Number := do
  let (mantissa, exponent) := cutAt (fun c => c == 'e' || c == 'E') s
  let (whole, fraction) := cutAt (· == '.') mantissa
  let fraction := fraction.getD []
  let digits ← if (whole ++ fraction).isEmpty then none else readDigits 10 (whole ++ fraction)
  let e ← match exponent with
    | some exponent => readExponent exponent
    | none => some 0
  return ofDecimal negative digits (e - fraction.length)

/-- A decimal or infinity behind its sign. -/
def readUnsigned (negative : Bool) (s : List Char) : Number :=
  if s = "Infinity".toList then .infinity negative else (readDecimal negative s).getD .nan

/-- An integer in another base, behind its mark. -/
def readBased (base : Nat) (s : List Char) : Number :=
  if s.isEmpty then .nan else ((readDigits base s).map ofNat).getD .nan

/-- The number that a trimmed text spells. -/
def readTrimmed : List Char → Number
  | [] => zero
  | '0' :: 'x' :: s => readBased 16 s
  | '0' :: 'X' :: s => readBased 16 s
  | '0' :: 'o' :: s => readBased 8 s
  | '0' :: 'O' :: s => readBased 8 s
  | '0' :: 'b' :: s => readBased 2 s
  | '0' :: 'B' :: s => readBased 2 s
  | '+' :: s => readUnsigned false s
  | '-' :: s => readUnsigned true s
  | s => readUnsigned false s

/-- The number that a text spells, or no number. -/
def ofText (s : String) : Number := readTrimmed (Text.trim s.toList)

end Gateway.Number
