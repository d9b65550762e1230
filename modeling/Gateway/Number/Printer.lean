import Gateway.Number.Basic

/- Numbers as decimal texts with the fewest digits that read back. The digits stand
   without an exponent from 0.000001 up to 21 places before the point. -/
namespace Gateway.Number

/-- How many zeros follow the point before the first digit of `num / den`, which
    is less than one; at most `fuel` are counted. -/
def leadingZeros : (fuel num den : Nat) → Nat
  | 0, _, _ => 0
  | fuel + 1, num, den => if den ≤ num * 10 then 0 else leadingZeros fuel (num * 10) den + 1

/-- Where the point stands: `num / den` is `0.d...` times ten to this power, with a
    first digit that is not zero. -/
def pointOf (num den : Nat) : Int :=
  if den ≤ num then (Nat.toDigits 10 (num / den)).length else -(leadingZeros 330 num den : Int)

/-- `num / den` in steps of `10 ^ k`, rounded down, and whether more than half a
    step is left. -/
def onGrid (num den : Nat) (k : Int) : Nat × Bool :=
  let (num, den) :=
    if k < 0 then (num * Nat.pow 10 (-k).toNat, den) else (num, den * Nat.pow 10 k.toNat)
  let r := num % den
  (num / den, den < 2 * r || (den = 2 * r && num / den % 2 = 1))

/-- A neighbour of the value among the numbers of `n` digits that reads back as
    the value; the nearer one goes first. -/
def digitsOf? (value : Number) (num den : Nat) (n : Nat) : Option Nat :=
  let k := pointOf num den - n
  let (low, up) := onGrid num den k
  let first := if up then low + 1 else low
  let second := if up then low else low + 1
  if ofDecimal false first k = value then some first
  else if ofDecimal false second k = value then some second
  else none

/-- The fewest digits that read back, found among at most `fuel` counts from `n`
    on, with the place of the point. -/
def shortestFrom (value : Number) (num den : Nat) : (fuel n : Nat) → Nat × Int
  | 0, n => ((onGrid num den (pointOf num den - n)).1, pointOf num den - n)
  | fuel + 1, n =>
    match digitsOf? value num den n with
    | some digits => (digits, pointOf num den - n)
    | none => shortestFrom value num den fuel (n + 1)

/-- Drops zeros from the end. -/
def dropZeros (s : List Char) : List Char := (s.reverse.dropWhile (· == '0')).reverse

/-- The shortest digits of a positive value, and the place of the point. -/
def shortest (num den : Nat) : List Char × Int :=
  let (digits, k) := shortestFrom (ofRatio false num den) num den 17 1
  let text := Nat.toDigits 10 digits
  (dropZeros text, text.length + k)

/-- An exponent with its sign. -/
def exponentText (e : Int) : List Char :=
  if e < 0 then '-' :: Nat.toDigits 10 (-e).toNat else '+' :: Nat.toDigits 10 e.toNat

/-- Lays out digits with the point after `point` of them. -/
def layout (digits : List Char) (point : Int) : List Char :=
  let n := digits.length
  if 21 < point || point ≤ -6 then
    let e := exponentText (point - 1)
    if n = 1 then digits ++ 'e' :: e else digits.take 1 ++ '.' :: digits.drop 1 ++ 'e' :: e
  else if point ≤ 0 then "0.".toList ++ List.replicate (-point).toNat '0' ++ digits
  else
    let p := point.toNat
    if n ≤ p then digits ++ List.replicate (p - n) '0' else digits.take p ++ '.' :: digits.drop p

/-- The text of a number. -/
def toText : Number → String
  | .nan => "NaN"
  | .infinity negative => if negative then "-Infinity" else "Infinity"
  | .finite negative m e =>
    if m = 0 then "0"
    else
      let (num, den) := ratio m e
      let (digits, point) := shortest num den
      String.ofList ((if negative then ['-'] else []) ++ layout digits point)

end Gateway.Number
