/- Numbers as binary64 holds them: a sign, 53 binary digits and an exponent, or an
   infinity, or no number at all. The one zero has no sign. -/
namespace Gateway

/-- A binary64 value. The finite one is `significand * 2 ^ exponent`; its
    significand has 53 binary digits, or fewer at the least exponent. -/
inductive Number
  | nan
  | infinity (negative : Bool)
  | finite (negative : Bool) (significand : Nat) (exponent : Int)
deriving Repr, DecidableEq

namespace Number

def minExponent : Int := -1074

def maxExponent : Int := 971

def zero : Number := .finite false 0 minExponent

instance : Inhabited Number := ⟨zero⟩

/-- `num / den` to the nearest integer, a half to the even neighbour. -/
def roundDiv (num den : Nat) : Nat :=
  let q := num / den
  let r := num % den
  if 2 * r < den then q
  else if den < 2 * r then q + 1
  else q + q % 2

/-- `num / den / 2 ^ e`, rounded. -/
def scaled (num den : Nat) (e : Int) : Nat :=
  if e < 0 then roundDiv (num * Nat.pow 2 (-e).toNat) den
  else roundDiv num (den * Nat.pow 2 e.toNat)

/-- Whether `num / den` is less than `2 ^ e`. -/
def isBelow (num den : Nat) (e : Int) : Bool :=
  if e < 0 then num * Nat.pow 2 (-e).toNat < den else num < den * Nat.pow 2 e.toNat

/-- The exponent at which `num / den` has 53 binary digits before the point, or
    the least one. -/
def exponentOf (num den : Nat) : Int :=
  let guess : Int := (Nat.log2 num : Int) - Nat.log2 den - 52
  max minExponent (if isBelow num den (guess + 52) then guess - 1 else guess)

/-- The value nearest to a quotient, of two the one with an even significand. -/
def ofRatio (negative : Bool) (num den : Nat) : Number :=
  if num = 0 then zero
  else
    let e := exponentOf num den
    let m := scaled num den e
    let (m, e) := if m = Nat.pow 2 53 then (Nat.pow 2 52, e + 1) else (m, e)
    if m = 0 then zero
    else if maxExponent < e then .infinity negative
    else .finite negative m e

def ofNat (n : Nat) : Number := ofRatio false n 1

instance (n : Nat) : OfNat Number n := ⟨ofNat n⟩

/-- The value nearest to `digits * 10 ^ exponent`. Beyond 310 places before the
    point or 330 after it, the place of the first digit decides. -/
def ofDecimal (negative : Bool) (digits : Nat) (exponent : Int) : Number :=
  let places : Int := (Nat.toDigits 10 digits).length + exponent
  if digits = 0 || places < -330 then zero
  else if 310 < places then .infinity negative
  else if exponent < 0 then ofRatio negative digits (Nat.pow 10 (-exponent).toNat)
  else ofRatio negative (digits * Nat.pow 10 exponent.toNat) 1

/-- The size of a finite value as a quotient. -/
def ratio (significand : Nat) (exponent : Int) : Nat × Nat :=
  if exponent < 0 then (significand, Nat.pow 2 (-exponent).toNat)
  else (significand * Nat.pow 2 exponent.toNat, 1)

/-- The value, if it is an integer that is not negative. -/
def toNat? : Number → Option Nat
  | .finite negative m e =>
    let (num, den) := ratio m e
    if num % den = 0 && (!negative || m = 0) then some (num / den) else none
  | _ => none

end Number

end Gateway
