import Gateway.Text.Domain
import Gateway.Text.Mark

/- Labels of domain names that spell characters beyond ASCII: behind `xn--` come
   the ASCII characters of the name, a hyphen, and the others as differences. Each
   difference is written in base 36, and says which code point comes next and
   where it goes. Whether the spelled characters are composed, and whether they may stand
   beside one another in their directions or joined, is not checked. -/
namespace Gateway.Url.Label

/-- What a label that spells other characters begins with. -/
def mark : List Char := ['x', 'n', '-', '-']

/-- The value of a digit of base 36. -/
def digitValue (c : Char) : Option Nat :=
  if 'a' ≤ c ∧ c ≤ 'z' then some (c.toNat - 97)
  else if c.isDigit then some (c.toNat - 22)
  else none

/-- No number in a label is greater. -/
def limit : Nat := 2147483647

/-- The least digit that does not end a number at this place. -/
def threshold (place bias : Nat) : Nat :=
  if place ≤ bias then 1 else Nat.min 26 (place - bias)

/-- How often `delta` is divided until it is small, and what is left of it. -/
def scaled (delta : Nat) : Nat × Nat :=
  if 455 < delta then
    let (n, rest) := scaled (delta / 35)
    (n + 1, rest)
  else (0, delta)
termination_by delta
decreasing_by exact Nat.div_lt_self (by omega) (by omega)

/-- The bias after a difference, where the text then has `length` characters. -/
def adapt (delta length : Nat) (first : Bool) : Nat :=
  let delta := if first then delta / 700 else delta / 2
  let (n, rest) := scaled (delta + delta / length)
  36 * n + 36 * rest / (rest + 38)

/-- The reading of a label so far. -/
structure Reading where
  /-- The code points of the name. -/
  codes : List Nat
  /-- The code point last put in. -/
  code : Nat
  /-- Where the next code point goes, counted on over all code points in between. -/
  position : Nat
  bias : Nat
  /-- Where the number at hand began. -/
  start : Nat
  /-- What the next digit counts. -/
  weight : Nat
  /-- The place of the next digit, in steps of 36. -/
  place : Nat
deriving Repr, DecidableEq

namespace Reading

/-- Before the first difference. -/
def ofAscii (s : List Char) : Reading := ⟨s.map Char.toNat, 0x80, 0, 72, 0, 1, 36⟩

/-- Puts in the code point that a complete number stands for. -/
def putCode (r : Reading) : Reading :=
  let length := r.codes.length + 1
  let code := r.code + r.position / length
  let position := r.position % length
  { codes := r.codes.take position ++ code :: r.codes.drop position
    code
    position := position + 1
    bias := adapt (r.position - r.start) length (r.start == 0)
    start := position + 1
    weight := 1
    place := 36 }

/-- Reads one digit. -/
def step (r : Reading) (c : Char) : Option Reading :=
  (digitValue c).bind fun digit =>
    let r' := { r with position := r.position + digit * r.weight }
    let t := threshold r.place r.bias
    if limit < r'.position then none
    else if digit < t then some r'.putCode
    else if limit < r.weight * (36 - t) then none
    else some { r' with weight := r.weight * (36 - t), place := r.place + 36 }

/-- The code points, unless a number is incomplete. -/
def finish (r : Reading) : Option (List Nat) := if r.place = 36 then some r.codes else none

end Reading

/-- The ASCII characters up to the last hyphen, and what follows it. -/
def halves (s : List Char) : List Char × List Char :=
  match s.reverse.dropWhile (· != '-') with
  | [] => ([], s)
  | _ :: before => (before.reverse, (s.reverse.takeWhile (· != '-')).reverse)

/-- The code points that a label spells behind its mark. -/
def decode (s : List Char) : Option (List Nat) :=
  if mark.isPrefixOf s then none
  else
    let (ascii, rest) := halves s
    (rest.foldlM Reading.step (Reading.ofAscii ascii)).bind Reading.finish

/-- Whether code points may make a label: there are some, no mark comes first, and
    a domain name may hold each of them. -/
def isName (codes : List Nat) : Bool :=
  match codes with
  | [] => false
  | first :: _ => !Text.isMark first && codes.all Text.isDomainCode

/-- Whether a label in lowercase is plain or spells a name, as far as its single characters
    tell. -/
def isValid (s : List Char) : Bool :=
  if mark.isPrefixOf s then (decode (s.drop 4)).any isName else true

end Gateway.Url.Label
