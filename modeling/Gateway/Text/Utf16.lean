/- Texts as 16-bit units. A character beyond the first 65536 is two units, a high
   and a low surrogate; a surrogate without its partner reads as U+FFFD. -/
namespace Gateway.Text

/-- A 16-bit unit of a text. -/
abbrev CodeUnit := UInt16

def isHighSurrogate (u : CodeUnit) : Bool := 0xD800 ≤ u && u < 0xDC00

def isLowSurrogate (u : CodeUnit) : Bool := 0xDC00 ≤ u && u < 0xE000

/-- The units of one character. -/
def unitsOfChar (c : Char) : List CodeUnit :=
  if c.toNat < 0x10000 then [UInt16.ofNat c.toNat]
  else [UInt16.ofNat (0xD800 + (c.toNat - 0x10000) / 0x400),
    UInt16.ofNat (0xDC00 + (c.toNat - 0x10000) % 0x400)]

/-- The units of a text. -/
def toUnits (s : List Char) : List CodeUnit := s.flatMap unitsOfChar

/-- The code point of a surrogate pair. -/
def pairCode (high low : CodeUnit) : Nat :=
  0x10000 + (high.toNat - 0xD800) * 0x400 + (low.toNat - 0xDC00)

def replacementChar : Char := '\uFFFD'

/-- The text with these units. -/
def ofUnits : List CodeUnit → List Char
  | [] => []
  | [u] => [if isHighSurrogate u || isLowSurrogate u then replacementChar else Char.ofNat u.toNat]
  | u :: v :: rest =>
    if isHighSurrogate u && isLowSurrogate v then Char.ofNat (pairCode u v) :: ofUnits rest
    else if isHighSurrogate u || isLowSurrogate u then replacementChar :: ofUnits (v :: rest)
    else Char.ofNat u.toNat :: ofUnits (v :: rest)

theorem toUnits_append (s t : List Char) : toUnits (s ++ t) = toUnits s ++ toUnits t := by
  simp [toUnits]

end Gateway.Text
