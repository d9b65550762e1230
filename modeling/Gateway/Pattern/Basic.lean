import Gateway.Text.Blank
import Gateway.Text.Utf16

/- Regular expressions over 16-bit units, as a tree. A pattern is matched by
   backtracking: alternatives from the left, quantifiers greedy or lazy, numbered
   and named groups, back references, and assertions that look either way. -/
namespace Gateway.Pattern

open Gateway.Text (CodeUnit)

/-- The unit as an ASCII character, and U+FFFD for every other unit. -/
def ascii (u : CodeUnit) : Char :=
  if u < 0x80 then Char.ofNat u.toNat else Text.replacementChar

/-- The unit of an ASCII character. -/
def unit (c : Char) : CodeUnit := UInt16.ofNat c.toNat

/-- The classes that an escape names. -/
inductive Shorthand
  | digit
  | word
  | space
deriving Repr, DecidableEq

def isDigit (u : CodeUnit) : Bool := unit '0' ≤ u && u ≤ unit '9'

/-- ASCII letters, digits and the underscore. -/
def isWord (u : CodeUnit) : Bool :=
  isDigit u || (unit 'a' ≤ u && u ≤ unit 'z') || (unit 'A' ≤ u && u ≤ unit 'Z') || u == unit '_'

def isSpace (u : CodeUnit) : Bool := Text.isBlankCode u.toNat

def isLineEnd (u : CodeUnit) : Bool := u == 0x0A || u == 0x0D || u == 0x2028 || u == 0x2029

def Shorthand.holds : Shorthand → CodeUnit → Bool
  | .digit => isDigit
  | .word => isWord
  | .space => isSpace

/-- A member of a class in brackets. -/
inductive ClassItem
  | range (first last : CodeUnit)
  | shorthand (class' : Shorthand) (negated : Bool)
deriving Repr, DecidableEq

def ClassItem.holds : ClassItem → CodeUnit → Bool
  | .range first last, u => first ≤ u && u ≤ last
  | .shorthand class' negated, u => class'.holds u != negated

/-- How often the term before it matches. An unbounded quantifier has no `max`. -/
structure Quantifier where
  min : Nat
  max : Option Nat
  greedy : Bool
deriving Repr, DecidableEq

/-- The name of a group. -/
abbrev GroupName := List CodeUnit

inductive Node
  | empty
  | unit (u : CodeUnit)
  /-- Any unit that ends no line. -/
  | any
  | set (negated : Bool) (items : List ClassItem)
  | atStart
  | atEnd
  | atBoundary (negated : Bool)
  | backTo (group : Nat)
  | backToName (name : GroupName)
  | capture (group : Nat) (body : Node)
  | look (behind negated : Bool) (body : Node)
  | seq (first second : Node)
  | alt (first second : Node)
  /-- The body repeated; it holds the groups above `before` up to `upto`. -/
  | loop (times : Quantifier) (before upto : Nat) (body : Node)
deriving Repr, DecidableEq

/-- What is wrong with the text of a pattern. -/
inductive Fault
  | unterminatedGroup
  | unmatchedClose
  | nothingToRepeat
  | unterminatedClass
  | danglingEscape
  | boundsOutOfOrder
  | rangeOutOfOrder
  | invalidGroup
  | invalidGroupName
  | duplicateGroupName
  | invalidNamedReference
  | unknownGroupName
  | invalidQuantifier
  | invalidEscape
  | invalidUnicodeEscape
deriving Repr, DecidableEq

def Fault.reason : Fault → String
  | .unterminatedGroup => "Unterminated group"
  | .unmatchedClose => "Unmatched ')'"
  | .nothingToRepeat => "Nothing to repeat"
  | .unterminatedClass => "Unterminated character class"
  | .danglingEscape => "\\ at end of pattern"
  | .boundsOutOfOrder => "numbers out of order in \x7b\x7d quantifier"
  | .rangeOutOfOrder => "Range out of order in character class"
  | .invalidGroup => "Invalid group"
  | .invalidGroupName => "Invalid capture group name"
  | .duplicateGroupName => "Duplicate capture group name"
  | .invalidNamedReference => "Invalid named reference"
  | .unknownGroupName => "Invalid named capture referenced"
  | .invalidQuantifier => "Invalid quantifier"
  | .invalidEscape => "Invalid escape"
  | .invalidUnicodeEscape => "Invalid Unicode escape"

/-- The report of a pattern text that does not compile; `flags` are the letters
    it was given with. -/
def Fault.message (source flags : String) (fault : Fault) : String :=
  s!"Invalid regular expression: /{source}/{flags}: {fault.reason}"

end Gateway.Pattern
