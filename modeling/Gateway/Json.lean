import Gateway.Fields
import Gateway.Number.Printer
import Gateway.Text.Utf16

/- JSON texts. Members keep the order of `Fields`; of a name that is repeated the
   last value counts. -/
namespace Gateway

inductive Json
  | null
  | bool (value : Bool)
  | number (value : Number)
  | text (value : String)
  | array (items : List Json)
  | object (members : List (String × Json))
deriving Repr

namespace Json

instance : Inhabited Json := ⟨.null⟩

/-- The name of the kind of a value. -/
def kind : Json → String
  | .null => "null"
  | .bool _ => "boolean"
  | .number _ => "number"
  | .text _ => "string"
  | .array _ => "array"
  | .object _ => "object"

mutual

/-- The value as a plain text: an array is its items joined by commas. An object has
    one text for all, but none if a member of its own takes the name of what gives it. -/
def plainText? : Json → Option String
  | .null => some "null"
  | .bool value => some (if value then "true" else "false")
  | .number value => some value.toText
  | .text value => some value
  | .array items => joinedText? items
  | .object members =>
    if members.any fun member => member.1 == "toString" then none else some "[object Object]"

/-- Items joined by commas; `null` is written as nothing. -/
def joinedText? : List Json → Option String
  | [] => some ""
  | item :: rest => do
    let first ← match item with
      | .null => some ""
      | other => plainText? other
    match rest with
    | [] => return first
    | _ :: _ => return first ++ "," ++ (← joinedText? rest)

end

/-! Reading. Each reader returns what is left of the text. -/

def isSpace (c : Char) : Bool := c == ' ' || c == '\t' || c == '\n' || c == '\r'

def skip (s : List Char) : List Char := s.dropWhile isSpace

/-- The value of a hexadecimal digit. -/
def hexValue (c : Char) : Option Nat :=
  if c.isDigit then some (c.toNat - 48)
  else if 'a' ≤ c ∧ c ≤ 'f' then some (c.toNat - 87)
  else if 'A' ≤ c ∧ c ≤ 'F' then some (c.toNat - 55)
  else none

/-- The unit that four hexadecimal digits stand for. -/
def hexUnit (a b c d : Char) : Option Text.CodeUnit := do
  let a ← hexValue a
  let b ← hexValue b
  let c ← hexValue c
  let d ← hexValue d
  return UInt16.ofNat (((a * 16 + b) * 16 + c) * 16 + d)

/-- The character that an escape of one letter stands for. -/
def escaped : Char → Option Char
  | '"' => some '"'
  | '\\' => some '\\'
  | '/' => some '/'
  | 'b' => some '\x08'
  | 'f' => some '\x0c'
  | 'n' => some '\n'
  | 'r' => some '\r'
  | 't' => some '\t'
  | _ => none

/-- The units of a text after its opening quote, and what follows the closing one. -/
def readUnits : List Char → Option (List Text.CodeUnit × List Char)
  | [] => none
  | '"' :: rest => some ([], rest)
  | '\\' :: 'u' :: a :: b :: c :: d :: rest => do
    let u ← hexUnit a b c d
    let (units, rest) ← readUnits rest
    return (u :: units, rest)
  | '\\' :: e :: rest => do
    let c ← escaped e
    let (units, rest) ← readUnits rest
    return (Text.unitsOfChar c ++ units, rest)
  | c :: rest =>
    if c.toNat < 0x20 || c = '\\' then none
    else (readUnits rest).map fun (units, rest) => (Text.unitsOfChar c ++ units, rest)

/-- A text after its opening quote. An escape for half of a surrogate pair, without the other
    half, reads as U+FFFD, so texts that differ in such escapes alone read alike. -/
def readText (s : List Char) : Option (String × List Char) :=
  (readUnits s).map fun (units, rest) => (String.ofList (Text.ofUnits units), rest)

/-- Leading digits and what follows them. -/
def spanDigits (s : List Char) : List Char × List Char :=
  (s.takeWhile Char.isDigit, s.dropWhile Char.isDigit)

def digitsValue (s : List Char) : Nat := s.foldl (fun n c => n * 10 + (c.toNat - 48)) 0

/-- Digits behind a point, if there is one. -/
def readFraction (s : List Char) : Option (List Char × List Char) :=
  match s with
  | '.' :: rest =>
    let (digits, rest) := spanDigits rest
    if digits.isEmpty then none else some (digits, rest)
  | _ => some ([], s)

/-- An exponent, if there is one. -/
def readExponent (s : List Char) : Option (Int × List Char) :=
  let read (sign : Int) (s : List Char) : Option (Int × List Char) :=
    let (digits, rest) := spanDigits s
    if digits.isEmpty then none else some (sign * digitsValue digits, rest)
  match s with
  | c :: rest =>
    if c = 'e' ∨ c = 'E' then
      match rest with
      | '+' :: rest => read 1 rest
      | '-' :: rest => read (-1) rest
      | rest => read 1 rest
    else some (0, s)
  | [] => some (0, [])

/-- A number after its sign. -/
def readUnsigned (negative : Bool) (s : List Char) : Option (Number × List Char) := do
  let (whole, rest) := spanDigits s
  if whole.isEmpty || (whole.length > 1 && whole.head? = some '0') then none
  else
    let (fraction, rest) ← readFraction rest
    let (exponent, rest) ← readExponent rest
    return (.ofDecimal negative (digitsValue (whole ++ fraction)) (exponent - fraction.length), rest)

def readNumber (s : List Char) : Option (Number × List Char) :=
  match s with
  | '-' :: rest => readUnsigned true rest
  | _ => readUnsigned false s

/-- What follows a fixed word. -/
def readWord (word : List Char) (value : Json) (s : List Char) : Option (Json × List Char) :=
  if word.isPrefixOf s then some (value, s.drop word.length) else none

mutual

/-- Reads a value with no blanks before it; `fuel` bounds the depth of the calls. -/
def readValue : (fuel : Nat) → List Char → Option (Json × List Char)
  | 0, _ => none
  | fuel + 1, s =>
    match s with
    | [] => none
    | c :: rest =>
      match c with
      | '"' => (readText rest).map fun (t, rest) => (.text t, rest)
      | '[' =>
        match skip rest with
        | ']' :: rest => some (.array [], rest)
        | rest => (readItems fuel rest).map fun (items, rest) => (.array items, rest)
      | '\x7b' =>
        match skip rest with
        | '\x7d' :: rest => some (.object [], rest)
        | rest => (readMembers fuel rest).map fun (pairs, rest) => (.object (Fields.ofPairs pairs), rest)
      | 't' => readWord "true".toList (.bool true) s
      | 'f' => readWord "false".toList (.bool false) s
      | 'n' => readWord "null".toList .null s
      | _ => (readNumber s).map fun (n, rest) => (.number n, rest)

/-- Reads the items of an array up to its end. -/
def readItems : (fuel : Nat) → List Char → Option (List Json × List Char)
  | 0, _ => none
  | fuel + 1, s => do
    let (item, rest) ← readValue fuel s
    match skip rest with
    | ']' :: rest => return ([item], rest)
    | ',' :: rest =>
      let (items, rest) ← readItems fuel (skip rest)
      return (item :: items, rest)
    | _ => none

/-- Reads the members of an object up to its end, in the order of the text. -/
def readMembers : (fuel : Nat) → List Char → Option (List (String × Json) × List Char)
  | 0, _ => none
  | fuel + 1, s =>
    match s with
    | '"' :: rest => do
      let (name, rest) ← readText rest
      match skip rest with
      | ':' :: rest =>
        let (value, rest) ← readValue fuel (skip rest)
        match skip rest with
        | '\x7d' :: rest => return ([(name, value)], rest)
        | ',' :: rest =>
          let (members, rest) ← readMembers fuel (skip rest)
          return ((name, value) :: members, rest)
        | _ => none
      | _ => none
    | _ => none

end

/-- Fuel for every call on a text: two calls at most take a character together. -/
def fuelFor (s : List Char) : Nat := 2 * s.length + 2

/-- Reads a whole text. -/
def parse? (text : String) : Option Json :=
  match readValue (fuelFor text.toList) (skip text.toList) with
  | some (value, rest) => if (skip rest).isEmpty then some value else none
  | none => none

/-- The members of a whole text that is an object, in the order of the text and
    with every repetition. -/
def members? (text : String) : Option (List (String × Json)) :=
  match skip text.toList with
  | '\x7b' :: rest =>
    match skip rest with
    | '\x7d' :: rest => if (skip rest).isEmpty then some [] else none
    | rest =>
      match readMembers (fuelFor text.toList - 1) rest with
      | some (pairs, rest) => if (skip rest).isEmpty then some pairs else none
      | none => none
  | _ => none

/-- The value of a member, if there is one. -/
def member? (members : List (String × Json)) (name : String) : Option Json := members.lookup name

end Json

end Gateway
