import Gateway.Url.Label
import Gateway.Url.Percent
import Gateway.Text.Pieces

/- Hosts: names, IPv4 and IPv6 addresses, and the hosts of schemes that have no
   notion of a name. Names are in ASCII: a name with other characters, which would first
   have to be mapped to its ASCII form, is refused. -/
namespace Gateway.Url

inductive Host
  /-- A lowercase ASCII name. -/
  | name (text : String)
  | ipv4 (address : Nat)
  /-- Eight pieces of 16 bits. -/
  | ipv6 (pieces : List Nat)
  /-- A host of another scheme, possibly empty. -/
  | other (text : String)
deriving Repr, DecidableEq

/-! IPv4. -/

/-- The digits of a number below `base`. -/
def readBase (base : Nat) (s : List Char) : Option Nat :=
  s.foldl (fun value c => value.bind fun n => (hexValue c).bind fun d =>
    if d < base then some (n * base + d) else none) (some 0)

/-- A part of an address: decimal, octal behind a zero, hexadecimal behind `0x`. -/
def ipv4Part : List Char → Option Nat
  | [] => none
  | '0' :: 'x' :: s => readBase 16 s
  | '0' :: 'X' :: s => readBase 16 s
  | '0' :: c :: s => readBase 8 (c :: s)
  | s => readBase 10 s

/-- The parts of a dotted name, without the empty one after a final dot. -/
def dottedParts (s : List Char) : List (List Char) :=
  let parts := Text.pieces ['.'] s
  if parts.length > 1 && parts.getLast? = some [] then parts.dropLast else parts

/-- Whether a name has to be an address: its last part is a number. -/
def endsInNumber (s : List Char) : Bool :=
  match (dottedParts s).getLast? with
  | some part => !part.isEmpty && (part.all Char.isDigit || (ipv4Part part).isSome)
  | none => false

/-- The address with these parts; the last one fills the bytes that are left. -/
def ipv4OfParts : List Nat → Option Nat
  | [] => none
  | [last] => if last < Nat.pow 2 32 then some last else none
  | [a, last] => if a < 256 ∧ last < Nat.pow 2 24 then some (a * Nat.pow 2 24 + last) else none
  | [a, b, last] =>
    if a < 256 ∧ b < 256 ∧ last < Nat.pow 2 16 then
      some (a * Nat.pow 2 24 + b * Nat.pow 2 16 + last)
    else none
  | [a, b, c, last] =>
    if a < 256 ∧ b < 256 ∧ c < 256 ∧ last < 256 then
      some (a * Nat.pow 2 24 + b * Nat.pow 2 16 + c * Nat.pow 2 8 + last)
    else none
  | _ => none

def readIpv4 (s : List Char) : Option Nat :=
  ((dottedParts s).mapM ipv4Part).bind ipv4OfParts

def decimalText (n : Nat) : List Char := Nat.toDigits 10 n

def ipv4Text (n : Nat) : List Char :=
  decimalText (n / Nat.pow 2 24) ++ '.' :: decimalText (n / Nat.pow 2 16 % 256) ++ '.' ::
    decimalText (n / Nat.pow 2 8 % 256) ++ '.' :: decimalText (n % 256)

/-! IPv6. -/

/-- One to four hexadecimal digits. -/
def ipv6Piece (s : List Char) : Option Nat :=
  if s.isEmpty || s.length > 4 then none else readBase 16 s

/-- A byte in decimal without a leading zero. -/
def decimalByte (s : List Char) : Option Nat :=
  if s.isEmpty || (s.length > 1 && s.head? = some '0') then none
  else (readBase 10 s).bind fun n => if n < 256 then some n else none

/-- The two pieces of an address with four decimal bytes. -/
def embeddedIpv4 (s : List Char) : Option (List Nat) :=
  match (Text.pieces ['.'] s).mapM decimalByte with
  | some [a, b, c, d] => some [a * 256 + b, c * 256 + d]
  | _ => none

/-- The pieces of one side of an address; the last may be four decimal bytes. -/
def ipv6Side (last : Bool) : List (List Char) → Option (List Nat)
  | [] => some []
  | [s] =>
    if last && s.contains '.' then embeddedIpv4 s else (ipv6Piece s).map fun n => [n]
  | s :: rest => do
    let n ← ipv6Piece s
    let more ← ipv6Side last rest
    return n :: more

/-- The pieces between single colons, none for an empty text. -/
def colonParts (s : List Char) : List (List Char) :=
  if s.isEmpty then [] else Text.pieces [':'] s

/-- An address without its brackets. A double colon stands for one zero piece or
    more. -/
def readIpv6 (s : List Char) : Option (List Nat) :=
  match Text.cutFirst "::".toList s with
  | none => do
    let pieces ← ipv6Side true (colonParts s)
    if pieces.length = 8 then some pieces else none
  | some (left, right) => do
    let high ← ipv6Side false (colonParts left)
    let low ← ipv6Side true (colonParts right)
    if high.length + low.length < 8 then
      some (high ++ List.replicate (8 - high.length - low.length) 0 ++ low)
    else none

/-- The number of zero pieces at the start. -/
def zeroRun (pieces : List Nat) : Nat := (pieces.takeWhile (· == 0)).length

/-- Where the first of the longest runs of zeros begins, and its length. -/
def longestRun : (at' : Nat) → List Nat → Nat × Nat
  | at', [] => (at', 0)
  | at', n :: rest =>
    let here := zeroRun (n :: rest)
    let later := longestRun (at' + 1) rest
    if later.2 > here then later else (at', here)

def hexText (n : Nat) : List Char := Nat.toDigits 16 n

def colonText (pieces : List Nat) : List Char := [':'].intercalate (pieces.map hexText)

/-- An address with its longest run of two or more zeros as a double colon. -/
def ipv6Text (pieces : List Nat) : List Char :=
  let (start, n) := longestRun 0 pieces
  if n < 2 then colonText pieces
  else colonText (pieces.take start) ++ "::".toList ++ colonText (pieces.drop (start + n))

/-! Hosts. -/

/-- Characters that no host may hold. -/
def isForbiddenInHost (c : Char) : Bool :=
  c == '\x00' || c == '\t' || c == '\n' || c == '\r' || c == ' ' || c == '#' || c == '/' || c == ':'
    || c == '<' || c == '>' || c == '?' || c == '@' || c == '[' || c == '\\' || c == ']' || c == '^'
    || c == '|'

/-- Characters that no name may hold. -/
def isForbiddenInName (c : Char) : Bool :=
  isForbiddenInHost c || c.toNat < 0x20 || c == '%' || 0x7E < c.toNat

/-- Whether each label of a name is valid. -/
def hasValidLabels (s : List Char) : Bool := (Text.pieces ['.'] s).all Label.isValid

/-- A name, or the address that it spells. A name that is not in ASCII is refused, also where
    it has an ASCII form. -/
def readName (s : List Char) : Option Host :=
  let bytes := decodeBytes s
  let name := bytes.map fun b => (Char.ofNat b.toNat).toLower
  if name.isEmpty || name.any isForbiddenInName || !hasValidLabels name then none
  else if endsInNumber name then (readIpv4 name).map .ipv4
  else some (.name (String.ofList name))

/-- Reads the host of a special scheme or of another one. -/
def Host.read (special : Bool) (s : List Char) : Option Host :=
  match s with
  | '[' :: rest =>
    if rest.getLast? = some ']' then (readIpv6 rest.dropLast).map .ipv6 else none
  | _ =>
    if special then readName s
    else if s.any isForbiddenInHost then none
    else some (.other (String.ofList (encode inControlSet s)))

def Host.chars : Host → List Char
  | .name text => text.toList
  | .ipv4 address => ipv4Text address
  | .ipv6 pieces => '[' :: ipv6Text pieces ++ [']']
  | .other text => text.toList

/-- The written form of a host; an IPv6 address stands in brackets. -/
def Host.text (h : Host) : String := String.ofList h.chars

end Gateway.Url
