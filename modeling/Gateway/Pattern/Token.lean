import Gateway.Pattern.Basic
import Gateway.Text.Identifier

/- The tokens of a pattern text. What a token is depends only on the text from
   its first unit on and on two facts about the whole text (`Census`), so a text
   that reads well and gets one plain character appended gets one token more. -/
namespace Gateway.Pattern

open Gateway.Text (CodeUnit)

/-- How many groups a pattern text opens, and whether one of them has a name. -/
structure Census where
  groups : Nat
  named : Bool
deriving Repr, DecidableEq

namespace Census

def none : Census := ⟨0, false⟩

def addGroup (c : Census) : Census := { c with groups := c.groups + 1 }

def addNamed (c : Census) : Census := ⟨c.groups + 1, true⟩

/-- Counts an opening parenthesis by what follows it. -/
def addOpen (rest : List CodeUnit) (c : Census) : Census :=
  match rest.map ascii with
  | '?' :: '<' :: '=' :: _ => c
  | '?' :: '<' :: '!' :: _ => c
  | '?' :: '<' :: _ => c.addNamed
  | '?' :: _ => c
  | _ => c.addGroup

/-- Takes the census of a text, inside a class or outside of one. -/
def count : Bool → List CodeUnit → Census
  | _, [] => none
  | inClass, [u] => if ascii u = '(' && !inClass then none.addGroup else none
  | inClass, u :: v :: rest =>
    if ascii u = '\\' then count inClass rest
    else if inClass then count (ascii u != ']') (v :: rest)
    else if ascii u = '[' then count true (v :: rest)
    else if ascii u = '(' then (count false (v :: rest)).addOpen (v :: rest)
    else count false (v :: rest)

/-- The census of a whole pattern text. -/
def of (source : List CodeUnit) : Census := count false source

end Census

/-- What an opening parenthesis begins. -/
inductive GroupKind
  | capture (name : Option GroupName)
  | plain
  | look (behind negated : Bool)
deriving Repr, DecidableEq

inductive Token
  /-- A term that a quantifier may follow. -/
  | atom (node : Node)
  /-- A term that no quantifier may follow. -/
  | assertion (node : Node)
  | bar
  | opening (kind : GroupKind)
  | closing
  | quantifier (times : Quantifier)
  /-- The text cannot be read from here on. -/
  | bad (fault : Fault)
deriving Repr, DecidableEq

/-- A result and how many units it takes after the first. -/
abbrev Scan (α : Type) := Except Fault (α × Nat)

def hexValue (u : CodeUnit) : Option Nat :=
  let c := ascii u
  if c.isDigit then some (c.toNat - 48)
  else if 'a' ≤ c ∧ c ≤ 'f' then some (c.toNat - 87)
  else if 'A' ≤ c ∧ c ≤ 'F' then some (c.toNat - 55)
  else none

/-- The value of exactly `n` hexadecimal digits. -/
def hexDigits : Nat → Nat → List CodeUnit → Option Nat
  | 0, value, _ => some value
  | _ + 1, _, [] => none
  | n + 1, value, u :: rest => (hexValue u).bind fun d => hexDigits n (value * 16 + d) rest

def octalValue (u : CodeUnit) : Option Nat :=
  if unit '0' ≤ u && u ≤ unit '7' then some (u.toNat - 48) else none

/-- Up to three octal digits with a value below 256; the first one is given. -/
def octal (first : Nat) (rest : List CodeUnit) : Nat × Nat :=
  match rest with
  | [] => (first, 0)
  | u :: rest =>
    match octalValue u with
    | none => (first, 0)
    | some a =>
      let two := first * 8 + a
      match rest with
      | [] => (two, 1)
      | v :: _ =>
        match octalValue v with
        | some b => if two < 32 then (two * 8 + b, 2) else (two, 1)
        | none => (two, 1)

/-- The value of the leading decimal digits, and how many there are. -/
def decimalRun : Nat → Nat → List CodeUnit → Nat × Nat
  | value, n, [] => (value, n)
  | value, n, u :: rest =>
    if isDigit u then decimalRun (value * 10 + (u.toNat - 48)) (n + 1) rest else (value, n)

def decimal (s : List CodeUnit) : Nat × Nat := decimalRun 0 0 s

/-- The control character of a letter. -/
def control (u : CodeUnit) : CodeUnit := UInt16.ofNat (u.toNat % 32)

/-- The character that an escape stands for, where `u` follows the backslash.
    `\c` without a letter leaves the backslash as it is and takes nothing. -/
def characterEscape (census : Census) (inClass : Bool) (u : CodeUnit) (rest : List CodeUnit) :
    Scan CodeUnit :=
  match ascii u with
  | 'f' => .ok (0x0C, 1)
  | 'n' => .ok (0x0A, 1)
  | 'r' => .ok (0x0D, 1)
  | 't' => .ok (0x09, 1)
  | 'v' => .ok (0x0B, 1)
  | 'c' =>
    match rest with
    | v :: _ =>
      let c := ascii v
      if c.isAlpha || (inClass && (c.isDigit || c == '_')) then .ok (control v, 2)
      else .ok (unit '\\', 0)
    | [] => .ok (unit '\\', 0)
  | 'x' =>
    match hexDigits 2 0 rest with
    | some value => .ok (UInt16.ofNat value, 3)
    | none => .ok (u, 1)
  | 'u' =>
    match hexDigits 4 0 rest with
    | some value => .ok (UInt16.ofNat value, 5)
    | none => .ok (u, 1)
  | 'k' => if census.named then .error .invalidEscape else .ok (u, 1)
  | _ =>
    match octalValue u with
    | some first => let (value, n) := octal first rest; .ok (UInt16.ofNat value, n + 1)
    | none => .ok (u, 1)

/-- The class that an escape names. -/
def shorthand? (u : CodeUnit) : Option (Shorthand × Bool) :=
  match ascii u with
  | 'd' => some (.digit, false)
  | 'D' => some (.digit, true)
  | 'w' => some (.word, false)
  | 'W' => some (.word, true)
  | 's' => some (.space, false)
  | 'S' => some (.space, true)
  | _ => none

/-! Classes in brackets. -/

/-- What stands in a class in brackets; a bare hyphen may make a range. -/
inductive ClassPart
  | char (u : CodeUnit)
  | hyphen
  | shorthand (class' : Shorthand) (negated : Bool)
  /-- The end of the class, with the number of units before it. -/
  | closing (at' : Nat)
  | bad (fault : Fault)
deriving Repr, DecidableEq

/-- The part that an escape in a class stands for. -/
def classEscape (census : Census) (u : CodeUnit) (rest : List CodeUnit) : Scan ClassPart :=
  if ascii u = 'b' then .ok (.char 0x08, 1)
  else
    match shorthand? u with
    | some (class', negated) => .ok (.shorthand class' negated, 1)
    | none => (characterEscape census true u rest).map fun (value, n) => (.char value, n)

/-- The parts of a class. The first `skip` units belong to the part before, and
    `done` units of the class are behind us. -/
def classParts (census : Census) : (skip done : Nat) → List CodeUnit → List ClassPart
  | _, _, [] => [.bad .unterminatedClass]
  | skip + 1, done, _ :: rest => classParts census skip (done + 1) rest
  | 0, done, u :: rest =>
    match ascii u with
    | ']' => [.closing done]
    | '-' => .hyphen :: classParts census 0 (done + 1) rest
    | '\\' =>
      match rest with
      | [] => [.bad .danglingEscape]
      | v :: after =>
        match classEscape census v after with
        | .ok (part, n) => part :: classParts census n (done + 1) rest
        | .error fault => [.bad fault]
    | _ => .char u :: classParts census 0 (done + 1) rest

/-- The unit that a part stands for. -/
def ClassPart.unit? : ClassPart → Option CodeUnit
  | .char u => some u
  | .hyphen => some (unit '-')
  | _ => none

/-- The part as a member on its own. -/
def ClassPart.items : ClassPart → List ClassItem
  | .char u => [.range u u]
  | .hyphen => [.range (unit '-') (unit '-')]
  | .shorthand class' negated => [.shorthand class' negated]
  | .closing _ => []
  | .bad _ => []

/-- The members that `low-high` stands for: a range, unless one end is a class of
    its own. -/
def rangeItems (low high : ClassPart) : Except Fault (List ClassItem) :=
  match low.unit?, high.unit? with
  | some a, some b => if b < a then .error .rangeOutOfOrder else .ok [.range a b]
  | _, _ => .ok (low.items ++ ClassPart.hyphen.items ++ high.items)

/-- Reads members up to the end of the class, left to right. -/
def classItems : List ClassPart → Except Fault (List ClassItem × Nat)
  | [] => .error .unterminatedClass
  | .closing n :: _ => .ok ([], n)
  | .bad fault :: _ => .error fault
  | low :: .hyphen :: .closing n :: _ => .ok (low.items ++ ClassPart.hyphen.items, n)
  | _ :: .hyphen :: .bad fault :: _ => .error fault
  | low :: .hyphen :: high :: rest => do
    let items ← rangeItems low high
    let (more, n) ← classItems rest
    return (items ++ more, n)
  | part :: rest => do
    let (more, n) ← classItems rest
    return (part.items ++ more, n)

/-- A class, after its opening bracket. -/
def classToken (census : Census) (rest : List CodeUnit) : Scan Token :=
  let read (negated : Bool) (from' : Nat) (s : List CodeUnit) : Scan Token :=
    (classItems (classParts census 0 from' s)).map fun (items, n) =>
      (.atom (.set negated items), n + 1)
  match rest with
  | u :: after => if ascii u = '^' then read true 1 after else read false 0 rest
  | [] => read false 0 rest

/-! Group names. -/

/-- A code point of a name and how many units spell it, escapes included. -/
def nameCode : List CodeUnit → Except Fault (Nat × Nat)
  | [] => .error .invalidGroupName
  | u :: rest =>
    if ascii u = '\\' then
      match rest.map ascii with
      | 'u' :: '\x7b' :: _ => braced (rest.drop 2)
      | 'u' :: _ => plain (rest.drop 1)
      | _ => .error .invalidGroupName
    else
      match rest with
      | v :: _ =>
        if Text.isHighSurrogate u && Text.isLowSurrogate v then .ok (Text.pairCode u v, 2)
        else .ok (u.toNat, 1)
      | [] => .ok (u.toNat, 1)
where
  /-- The hexadecimal digits up to a closing brace. -/
  braced (s : List CodeUnit) : Except Fault (Nat × Nat) :=
    let digits := s.takeWhile fun u => (hexValue u).isSome
    let value := digits.foldl (fun n u => n * 16 + (hexValue u).getD 0) 0
    if digits.isEmpty || value > 0x10FFFF || (s.drop digits.length).head?.map ascii != some '\x7d'
    then .error .invalidUnicodeEscape
    else .ok (value, digits.length + 4)
  /-- Four hexadecimal digits, or two escapes that spell a surrogate pair. -/
  plain (s : List CodeUnit) : Except Fault (Nat × Nat) :=
    match hexDigits 4 0 s with
    | none => .error .invalidUnicodeEscape
    | some high =>
      let low? := match (s.drop 4).map ascii with
        | '\\' :: 'u' :: _ => hexDigits 4 0 (s.drop 6)
        | _ => none
      match low? with
      | some low =>
        if Text.isHighSurrogate (UInt16.ofNat high) && Text.isLowSurrogate (UInt16.ofNat low) then
          .ok (Text.pairCode (UInt16.ofNat high) (UInt16.ofNat low), 12)
        else .ok (high, 6)
      | none => .ok (high, 6)

/-- The units of a code point. -/
def unitsOfCode (n : Nat) : List CodeUnit :=
  if n < 0x10000 then [UInt16.ofNat n]
  else [UInt16.ofNat (0xD800 + (n - 0x10000) / 0x400), UInt16.ofNat (0xDC00 + (n - 0x10000) % 0x400)]

/-- A name up to its closing bracket, and how many units it takes with that. The
    first `skip` units belong to the character before. A bracket that is spelled as
    an escape closes a name too. -/
def nameFrom : (skip : Nat) → (begun : Bool) → List CodeUnit → Except Fault (GroupName × Nat)
  | _, _, [] => .error .invalidGroupName
  | skip + 1, begun, _ :: rest =>
    (nameFrom skip begun rest).map fun (name, n) => (name, n + 1)
  | 0, begun, u :: rest => do
    let (code, n) ← nameCode (u :: rest)
    if begun && code == '>'.toNat then return ([], n)
    else if if begun then Text.isIdentifierPart code else Text.isIdentifierStart code then
      let (name, m) ← nameFrom (n - 1) true rest
      return (unitsOfCode code ++ name, m + 1)
    else .error .invalidGroupName

def groupName (s : List CodeUnit) : Scan GroupName := nameFrom 0 false s

/-! Single tokens. -/

/-- The token of an opening parenthesis, by what follows it. -/
def openToken (rest : List CodeUnit) : Scan Token :=
  match rest.map ascii with
  | '?' :: ':' :: _ => .ok (.opening .plain, 2)
  | '?' :: '=' :: _ => .ok (.opening (.look false false), 2)
  | '?' :: '!' :: _ => .ok (.opening (.look false true), 2)
  | '?' :: '<' :: '=' :: _ => .ok (.opening (.look true false), 3)
  | '?' :: '<' :: '!' :: _ => .ok (.opening (.look true true), 3)
  | '?' :: '<' :: _ =>
    (groupName (rest.drop 2)).map fun (name, n) => (.opening (.capture (some name)), n + 2)
  | '?' :: _ => .error .invalidGroup
  | _ => .ok (.opening (.capture none), 0)

/-- A back reference by number, if there are so many groups. -/
def backReference? (census : Census) (s : List CodeUnit) : Option (Node × Nat) :=
  let (group, n) := decimal s
  if 1 ≤ group ∧ group ≤ census.groups ∧ (s.head?.map ascii) ≠ some '0' then some (.backTo group, n)
  else none

/-- The token of a backslash, where `u` follows it. -/
def escapeToken (census : Census) (u : CodeUnit) (rest : List CodeUnit) : Scan Token :=
  match ascii u with
  | 'b' => .ok (.assertion (.atBoundary false), 1)
  | 'B' => .ok (.assertion (.atBoundary true), 1)
  | 'k' =>
    if census.named then
      match rest with
      | v :: after =>
        if ascii v = '<' then
          (groupName after).map fun (name, n) => (.atom (.backToName name), n + 2)
        else .error .invalidNamedReference
      | [] => .error .invalidNamedReference
    else .ok (.atom (.unit u), 1)
  | _ =>
    match shorthand? u, backReference? census (u :: rest) with
    | some (class', negated), _ => .ok (.atom (.set false [.shorthand class' negated]), 1)
    | none, some (node, n) => .ok (.atom node, n)
    | none, none => (characterEscape census false u rest).map fun (value, n) => (.atom (.unit value), n)

/-- More than any text is long: a greater bound in braces means the same. -/
def boundLimit : Nat := 2147483647

/-- A bound, where one at the limit counts as none. -/
def upper (n : Nat) : Option Nat := if n < boundLimit then some n else none

/-- Bounds in braces, after the opening one. -/
def interval? (s : List CodeUnit) : Option (Nat × Option Nat × Nat) :=
  match decimal s with
  | (_, 0) => none
  | (min, n) =>
    match (s.drop n).map ascii with
    | '\x7d' :: _ => some (Nat.min min boundLimit, upper min, n + 1)
    | ',' :: '\x7d' :: _ => some (Nat.min min boundLimit, none, n + 2)
    | ',' :: _ =>
      let (max, m) := decimal (s.drop (n + 1))
      if ((s.drop (n + 1 + m)).head?.map ascii) = some '\x7d' then
        some (Nat.min min boundLimit, upper max, n + m + 2)
      else none
    | _ => none

/-- A quantifier, made lazy by a question mark behind it. -/
def quantifierToken (min : Nat) (max : Option Nat) (n : Nat) (rest : List CodeUnit) : Token × Nat :=
  if ((rest.drop n).head?.map ascii) = some '?' then (.quantifier ⟨min, max, false⟩, n + 1)
  else (.quantifier ⟨min, max, true⟩, n)

/-- The token that begins with `u`, and how many units of `rest` it takes. -/
def token (census : Census) (u : CodeUnit) (rest : List CodeUnit) : Scan Token :=
  match ascii u with
  | '|' => .ok (.bar, 0)
  | ')' => .ok (.closing, 0)
  | '^' => .ok (.assertion .atStart, 0)
  | '$' => .ok (.assertion .atEnd, 0)
  | '.' => .ok (.atom .any, 0)
  | '*' => .ok (quantifierToken 0 none 0 rest)
  | '+' => .ok (quantifierToken 1 none 0 rest)
  | '?' => .ok (quantifierToken 0 (some 1) 0 rest)
  | '\x7b' =>
    match interval? rest with
    | some (min, max, n) => .ok (quantifierToken min max n rest)
    | none => .ok (.atom (.unit u), 0)
  | '(' => openToken rest
  | '[' => classToken census rest
  | '\\' =>
    match rest with
    | v :: after => escapeToken census v after
    | [] => .error .danglingEscape
  | _ => .ok (.atom (.unit u), 0)

/-- The tokens of a text, up to the first place that cannot be read. The first
    `skip` units belong to the token before. -/
def tokensFrom (census : Census) : (skip : Nat) → List CodeUnit → List Token
  | _, [] => []
  | skip + 1, _ :: rest => tokensFrom census skip rest
  | 0, u :: rest =>
    match token census u rest with
    | .ok (t, n) => t :: tokensFrom census n rest
    | .error fault => [.bad fault]

/-- The tokens of a whole pattern text. -/
def tokens (source : List CodeUnit) : List Token := tokensFrom (Census.of source) 0 source

end Gateway.Pattern
