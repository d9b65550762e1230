/- Named fields in the order in which they are listed: names that are canonical
   array indices first, by number, and then the others as they came. -/
namespace Gateway

/-- A list of named values, each name once. -/
abbrev Fields (α : Type) := List (String × α)

namespace Fields

variable {α : Type}

/-- The number of a name that is an array index: digits without a leading zero. -/
def index? (name : String) : Option Nat :=
  let s := name.toList
  if s.all Char.isDigit && !s.isEmpty && (s == ['0'] || s.head? != some '0') && s.length ≤ 10 then
    let n := s.foldl (fun n c => n * 10 + (c.toNat - 48)) 0
    if n < 4294967295 then some n else none
  else none

/-- Whether a new name is listed before one that is there. -/
def goesBefore (new old : String) : Bool :=
  match index? new, index? old with
  | some i, some j => i < j
  | some _, none => true
  | none, _ => false

/-- Gives a field a value. A name that is there keeps its place. -/
def set (name : String) (value : α) : Fields α → Fields α
  | [] => [(name, value)]
  | (n, v) :: rest =>
    if n = name then (name, value) :: rest
    else if goesBefore name n then (name, value) :: (n, v) :: rest
    else (n, v) :: set name value rest

/-- The fields with these names and values; of a name that is repeated the last
    value counts. -/
def ofPairs (pairs : List (String × α)) : Fields α :=
  pairs.foldl (fun fields p => set p.1 p.2 fields) []

/-- All fields of `more` set upon `fields`. -/
def merge (fields more : Fields α) : Fields α := more.foldl (fun f p => set p.1 p.2 f) fields

def get? (fields : Fields α) (name : String) : Option α := fields.lookup name

def names (fields : Fields α) : List String := fields.map (·.1)

/-- The one name that cannot be given a value by assignment. -/
def reserved : String := "__proto__"

/-- Assigns a field; an assignment to the reserved name does nothing. -/
def assign (name : String) (value : α) (fields : Fields α) : Fields α :=
  if name = reserved then fields else set name value fields

end Fields

end Gateway
