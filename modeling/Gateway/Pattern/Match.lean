import Gateway.Pattern.Tree

/- Matching by backtracking. A node is matched at a state and hands each state it
   reaches to the continuation, in order of preference, until one succeeds. -/
namespace Gateway.Pattern

open Gateway.Text (CodeUnit)

/-- A part of the input: its first position and the one after its last. -/
abbrev Span := Nat × Nat

/-- A position in the input and what the groups have captured. -/
structure State where
  pos : Nat
  captures : List (Option Span)
deriving Repr, DecidableEq

namespace State

def captureOf (s : State) (group : Nat) : Option Span := (s.captures[group - 1]?).join

def setCapture (s : State) (group : Nat) (span : Span) : State :=
  { s with captures := s.captures.set (group - 1) (some span) }

/-- Forgets the groups above `before` up to `upto`. -/
def forget (s : State) (before upto : Nat) : State :=
  if before = upto then s
  else { s with captures := s.captures.take before ++
    List.replicate (upto - before) none ++ s.captures.drop upto }

end State

/-- What remains to be done once a node has matched. -/
abbrev Continuation := State → Option State

/-- What a matcher works on. -/
structure Subject where
  input : Array CodeUnit
  names : List (GroupName × Nat)

namespace Subject

/-- The unit next to a position, in reading direction or against it. -/
def unitAt (x : Subject) (behind : Bool) (pos : Nat) : Option CodeUnit :=
  if behind then (if pos = 0 then none else x.input[pos - 1]?) else x.input[pos]?

def moved (behind : Bool) (pos n : Nat) : Nat := if behind then pos - n else pos + n

/-- Matches one unit that satisfies `p`. -/
def matchUnit (x : Subject) (behind : Bool) (p : CodeUnit → Bool) (s : State) (k : Continuation) :
    Option State :=
  match x.unitAt behind s.pos with
  | some u => if p u then k { s with pos := moved behind s.pos 1 } else none
  | none => none

/-- Whether there is a word character on exactly one side. -/
def isBoundary (x : Subject) (pos : Nat) : Bool :=
  (x.unitAt true pos).any isWord != (x.unitAt false pos).any isWord

/-- Whether the `n` units from `a` and from `b` on are the same. -/
def agree (x : Subject) (a b n : Nat) : Bool :=
  (List.range n).all fun i => x.input[a + i]? == x.input[b + i]?

/-- Matches again what a group has captured; a group that took no part matches
    nothing, successfully. -/
def matchBack (x : Subject) (behind : Bool) (span : Option Span) (s : State) (k : Continuation) :
    Option State :=
  match span with
  | none => k s
  | some (first, last) =>
    let n := last - first
    if behind then
      if n ≤ s.pos && x.agree first (s.pos - n) n then k { s with pos := s.pos - n } else none
    else if s.pos + n ≤ x.input.size && x.agree first s.pos n then k { s with pos := s.pos + n }
    else none

end Subject

/-- The first of two attempts that succeeds. -/
def orElse (first : Option State) (second : Unit → Option State) : Option State :=
  match first with
  | some s => some s
  | none => second ()

/-- Whether each repetition from `s` on leads back to `s`, or to nothing. -/
def isIdle (body : State → Continuation → Option State) (clear : State → State) (s : State) : Bool :=
  (body s fun t => if clear t = s then none else some t).isNone

/-- Repeats a matcher `n` times. Of more than `size` repetitions that all begin at
    the same state one stands for all. -/
def repeatExactly (body : State → Continuation → Option State) (clear : State → State)
    (size : Nat) : Nat → State → Continuation → Option State
  | 0, s, k => k s
  | n + 1, s, k =>
    if size < n && isIdle body clear (clear s) then body (clear s) k
    else body (clear s) fun t => repeatExactly body clear size n t k

/-- Repeats a matcher up to `n` times; a repetition that does not move is none. -/
def repeatUpTo (body : State → Continuation → Option State) (clear : State → State)
    (greedy : Bool) : Nat → State → Continuation → Option State
  | 0, s, k => k s
  | n + 1, s, k =>
    let again (_ : Unit) := body (clear s) fun t =>
      if t.pos = s.pos then none else repeatUpTo body clear greedy n t k
    if greedy then orElse (again ()) fun _ => k s else orElse (k s) again

/-- How many repetitions can move at most: what lies ahead in reading direction. -/
def Subject.room (x : Subject) (behind : Bool) (pos : Nat) : Nat :=
  if behind then pos else x.input.size - pos

/-- Matches a node at a state, in reading direction or against it. -/
def Subject.run (x : Subject) : Node → (behind : Bool) → State → Continuation → Option State
  | .empty, _, s, k => k s
  | .unit u, behind, s, k => x.matchUnit behind (· == u) s k
  | .any, behind, s, k => x.matchUnit behind (fun u => !isLineEnd u) s k
  | .set negated items, behind, s, k =>
    x.matchUnit behind (fun u => (items.any fun item => item.holds u) != negated) s k
  | .atStart, _, s, k => if s.pos = 0 then k s else none
  | .atEnd, _, s, k => if s.pos = x.input.size then k s else none
  | .atBoundary negated, _, s, k => if x.isBoundary s.pos != negated then k s else none
  | .backTo group, behind, s, k => x.matchBack behind (s.captureOf group) s k
  | .backToName name, behind, s, k =>
    x.matchBack behind ((x.names.lookup name).bind s.captureOf) s k
  | .capture group body, behind, s, k =>
    x.run body behind s fun t =>
      k (t.setCapture group (if behind then (t.pos, s.pos) else (s.pos, t.pos)))
  | .look behind false body, _, s, k =>
    match x.run body behind s some with
    | some t => k { t with pos := s.pos }
    | none => none
  | .look behind true body, _, s, k =>
    match x.run body behind s some with
    | some _ => none
    | none => k s
  | .seq first second, behind, s, k =>
    if behind then x.run second true s fun t => x.run first true t k
    else x.run first false s fun t => x.run second false t k
  | .alt first second, behind, s, k =>
    orElse (x.run first behind s k) fun _ => x.run second behind s k
  | .loop times before upto body, behind, s, k =>
    let clear (t : State) := t.forget before upto
    repeatExactly (x.run body behind) clear x.input.size times.min s fun t =>
      let more := match times.max with
        | some max => max - times.min
        | none => x.room behind t.pos
      repeatUpTo (x.run body behind) clear times.greedy more t k

/-- A match: its span, and what the groups captured. -/
structure Match where
  start : Nat
  stop : Nat
  captures : List (Option Span)
deriving Repr, DecidableEq

namespace Compiled

def subject (p : Compiled) (input : Array CodeUnit) : Subject := ⟨input, p.names⟩

/-- The preferred match that starts at a position. -/
def matchAt (p : Compiled) (input : Array CodeUnit) (pos : Nat) : Option Match :=
  ((p.subject input).run p.node false ⟨pos, List.replicate p.groups none⟩ some).map fun s =>
    ⟨pos, s.pos, s.captures⟩

/-- The first match that starts at one of `n` positions. -/
def searchFrom (p : Compiled) (input : Array CodeUnit) : (n pos : Nat) → Option Match
  | 0, _ => none
  | n + 1, pos =>
    match p.matchAt input pos with
    | some m => some m
    | none => searchFrom p input n (pos + 1)

/-- The leftmost match that starts at `pos` or later. -/
def search (p : Compiled) (input : Array CodeUnit) (pos : Nat) : Option Match :=
  p.searchFrom input (input.size + 1 - pos) pos

/-- Whether there is a match anywhere. -/
def isMatch (p : Compiled) (input : Array CodeUnit) : Bool := (p.search input 0).isSome

/-- Up to `n` successive matches. Each search begins where the last match ended,
    or one unit later when that was empty. -/
def successive (p : Compiled) (input : Array CodeUnit) : (n pos : Nat) → List Match
  | 0, _ => []
  | n + 1, pos =>
    match p.search input pos with
    | some m => m :: successive p input n (if m.stop = m.start then m.stop + 1 else m.stop)
    | none => []

/-- All successive matches: no more than there are positions. -/
def matchAll (p : Compiled) (input : Array CodeUnit) : List Match :=
  p.successive input (input.size + 1) 0

end Compiled

/-- The units of a span. -/
def slice (input : Array CodeUnit) (span : Span) : List CodeUnit :=
  (input.extract span.1 span.2).toList

/-- The match itself and its groups as texts. -/
def Match.groups (m : Match) (input : Array CodeUnit) : List (Option (List CodeUnit)) :=
  some (slice input (m.start, m.stop)) :: m.captures.map fun c => c.map (slice input)

/-- The input with each match replaced, from a position on. -/
def replaceFrom (input : Array CodeUnit) (replacement : Match → List CodeUnit) :
    Nat → List Match → List CodeUnit
  | pos, [] => slice input (pos, input.size)
  | pos, m :: rest =>
    slice input (pos, m.start) ++ replacement m ++ replaceFrom input replacement m.stop rest

/-- The input with each match of the pattern replaced. -/
def Compiled.replaceAll (p : Compiled) (input : Array CodeUnit)
    (replacement : Match → List CodeUnit) : List CodeUnit :=
  replaceFrom input replacement 0 (p.matchAll input)

end Gateway.Pattern
