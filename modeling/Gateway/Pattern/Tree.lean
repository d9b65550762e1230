import Gateway.Pattern.Token

/- The tree of a list of tokens, built by one pass from the left. The state of the
   pass holds the group that is open and the groups around it. Appending a token
   to a list is one step more (`build_append`). -/
namespace Gateway.Pattern

/-- The term that a quantifier would apply to. -/
structure Term where
  node : Node
  /-- The number of groups opened before it. -/
  before : Nat
  lookbehind : Bool
deriving Repr, DecidableEq

/-- The part of a text inside one pair of parentheses, read so far. -/
structure Level where
  kind : GroupKind
  /-- The number of groups opened before this one. -/
  before : Nat
  /-- The alternatives that are complete, last one first. -/
  closed : List Node
  /-- The terms of the alternative at hand, last one first. -/
  terms : List Node
  pending : Option Term
deriving Repr, DecidableEq

namespace Level

def opened (kind : GroupKind) (before : Nat) : Level := ⟨kind, before, [], [], none⟩

/-- All terms of the alternative at hand, last one first. -/
def allTerms (l : Level) : List Node :=
  match l.pending with
  | some t => t.node :: l.terms
  | none => l.terms

/-- Terms in sequence, given last one first. -/
def sequence (terms : List Node) : Node := terms.foldl (fun rest t => .seq t rest) .empty

/-- Alternatives given last one first, the last of them apart. -/
def choice (last : Node) (closed : List Node) : Node := closed.foldl (fun rest a => .alt a rest) last

/-- The tree of what has been read. -/
def node (l : Level) : Node := choice (sequence l.allTerms) l.closed

def addTerm (l : Level) (t : Term) : Level := { l with terms := l.allTerms, pending := some t }

def addAssertion (l : Level) (a : Node) : Level := { l with terms := a :: l.allTerms, pending := none }

def nextAlternative (l : Level) : Level :=
  { l with closed := sequence l.allTerms :: l.closed, terms := [], pending := none }

end Level

structure Builder where
  level : Level
  /-- The levels around it, innermost first. -/
  outer : List Level
  /-- The number of groups opened. -/
  groups : Nat
  /-- The names of groups that are complete, latest first. -/
  names : List (GroupName × Nat)
  /-- The names that back references use. -/
  used : List GroupName
deriving Repr, DecidableEq

namespace Builder

def start : Builder := ⟨Level.opened .plain 0, [], 0, [], []⟩

def addAtom (b : Builder) (node : Node) : Builder :=
  { b with
    level := b.level.addTerm ⟨node, b.groups, false⟩
    used := match node with
      | .backToName name => name :: b.used
      | _ => b.used }

def openGroup (b : Builder) (kind : GroupKind) : Builder :=
  { b with
    level := Level.opened kind b.groups
    outer := b.level :: b.outer
    groups := match kind with
      | .capture _ => b.groups + 1
      | _ => b.groups }

/-- Puts a complete group into the level around it. -/
def put (b : Builder) (around : Level) (outer : List Level) (node : Node) (lookbehind : Bool) :
    Builder :=
  { b with level := around.addTerm ⟨node, b.level.before, lookbehind⟩, outer := outer }

def closeGroup (b : Builder) : Except Fault Builder :=
  match b.outer with
  | [] => .error .unmatchedClose
  | around :: outer =>
    let body := b.level.node
    let group := b.level.before + 1
    match b.level.kind with
    | .plain => .ok (b.put around outer body false)
    | .look behind negated => .ok (b.put around outer (.look behind negated body) behind)
    | .capture none => .ok (b.put around outer (.capture group body) false)
    | .capture (some name) =>
      if (b.names.lookup name).isSome then .error .duplicateGroupName
      else .ok { b.put around outer (.capture group body) false with
        names := (name, group) :: b.names }

/-- Applies a quantifier to the pending term. -/
def quantify (b : Builder) (times : Quantifier) : Except Fault Builder :=
  match b.level.pending with
  | none => .error .nothingToRepeat
  | some t =>
    if times.max.any (· < times.min) then .error .boundsOutOfOrder
    else if t.lookbehind then .error .invalidQuantifier
    else .ok { b with level := { b.level with
      terms := .loop times t.before b.groups t.node :: b.level.terms
      pending := none } }

def step (b : Builder) : Token → Except Fault Builder
  | .atom node => .ok (b.addAtom node)
  | .assertion node => .ok { b with level := b.level.addAssertion node }
  | .bar => .ok { b with level := b.level.nextAlternative }
  | .opening kind => .ok (b.openGroup kind)
  | .closing => b.closeGroup
  | .quantifier times => b.quantify times
  | .bad fault => .error fault

/-- Reads tokens from the left and stops at the first that does not fit. -/
def build (b : Builder) (tokens : List Token) : Except Fault Builder := tokens.foldlM step b

theorem build_append (b : Builder) (s t : List Token) :
    b.build (s ++ t) = b.build s >>= fun c => c.build t := by
  simp [build]

end Builder

/-- A pattern that compiles. -/
structure Compiled where
  node : Node
  /-- The number of its groups. -/
  groups : Nat
  names : List (GroupName × Nat)
deriving Repr, DecidableEq

/-- What has been read as a pattern, if every group is closed and every name that
    is used is given. -/
def Builder.finish (b : Builder) : Except Fault Compiled :=
  if b.outer ≠ [] then .error .unterminatedGroup
  else if b.used.any fun name => (b.names.lookup name).isNone then .error .unknownGroupName
  else .ok ⟨b.level.node, b.groups, b.names⟩

/-- Compiles the text of a pattern, or reports the first fault from the left. -/
def compile (source : List Text.CodeUnit) : Except Fault Compiled :=
  Builder.start.build (tokens source) >>= Builder.finish

end Gateway.Pattern
