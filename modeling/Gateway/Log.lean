/- Log entries. A component that reports something returns its entries in order,
   beside its result. Steps that may fail are put together so that what was reported
   before a failure is kept. -/
namespace Gateway

inductive LogLevel
  | info
  | warn
  | error
deriving Repr, DecidableEq

structure LogEntry where
  level : LogLevel
  message : String
deriving Repr, DecidableEq

abbrev Log := List LogEntry

namespace LogEntry

def info (message : String) : LogEntry := ⟨.info, message⟩

def warn (message : String) : LogEntry := ⟨.warn, message⟩

def error (message : String) : LogEntry := ⟨.error, message⟩

end LogEntry

/-- The value or the failure of a step, and what was reported on the way to it. -/
structure Reported (ε α : Type) where
  result : Except ε α
  log : Log

namespace Reported

variable {ε δ α β : Type}

def ofExcept (result : Except ε α) : Reported ε α := ⟨result, []⟩

def fail (e : ε) : Reported ε α := ofExcept (.error e)

def report (log : Log) : Reported ε Unit := ⟨.ok (), log⟩

def bind (x : Reported ε α) (f : α → Reported ε β) : Reported ε β :=
  match x.result with
  | .ok a => ⟨(f a).result, x.log ++ (f a).log⟩
  | .error e => ⟨.error e, x.log⟩

instance : Monad (Reported ε) where
  pure a := ofExcept (.ok a)
  bind := bind

instance : MonadLift (Except ε) (Reported ε) := ⟨ofExcept⟩

def map (f : α → β) (x : Reported ε α) : Reported ε β := ⟨x.result.map f, x.log⟩

def mapError (f : ε → δ) (x : Reported ε α) : Reported δ α := ⟨x.result.mapError f, x.log⟩

end Reported

end Gateway
