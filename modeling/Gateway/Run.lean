/- Computations of an exchange: they change a state, and they yield a value, fail, or
   wait for something that never comes. A failure keeps what was done before it. -/
namespace Gateway

inductive Outcome (ε α : Type)
  | done (value : α)
  | failed (error : ε)
  /-- Neither a value nor a failure ever comes. -/
  | pending
deriving Repr

/-- A computation with a state of type `σ`. -/
def Run (σ ε α : Type) : Type := σ → Outcome ε α × σ

namespace Run

variable {σ ε α β : Type}

def pure (a : α) : Run σ ε α := fun s => (.done a, s)

def bind (x : Run σ ε α) (f : α → Run σ ε β) : Run σ ε β := fun s =>
  match x s with
  | (.done a, t) => f a t
  | (.failed e, t) => (.failed e, t)
  | (.pending, t) => (.pending, t)

instance : Monad (Run σ ε) where
  pure := pure
  bind := bind

def fail (e : ε) : Run σ ε α := fun s => (.failed e, s)

/-- Never ends. -/
def wait : Run σ ε α := fun s => (.pending, s)

def get : Run σ ε σ := fun s => (.done s, s)

def modify (f : σ → σ) : Run σ ε Unit := fun s => (.done (), f s)

/-- Goes on with `f` if `x` fails. -/
def rescue (x : Run σ ε α) (f : ε → Run σ ε α) : Run σ ε α := fun s =>
  match x s with
  | (.failed e, t) => f e t
  | other => other

/-- The value of `x` or its failure, either as a value. -/
def attempt (x : Run σ ε α) : Run σ ε (Except ε α) := fun s =>
  match x s with
  | (.done a, t) => (.done (.ok a), t)
  | (.failed e, t) => (.done (.error e), t)
  | (.pending, t) => (.pending, t)

/-- The value of an option, or a failure. -/
def orFail (e : ε) : Option α → Run σ ε α
  | some a => pure a
  | none => fail e

/-- Runs on a part of a larger state. -/
def onPart {τ : Type} (read : τ → σ) (write : σ → τ → τ) (x : Run σ ε α) : Run τ ε α := fun t =>
  let (outcome, s) := x (read t)
  (outcome, write s t)

theorem bind_assoc {γ : Type} (x : Run σ ε α) (f : α → Run σ ε β) (g : β → Run σ ε γ) :
    (x.bind f).bind g = x.bind fun a => (f a).bind g := by
  funext s
  simp only [bind]
  cases h : x s with
  | mk outcome t => cases outcome <;> rfl

theorem pure_bind (a : α) (f : α → Run σ ε β) : (pure a).bind f = f a := rfl

theorem bind_pure (x : Run σ ε α) : x.bind pure = x := by
  funext s
  simp only [bind]
  cases h : x s with
  | mk outcome t => cases outcome <;> rfl

instance : LawfulMonad (Run σ ε) :=
  LawfulMonad.mk' _ bind_pure pure_bind bind_assoc

section
variable {x : Run σ ε α} {s t : σ}

theorem bind_of_done {a : α} (f : α → Run σ ε β) (h : x s = (.done a, t)) : (x >>= f) s = f a t := by
  change x.bind f s = f a t
  rw [bind, h]

theorem bind_of_failed {e : ε} (f : α → Run σ ε β) (h : x s = (.failed e, t)) :
    (x >>= f) s = (.failed e, t) := by
  change x.bind f s = (.failed e, t)
  rw [bind, h]

theorem bind_of_pending (f : α → Run σ ε β) (h : x s = (.pending, t)) :
    (x >>= f) s = (.pending, t) := by
  change x.bind f s = (.pending, t)
  rw [bind, h]

theorem get_bind (f : σ → Run σ ε β) (s : σ) : (get >>= f) s = f s s := rfl

theorem modify_bind (g : σ → σ) (f : Unit → Run σ ε β) (s : σ) :
    (modify g >>= f) s = f () (g s) := rfl

theorem rescue_of_done {a : α} (f : ε → Run σ ε α) (h : x s = (.done a, t)) :
    rescue x f s = (.done a, t) := by
  rw [rescue, h]

theorem rescue_of_failed {e : ε} (f : ε → Run σ ε α) (h : x s = (.failed e, t)) :
    rescue x f s = f e t := by
  rw [rescue, h]

theorem rescue_of_pending (f : ε → Run σ ε α) (h : x s = (.pending, t)) :
    rescue x f s = (.pending, t) := by
  rw [rescue, h]

theorem attempt_of_done {a : α} (h : x s = (.done a, t)) : attempt x s = (.done (.ok a), t) := by
  rw [attempt, h]

theorem attempt_of_failed {e : ε} (h : x s = (.failed e, t)) :
    attempt x s = (.done (.error e), t) := by
  rw [attempt, h]

theorem attempt_of_pending (h : x s = (.pending, t)) : attempt x s = (.pending, t) := by
  rw [attempt, h]

/-- Two steps are done if each of them is. -/
theorem bind_eq_done {f : α → Run σ ε β} {b : β} (h : (x >>= f) s = (.done b, t)) :
    ∃ a u, x s = (.done a, u) ∧ f a u = (.done b, t) := by
  cases hrun : x s with
  | mk outcome u =>
    cases outcome with
    | done a =>
      rw [bind_of_done f hrun] at h
      exact ⟨a, u, rfl, h⟩
    | failed e =>
      rw [bind_of_failed f hrun] at h
      cases h
    | pending =>
      rw [bind_of_pending f hrun] at h
      cases h

end

end Run

end Gateway
