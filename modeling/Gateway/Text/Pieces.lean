/- Cutting a text at a separator, and what is built on that. -/
namespace Gateway.Text

variable {α : Type} [BEq α]

/-- Puts `a` in front of the first piece. -/
def consPiece (a : α) : List (List α) → List (List α)
  | [] => [[a]]
  | piece :: pieces => (a :: piece) :: pieces

/-- Cuts `s` at the separator, where the first `skip` elements are the rest of
    one that has been found. -/
def splitFrom (sep : List α) : Nat → List α → List (List α)
  | _, [] => [[]]
  | skip + 1, _ :: rest => splitFrom sep skip rest
  | 0, a :: rest =>
    if sep.isPrefixOf (a :: rest) then [] :: splitFrom sep (sep.length - 1) rest
    else consPiece a (splitFrom sep 0 rest)

/-- The pieces between the occurrences of `sep`, found from the left and without
    overlap. The separator is not empty. -/
def pieces (sep s : List α) : List (List α) := splitFrom sep 0 s

/-- Every occurrence of `sep` replaced by `new`. -/
def replaceAll (sep new s : List α) : List α := new.intercalate (pieces sep s)

/-- What stands before and after the first occurrence of `sep`. -/
def cutFirst (sep : List α) : List α → Option (List α × List α)
  | [] => if sep.isEmpty then some ([], []) else none
  | a :: rest =>
    if sep.isPrefixOf (a :: rest) then some ([], (a :: rest).drop sep.length)
    else (cutFirst sep rest).map fun (before, after) => (a :: before, after)

/-- The text without the first occurrence of `part`. -/
def removeFirst (part s : List α) : List α :=
  match cutFirst part s with
  | some (before, after) => before ++ after
  | none => s

/-- Whether `part` occurs in `s`. -/
def contains (part s : List α) : Bool := (cutFirst part s).isSome

theorem splitFrom_ne_nil (sep : List α) (n : Nat) (s : List α) : splitFrom sep n s ≠ [] := by
  induction s generalizing n with
  | nil => simp [splitFrom]
  | cons a rest ih =>
    cases n with
    | succ n => exact ih n
    | zero =>
      rw [splitFrom]
      split
      · simp
      · cases h : splitFrom sep 0 rest <;> simp [consPiece]

end Gateway.Text
