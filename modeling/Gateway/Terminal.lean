import Gateway.Console
import Gateway.Text.Pieces

/- A terminal that shows styles by escape sequences around each line of a text. -/
namespace Gateway.Terminal

/-- The numbers of the sequences that switch a style on and off. -/
def codes : Style → Nat × Nat
  | .bold => (1, 22)
  | .red => (31, 39)
  | .green => (32, 39)
  | .yellow => (33, 39)
  | .blue => (34, 39)
  | .cyan => (36, 39)
  | .gray => (90, 39)

/-- The escape sequence with a number. -/
def sequence (n : Nat) : List Char := '\x1b' :: '[' :: Nat.toDigits 10 n ++ ['m']

def opening (style : Style) : List Char := sequence (codes style).1

def closing (style : Style) : List Char := sequence (codes style).2

/-- Switches the style on again wherever the text itself switches it off. -/
def reopen (style : Style) (s : List Char) : List Char :=
  Text.replaceAll (closing style) (closing style ++ opening style) s

/-- Breaks what is on for each line end in the text. -/
def aroundLineEnds (opened closed : List Char) : List Char → List Char
  | [] => []
  | '\r' :: '\n' :: rest => closed ++ '\r' :: '\n' :: opened ++ aroundLineEnds opened closed rest
  | '\n' :: rest => closed ++ '\n' :: opened ++ aroundLineEnds opened closed rest
  | c :: rest => c :: aroundLineEnds opened closed rest

/-- A text in styles, the outermost first. Without colour, and for the empty text,
    nothing is added. -/
def painter (colour : Bool) : Painter := fun styles text =>
  if !colour || text = "" then text
  else
    let opened := styles.flatMap opening
    let closed := styles.reverse.flatMap closing
    let inner := styles.reverse.foldl (fun s style => reopen style s) text.toList
    String.ofList (opened ++ aroundLineEnds opened closed inner ++ closed)

end Gateway.Terminal
