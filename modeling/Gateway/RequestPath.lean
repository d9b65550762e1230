/- The canonical form of a request path: it starts with a slash and no slash follows
   another one. -/
namespace Gateway.RequestPath

/-- Keeps one slash of each run. -/
def collapse : List Char → List Char
  | [] => []
  | [c] => [c]
  | c :: d :: rest => if c = '/' ∧ d = '/' then collapse (d :: rest) else c :: collapse (d :: rest)

/-- Puts a slash in front, unless there is one. -/
def rooted : List Char → List Char
  | '/' :: rest => '/' :: rest
  | s => '/' :: s

/-- The canonical form of a path as a list of characters. -/
def canonical (s : List Char) : List Char := rooted (collapse s)

/-- The canonical form of a path. -/
def normalize (path : String) : String := String.ofList (canonical path.toList)

end Gateway.RequestPath
