import Gateway.Text.Pieces

/- Absolute file paths. -/
namespace Gateway.FilePath

/-- Follows a path down from the root: a dot stays, two dots go up, and nothing is
    above the root. The directories that are open are given innermost first. -/
def follow : List (List Char) → List (List Char) → List (List Char)
  | opened, [] => opened
  | opened, part :: rest =>
    if part = [] ∨ part = ['.'] then follow opened rest
    else if part = ['.', '.'] then follow opened.tail rest
    else follow (part :: opened) rest

def isAbsolute (path : List Char) : Bool := path.head? == some '/'

/-- The absolute path of `path` as seen from a directory. -/
def resolve (directory path : String) : String :=
  let full := if isAbsolute path.toList then path.toList else directory.toList ++ '/' :: path.toList
  String.ofList ('/' :: ['/'].intercalate (follow [] (Text.pieces ['/'] full)).reverse)

end Gateway.FilePath
