import Gateway.Url.Basic

/- The segments of a path: dot segments are resolved while they are read, except in
   a path that is kept as it is written. -/
namespace Gateway.Url

/-- What cuts a path into segments. -/
def isSlash (special : Bool) (c : Char) : Bool := c == '/' || (special && c == '\\')

/-- The pieces of a text between slashes. -/
def slashPieces (special : Bool) : List Char → List (List Char)
  | [] => [[]]
  | c :: rest =>
    if isSlash special c then [] :: slashPieces special rest
    else Text.consPiece c (slashPieces special rest)

/-- A segment with its escaped dots written out, in lowercase. -/
def dots : List Char → List Char
  | '%' :: '2' :: c :: rest => if c = 'e' ∨ c = 'E' then '.' :: dots rest else '%' :: '2' :: dots (c :: rest)
  | c :: rest => c :: dots rest
  | [] => []

/-- The segment that stands for the directory it is in. -/
def isSingleDot (s : List Char) : Bool := dots s == ['.']

/-- The segment that stands for the directory above. -/
def isDoubleDot (s : List Char) : Bool := dots s == ['.', '.']

def isDriveMark (c : Char) : Bool := c == ':' || c == '|'

/-- A letter and a colon or a bar. -/
def isDrive : List Char → Bool
  | [a, b] => a.isAlpha && isDriveMark b
  | _ => false

/-- Whether a segment begins like a drive in normal form, with a letter and a colon. -/
def startsNormalDrive : List Char → Bool
  | a :: ':' :: _ => a.isAlpha
  | _ => false

/-- Whether a path begins with a drive. -/
def startsWithDrive : List Char → Bool
  | [a, b] => isDrive [a, b]
  | a :: b :: c :: _ => isDrive [a, b] && isSlash true c
  | _ => false

/-- Drops the last segment, but not a lone one of a file that begins like a drive. -/
def shorten (scheme : String) (path : List (List Char)) : List (List Char) :=
  match path with
  | [s] => if scheme = "file" && startsNormalDrive s then [s] else []
  | _ => path.dropLast

/-- The segment as it is kept. -/
def keptSegment (scheme : String) (path : List (List Char)) (s : List Char) : List Char :=
  if scheme = "file" && path.isEmpty && isDrive s then s.take 1 ++ [':'] else encode inPathSet s

/-- The segments that are left where a path ends in the directory above. Only where
    a path may not be empty does a slash follow nothing. -/
def endAbove (scheme : String) (path : List (List Char)) : List (List Char) :=
  if path.isEmpty && !isSpecialScheme scheme then [] else shorten scheme path ++ [[]]

/-- Puts pieces behind the segments of a path. -/
def addPieces (scheme : String) (path : List (List Char)) : List (List Char) → List (List Char)
  | [] => path
  | s :: rest =>
    let path :=
      if isDoubleDot s then
        if rest.isEmpty then endAbove scheme path else shorten scheme path
      else if isSingleDot s then
        if rest.isEmpty then path ++ [[]] else path
      else path ++ [keptSegment scheme path s]
    addPieces scheme path rest

/-- Characters of a path that stand for themselves in every place. -/
def isOrdinary (c : Char) : Bool := !inPathSet c && c != '%' && c != '\\'

/-- What follows the first slash with a dot behind it. -/
def afterSlashDot : List Char → Option (List Char)
  | '/' :: '.' :: rest => some rest
  | _ :: rest => afterSlashDot rest
  | [] => none

/-- Whether a path is kept as it is written. All its characters are ordinary, and
    of its segments the first that begins with a dot decides: in `a/.git/../b`
    it is a name, so the path stays; in `a/./b` it is not. -/
def isVerbatim (scheme : String) (s : List Char) : Bool :=
  s.all isOrdinary && s.head? != some '.' && !(scheme = "file" && startsWithDrive s) &&
    match afterSlashDot s with
    | none => true
    | some [] => false
    | some (c :: _) => c != '.' && c != '/'

/-- Reads a path behind the segments of another one. -/
def readSegments (scheme : String) (path : List (List Char)) (s : List Char) : List (List Char) :=
  let pieces := slashPieces (isSpecialScheme scheme) s
  if path.isEmpty && isVerbatim scheme s then pieces else addPieces scheme path pieces

end Gateway.Url
