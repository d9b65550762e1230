import Gateway.Url.Segments

/- Reading URLs, on their own or relative to another one. The fragment and the query
   are cut off first; what is left is a scheme, an authority and a path, or some of
   these. -/
namespace Gateway.Url

/-- Controls and spaces, which are dropped at the ends. -/
def isEdge (c : Char) : Bool := c.toNat ≤ 0x20

/-- Tabs and line ends, which are dropped everywhere. -/
def isDropped (c : Char) : Bool := c == '\t' || c == '\n' || c == '\r'

/-- The text without what is ignored. -/
def clean (s : List Char) : List Char :=
  ((s.dropWhile isEdge).reverse.dropWhile isEdge).reverse.filter fun c => !isDropped c

/-- Cuts a text at the first `c`, which is dropped. -/
def cutAtChar (c : Char) : List Char → List Char × Option (List Char)
  | [] => ([], none)
  | a :: rest =>
    if a = c then ([], some rest)
    else let (before, after) := cutAtChar c rest; (a :: before, after)

/-- A text cut into what comes before the query, the query and the fragment. -/
structure Parts where
  main : List Char
  query : Option (List Char)
  fragment : Option (List Char)
deriving Repr, DecidableEq

def Parts.of (s : List Char) : Parts :=
  let (beforeFragment, fragment) := cutAtChar '#' s
  let (main, query) := cutAtChar '?' beforeFragment
  ⟨main, query, fragment⟩

def isSchemeChar (c : Char) : Bool := c.isAlphanum || c == '+' || c == '-' || c == '.'

/-- The scheme in lowercase and what follows its colon. -/
def scheme? (s : List Char) : Option (List Char × List Char) :=
  match s, s.dropWhile isSchemeChar with
  | c :: _, ':' :: rest => if c.isAlpha then some ((s.takeWhile isSchemeChar).map Char.toLower, rest) else none
  | _, _ => none

/-- The query of a scheme as it is kept. -/
def keptQuery (scheme : String) (s : List Char) : String :=
  String.ofList (encode (if isSpecialScheme scheme then inSpecialQuerySet else inQuerySet) s)

def keptFragment (s : List Char) : String := String.ofList (encode inFragmentSet s)

/-- Where a request goes: the part of a URL between scheme and path. -/
structure Authority where
  username : String
  password : String
  host : Option Host
  port : Option Nat
deriving Repr, DecidableEq

def Authority.none : Authority := ⟨"", "", Option.none, Option.none⟩

/-- The authority of a URL. -/
def authorityOf (u : Url) : Authority := ⟨u.username, u.password, u.host, u.port⟩

/-- Cuts at the last `@`. -/
def cutAtSign (s : List Char) : Option (List Char × List Char) :=
  match s.reverse.dropWhile (· != '@') with
  | [] => none
  | _ :: before => some (before.reverse, (s.reverse.takeWhile (· != '@')).reverse)

/-- User name and password, escaped. -/
def readCredentials (s : List Char) : String × String :=
  let (user, password) := cutAtChar ':' s
  (String.ofList (encode inUserSet user), String.ofList (encode inUserSet (password.getD [])))

/-- Cuts at the first colon outside of brackets. -/
def cutAtPort : (inBrackets : Bool) → List Char → List Char × Option (List Char)
  | _, [] => ([], none)
  | inBrackets, c :: rest =>
    if c = ':' && !inBrackets then ([], some rest)
    else
      let (host, port) := cutAtPort (c == '[' || (inBrackets && c != ']')) rest
      (c :: host, port)

/-- A port, if it is one; empty stands for the default. -/
def readPort (scheme : String) (s : List Char) : Option (Option Nat) :=
  if s.isEmpty then some none
  else if s.all Char.isDigit then
    (readBase 10 s).bind fun n =>
      if n < 65536 then some (if defaultPort? scheme = some n then none else some n) else none
  else none

/-- Host and port. -/
def readHostPort (scheme : String) (s : List Char) : Option (Option Host × Option Nat) := do
  let (host, port) := cutAtPort false s
  if host.isEmpty && (isSpecialScheme scheme || port.isSome) then none
  else
    let h ← Host.read (isSpecialScheme scheme) host
    let p ← readPort scheme (port.getD [])
    return (some h, p)

def readAuthority (scheme : String) (s : List Char) : Option Authority :=
  match cutAtSign s with
  | none => (readHostPort scheme s).map fun (host, port) => ⟨"", "", host, port⟩
  | some (credentials, rest) =>
    if rest.isEmpty then none
    else
      let (user, password) := readCredentials credentials
      (readHostPort scheme rest).map fun (host, port) => ⟨user, password, host, port⟩

/-- The path with these segments; without a host it needs one to have structure. -/
def Path.ofSegments (host : Option Host) (path : List (List Char)) : Path :=
  if host.isNone && path.isEmpty then .plain "" else .segments (path.map String.ofList)

/-- A URL from what has been read of it. -/
def make (scheme : String) (a : Authority) (path : List (List Char)) (query : Option String)
    (fragment : Option String) : Url :=
  ⟨scheme, a.username, a.password, a.host, a.port, .ofSegments a.host path, query, fragment⟩

/-- The segments behind an authority: none at all only where that is allowed. -/
def segmentsAfterAuthority (scheme : String) (s : List Char) : List (List Char) :=
  match s with
  | [] => if isSpecialScheme scheme then [[]] else []
  | c :: rest =>
    readSegments scheme [] (if isSlash (isSpecialScheme scheme) c then rest else c :: rest)

/-- Reads an authority and the path behind it. -/
def readFromAuthority (scheme : String) (s : List Char) (query fragment : Option String) :
    Option Url :=
  let isEnd := isSlash (isSpecialScheme scheme)
  (readAuthority scheme (s.takeWhile fun c => !isEnd c)).map fun a =>
    make scheme a (segmentsAfterAuthority scheme (s.dropWhile fun c => !isEnd c)) query fragment

/-- Reads an authority behind any number of slashes. -/
def readAfterSlashes (scheme : String) (s : List Char) (query fragment : Option String) :
    Option Url :=
  readFromAuthority scheme (s.dropWhile (isSlash true)) query fragment

/-- The segments of a path with structure. -/
def Path.list : Path → List (List Char)
  | .segments list => list.map String.toList
  | .plain _ => []

/-- The query that a URL hands on to one relative to it: an empty one is none. -/
def inheritedQuery (base : Url) : Option String := base.query.filter (· != "")

/-- Reads a path that is relative to a URL of the same scheme. -/
def readRelative (base : Url) (s : List Char) (query fragment : Option String) : Option Url :=
  let scheme := base.scheme
  let slash := isSlash (isSpecialScheme scheme)
  match s with
  | [] => some { base with query := query.or (inheritedQuery base), fragment }
  | c :: rest =>
    if slash c then
      match rest with
      | d :: rest' =>
        if isSpecialScheme scheme && slash d then readAfterSlashes scheme rest' query fragment
        else if d = '/' then readFromAuthority scheme rest' query fragment
        else some (make scheme (authorityOf base) (readSegments scheme [] rest) query fragment)
      | [] => some (make scheme (authorityOf base) (readSegments scheme [] []) query fragment)
    else
      some (make scheme (authorityOf base) (readSegments scheme (shorten scheme base.path.list) s)
        query fragment)

def emptyHost : Authority := ⟨"", "", some (.other ""), none⟩

/-- Reads the host of a file and the path behind it. -/
def readFileHost (s : List Char) (query fragment : Option String) : Option Url :=
  let host := s.takeWhile fun c => !isSlash true c
  let rest := s.dropWhile fun c => !isSlash true c
  if isDrive host then some (make "file" emptyHost (readSegments "file" [] s) query fragment)
  else if host.isEmpty then
    some (make "file" emptyHost (segmentsAfterAuthority "file" rest) query fragment)
  else
    (Host.read true host).map fun h =>
      let h := if h = .name "localhost" then .other "" else h
      make "file" ⟨"", "", some h, none⟩ (segmentsAfterAuthority "file" rest) query fragment

/-- Reads what follows the scheme of a file, or is relative to one. -/
def readFile (base : Option Url) (s : List Char) (query fragment : Option String) : Option Url :=
  let base := base.filter fun b => b.scheme = "file"
  let host := (base.map fun b => { emptyHost with host := b.host }).getD emptyHost
  let drive := match base with
    | some b => (b.path.list.take 1).filter startsNormalDrive
    | none => []
  match s with
  | [] =>
    match base with
    | some b => some { b with query := query.or (inheritedQuery b), fragment }
    | none => some (make "file" emptyHost (readSegments "file" [] []) query fragment)
  | c :: rest =>
    if isSlash true c then
      match rest with
      | d :: rest' =>
        if isSlash true d then readFileHost rest' query fragment
        else
          let above := if startsWithDrive rest then [] else drive
          some (make "file" host (readSegments "file" above rest) query fragment)
      | [] => some (make "file" host (readSegments "file" drive []) query fragment)
    else
      match base with
      | some b =>
        let above := if startsWithDrive s then [] else shorten "file" b.path.list
        some (make "file" host (readSegments "file" above s) query fragment)
      | none => some (make "file" emptyHost (readSegments "file" [] s) query fragment)

/-- Reads what follows a scheme that is not special. -/
def readOther (scheme : String) (s : List Char) (query fragment : Option String) : Option Url :=
  match s with
  | '/' :: '/' :: rest => readFromAuthority scheme rest query fragment
  | '/' :: rest => some (make scheme .none (readSegments scheme [] rest) query fragment)
  | _ =>
    some ⟨scheme, "", "", none, none, .plain (String.ofList (encode inControlSet s)), query, fragment⟩

/-- Reads what follows a scheme. -/
def readAfterScheme (base : Option Url) (scheme : String) (s : List Char)
    (query fragment : Option String) : Option Url :=
  if scheme = "file" then readFile base s query fragment
  else if isSpecialScheme scheme then
    match base.filter fun b => b.scheme = scheme with
    | some b =>
      match s with
      | '/' :: '/' :: rest => readAfterSlashes scheme rest query fragment
      | _ => readRelative b s query fragment
    | none => readAfterSlashes scheme s query fragment
  else readOther scheme s query fragment

/-- Reads what has a fragment, relative to a URL whose path has no structure. -/
def readBeside (base : Url) (s : List Char) (query fragment : Option String) : Option Url :=
  match s with
  | [] | '/' :: _ => readRelative base s query fragment
  | _ => none

/-- Reads a text without a scheme. -/
def readWithoutScheme (base : Url) (p : Parts) : Option Url :=
  let query := p.query.map (keptQuery base.scheme)
  let fragment := p.fragment.map keptFragment
  match base.path with
  | .plain _ => if p.fragment.isSome then readBeside base p.main query fragment else none
  | .segments _ =>
    if base.scheme = "file" then readFile (some base) p.main query fragment
    else readRelative base p.main query fragment

/-- Reads a text without the characters that are ignored. -/
def readClean (base : Option Url) (s : List Char) : Option Url :=
  let p := Parts.of s
  match scheme? p.main with
  | some (scheme, rest) =>
    let scheme := String.ofList scheme
    readAfterScheme base scheme rest (p.query.map (keptQuery scheme)) (p.fragment.map keptFragment)
  | none => base.bind fun b => readWithoutScheme b p

/-- Reads a URL, relative to `base` where it has no scheme of its own. -/
def parse? (s : String) (base : Option Url) : Option Url := readClean base (clean s.toList)

/-- Reads a URL that stands on its own. -/
def ofText? (s : String) : Option Url := parse? s none

/-- Drops spaces from the end of a path without structure. -/
def Path.withoutTrailingSpaces : Path → Path
  | .plain text => .plain (String.ofList (text.toList.reverse.dropWhile (· == ' ')).reverse)
  | .segments list => .segments list

/-- The URL with another query, given as `search` writes it. -/
def withSearch (u : Url) (search : String) : Url :=
  match search.toList with
  | [] =>
    { u with
      query := none
      path := if u.fragment.isNone then u.path.withoutTrailingSpaces else u.path }
  | c :: rest =>
    let text := if c = '?' then rest else c :: rest
    { u with query := some (keptQuery u.scheme (text.filter fun c => !isDropped c)) }

end Gateway.Url
