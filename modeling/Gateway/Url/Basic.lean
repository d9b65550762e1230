import Gateway.Url.Host

/- URLs as records, and their written form. -/
namespace Gateway.Url

/-- A path: segments behind slashes, or one text without structure. -/
inductive Path
  | segments (list : List String)
  | plain (text : String)
deriving Repr, DecidableEq

end Gateway.Url

namespace Gateway

structure Url where
  scheme : String
  username : String
  password : String
  host : Option Url.Host
  /-- The port, unless it is the default of the scheme. -/
  port : Option Nat
  path : Url.Path
  query : Option String
  fragment : Option String
deriving Repr, DecidableEq

namespace Url

/-- The default port of a special scheme. -/
def defaultPort? (scheme : String) : Option Nat :=
  if scheme = "http" ∨ scheme = "ws" then some 80
  else if scheme = "https" ∨ scheme = "wss" then some 443
  else if scheme = "ftp" then some 21
  else none

/-- Special schemes always have a host and read a backslash as a slash. -/
def isSpecialScheme (scheme : String) : Bool :=
  scheme = "file" || (defaultPort? scheme).isSome

/-- The scheme with its colon. -/
def protocol (u : Url) : String := u.scheme ++ ":"

/-- The host without the port. -/
def hostname (u : Url) : String := (u.host.map Host.text).getD ""

/-- The text of the port; empty for the default. -/
def portText (u : Url) : String := (u.port.map fun n => String.ofList (decimalText n)).getD ""

/-- The host with the port. -/
def authority (u : Url) : String :=
  match u.host, u.port with
  | none, _ => ""
  | some h, none => h.text
  | some h, some _ => h.text ++ ":" ++ u.portText

def Path.text : Path → String
  | .segments list => String.join (list.map fun s => "/" ++ s)
  | .plain text => text

def pathname (u : Url) : String := u.path.text

/-- The query behind a question mark; empty if there is none or an empty one. -/
def search (u : Url) : String :=
  match u.query with
  | some q => if q = "" then "" else "?" ++ q
  | none => ""

/-- User name and password before the host. -/
def credentials (u : Url) : String :=
  if u.username = "" ∧ u.password = "" then ""
  else u.username ++ (if u.password = "" then "" else ":" ++ u.password) ++ "@"

/-- Whether the path would read as a host if it followed the scheme at once. -/
def Path.looksLikeHost : Path → Bool
  | .segments ("" :: _ :: _) => true
  | _ => false

/-- What stands between the scheme and the path. -/
def beforePath (u : Url) : String :=
  match u.host with
  | some _ => "//" ++ u.credentials ++ u.authority
  | none => if u.path.looksLikeHost then "/." else ""

/-- The whole URL as a text. -/
def href (u : Url) : String :=
  u.protocol ++ u.beforePath ++ u.pathname ++ ((u.query.map ("?" ++ ·)).getD "") ++
    ((u.fragment.map ("#" ++ ·)).getD "")

end Url

end Gateway
