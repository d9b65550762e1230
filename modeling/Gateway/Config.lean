import Gateway.FilePath
import Gateway.Number.Reader
import Gateway.Rule
import Gateway.Thrown

/- The configuration of the server: what a file gives, what the environment and the
   command line put over it, and the defaults below. -/
namespace Gateway

structure Config where
  host : String
  port : Number
  /-- Headers that are added to every response. -/
  headers : Fields String
  proxy : List RuleEntry
deriving Repr, DecidableEq

/-- What a file gives; every field may be missing. -/
structure FileConfig where
  host : Option String
  port : Option Number
  headers : Option (Fields String)
  proxy : Option (List RuleEntry)
deriving Repr, DecidableEq

/-- What the command line puts over everything else. -/
structure Overrides where
  configPath : Option String
  host : Option String
  port : Option Number
  headers : Option (Fields String)
deriving Repr, DecidableEq

/-- The variables of the environment that matter. -/
structure Environment where
  config : Option String
  host : Option String
  port : Option String
deriving Repr, DecidableEq

/-- Why a file is of no use. -/
inductive ConfigFault
  | unreadable (reason : String)
  | notJson
  | rootKind (found : String)
  | noServer
  | hostKind (found : String)
  | badPort
  | headersKind (found : String)
  | badHeader (name : String)
  | proxyKind (found : String)
deriving Repr

/-- A file that is of no use. -/
structure ConfigError where
  path : String
  fault : ConfigFault
deriving Repr

namespace Config

def fileName : String := "devroute.json"

def defaultHost : String := "localhost"

def defaultPort : Number := 8080

def maxPort : Nat := 65535

/-- Whether a number is an integer that a port can have. -/
def isPort (n : Number) : Bool := n.toNat?.any (· ≤ maxPort)

end Config

/-- What stands for the report about a text that is not JSON. -/
def invalidJsonMessage : String := "<json error>"

def ConfigFault.message : ConfigFault → String
  | .unreadable reason => "cannot read config file: " ++ reason
  | .notJson => "invalid JSON: " ++ invalidJsonMessage
  | .rootKind found => "the root must be an object, found " ++ found
  | .noServer => "the \"server\" key is missing or is not an object"
  | .hostKind found => "host must be a string, found " ++ found
  | .badPort => s!"port must be an integer between 0 and {Config.maxPort}"
  | .headersKind found => "headers must be an object, found " ++ found
  | .badHeader name => "header \"" ++ name ++ "\" must be a string"
  | .proxyKind found => "proxy must be an object, found " ++ found

def ConfigError.message (e : ConfigError) : String := e.path ++ ": " ++ e.fault.message

namespace RuleEntry

def badKey (key : String) : LogEntry :=
  .warn s!"Proxy key '{key}' does not end with '/'. Ignoring this proxy rule."

def noTarget (key : String) : LogEntry :=
  .warn s!"Proxy rule '{key}' has no target. Ignoring this proxy rule."

def badRewrite (key kind : String) : LogEntry :=
  .warn s!"Proxy rule '{key}' has a rewrite of type {kind}; expected a boolean or 'regex -> replacement'. Ignoring rewrite."

/-- The rewrite of a rule: a flag or a text, or nothing with a warning. -/
def readRewrite (key : String) : Option Json → Option RewriteSetting × Log
  | none => (none, [])
  | some (.bool on) => (some (.flag on), [])
  | some (.text spec) => (some (.text spec), [])
  | some other => (none, [badRewrite key other.kind])

/-- The rule of a member: none for a value that is no object, none with a warning for
    a key without a final slash or a missing target. -/
def ofMember (key : String) : Json → Option RuleEntry × Log
  | .object members =>
    if key.toList.getLast? ≠ some '/' then (none, [badKey key])
    else
      match Json.member? members "target" with
      | some (.text target) =>
        if target = "" then (none, [noTarget key])
        else
          let (rewrite, log) := readRewrite key (Json.member? members "rewrite")
          (some ⟨key, target, rewrite⟩, log)
      | _ => (none, [noTarget key])
  | _ => (none, [])

/-- The rules of an object, in the order of its members. -/
def ofMembers (members : Fields Json) : List RuleEntry × Log :=
  let read := members.map fun (key, value) => ofMember key value
  (read.filterMap (·.1), read.flatMap (·.2))

end RuleEntry

namespace FileConfig

def empty : FileConfig := ⟨none, none, none, none⟩

def readHost : Option Json → Except ConfigFault (Option String)
  | none => .ok none
  | some (.text host) => .ok (some host)
  | some other => .error (.hostKind other.kind)

def readPort : Option Json → Except ConfigFault (Option Number)
  | none => .ok none
  | some (.number port) => if Config.isPort port then .ok (some port) else .error .badPort
  | some _ => .error .badPort

/-- Header values are texts; the reserved name is passed over. -/
def readHeaderPairs : List (String × Json) → Except ConfigFault (List (String × String))
  | [] => .ok []
  | (name, .text value) :: rest => (readHeaderPairs rest).map ((name, value) :: ·)
  | (name, _) :: _ => .error (.badHeader name)

def readHeaders : Option Json → Except ConfigFault (Option (Fields String))
  | none => .ok none
  | some (.object members) =>
    (readHeaderPairs members).map fun pairs =>
      some (pairs.foldl (fun fields (name, value) => Fields.assign name value fields) [])
  | some other => .error (.headersKind other.kind)

def readProxy : Option Json → Reported ConfigFault (Option (List RuleEntry))
  | none => pure none
  | some (.object members) => do
    let (entries, log) := RuleEntry.ofMembers members
    Reported.report log
    return some entries
  | some other => Reported.fail (.proxyKind other.kind)

/-- Reads the member `server` of a file. The first fault counts, in the order of
    host, port, headers and proxy. -/
def ofServer (server : Fields Json) : Reported ConfigFault FileConfig := do
  let host ← readHost (Json.member? server "host")
  let port ← readPort (Json.member? server "port")
  let headers ← readHeaders (Json.member? server "headers")
  let proxy ← readProxy (Json.member? server "proxy")
  return ⟨host, port, headers, proxy⟩

/-- Reads the contents of a file. -/
def ofJson : Json → Reported ConfigFault FileConfig
  | .object root =>
    match Json.member? root "server" with
    | some (.object server) => ofServer server
    | _ => Reported.fail .noServer
  | other => Reported.fail (.rootKind other.kind)

/-- Reads the text of a file. -/
def ofText (text : String) : Reported ConfigFault FileConfig :=
  match Json.parse? text with
  | some json => ofJson json
  | none => Reported.fail .notJson

end FileConfig

namespace Config

/-- A text that is given and not empty. -/
def nonEmpty (s : Option String) : Option String := s.filter (· ≠ "")

/-- The port of the environment, if it is one. -/
def portOfEnvironment (env : Environment) : Option Number :=
  ((nonEmpty env.port).map Number.ofText).filter isPort

def fileMissing : LogEntry :=
  .info s!"No {fileName} found. Running with the default configuration."

/-- Reads the file at a path. One that is missing counts as empty, unless its path was
    given. -/
def readFile (path : String) (explicit : Bool) :
    Except SystemError String → Reported ConfigError FileConfig
  | .ok text => (FileConfig.ofText text).mapError fun fault => ⟨path, fault⟩
  | .error reason =>
    if reason.code = some "ENOENT" && !explicit then do
      Reported.report [fileMissing]
      return .empty
    else Reported.fail ⟨path, .unreadable reason.message⟩

/-- The path that was asked for, from the command line or the environment. -/
def explicitPath (overrides : Overrides) (env : Environment) : Option String :=
  (nonEmpty overrides.configPath).or (nonEmpty env.config)

/-- The path of the file. -/
def pathOf (overrides : Overrides) (cwd : String) (env : Environment) : String :=
  FilePath.resolve cwd ((explicitPath overrides env).getD fileName)

/-- Puts command line, environment, file and defaults over one another. -/
def resolve (overrides : Overrides) (env : Environment) (file : FileConfig) : Config where
  host := (((nonEmpty overrides.host).or (nonEmpty env.host)).or (nonEmpty file.host)).getD defaultHost
  port := ((overrides.port.or (portOfEnvironment env)).or file.port).getD defaultPort
  headers := Fields.merge (Fields.merge [] (file.headers.getD [])) (overrides.headers.getD [])
  proxy := file.proxy.getD []

/-- Loads the configuration; `read` gives the contents of a file. -/
def load (overrides : Overrides) (cwd : String) (env : Environment)
    (read : String → Except SystemError String) : Reported ConfigError Config :=
  let path := pathOf overrides cwd env
  (readFile path (explicitPath overrides env).isSome (read path)).map (resolve overrides env)

def rewriteNote : Option RewriteSetting → String
  | none => ""
  | some (.flag on) => if on then " (rewrite: true)" else " (rewrite: false)"
  | some (.text spec) => " (rewrite: " ++ spec ++ ")"

def describeEntry (entry : RuleEntry) : String :=
  "  " ++ entry.key ++ " -> " ++ entry.target ++ rewriteNote entry.rewrite

/-- The configuration in several lines. -/
def describe (config : Config) : String :=
  let headers := if config.headers.isEmpty then "none"
    else String.intercalate ", " (config.headers.map fun (name, value) => name ++ "=" ++ value)
  String.intercalate "\n"
    (["host: " ++ config.host, "port: " ++ config.port.toText, "headers: " ++ headers,
      if config.proxy.isEmpty then "proxy: none" else "proxy:"] ++ config.proxy.map describeEntry)

end Config

end Gateway
