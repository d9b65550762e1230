import Gateway.Config

/- The arguments of the command line. -/
namespace Gateway

/-- What the command line asks for. -/
structure Arguments where
  help : Bool
  version : Bool
  configPath : Option String
  host : Option String
  port : Option Number
  headers : Fields String
deriving Repr, DecidableEq

inductive ArgumentError
  /-- A flag without the value that it needs. -/
  | missingValue (flag what : String)
  | badHeader (arg : String)
  | badPort (text : String)
  | unknown (arg : String)
deriving Repr, DecidableEq

def ArgumentError.message : ArgumentError → String
  | .missingValue flag what => flag ++ " requires " ++ what ++ "."
  | .badHeader arg => "Invalid header \"" ++ arg ++ "\". Expected Name=value."
  | .badPort text => "Invalid port \"" ++ text ++ "\". Must be 0-65535."
  | .unknown arg => "Unknown argument \"" ++ arg ++ "\". Run devroute --help for usage."

namespace Arguments

def none : Arguments := ⟨false, false, .none, .none, .none, []⟩

/-- What an argument asks for. -/
inductive Flag
  | help
  | version
  | config
  | host
  | port
  | header
deriving Repr, DecidableEq

def flag? (arg : String) : Option Flag :=
  if arg = "-h" ∨ arg = "--help" then some .help
  else if arg = "-v" ∨ arg = "--version" then some .version
  else if arg = "-c" ∨ arg = "--config" then some .config
  else if arg = "-H" ∨ arg = "--host" then some .host
  else if arg = "-p" ∨ arg = "--port" then some .port
  else if arg = "--header" then some .header
  else Option.none

/-- What a flag needs; nothing if it stands alone. -/
def Flag.needs : Flag → Option String
  | .help => Option.none
  | .version => Option.none
  | .config => some "a file path"
  | .host => some "a host name"
  | .port => some "a port number"
  | .header => some "Name=value"

/-- A header `Name=value`; blanks around both parts are dropped. -/
def readHeader (arg : String) : Except ArgumentError (String × String) :=
  match Text.cutFirst ['='] arg.toList with
  | some (name, value) =>
    if (Text.trim name).isEmpty then .error (.badHeader arg)
    else .ok (String.ofList (Text.trim name), String.ofList (Text.trim value))
  | Option.none => .error (.badHeader arg)

/-- Applies a flag with its value. -/
def apply (options : Arguments) (flag : Flag) (value : String) : Except ArgumentError Arguments :=
  match flag with
  | .help => .ok { options with help := true }
  | .version => .ok { options with version := true }
  | .config => .ok { options with configPath := some value }
  | .host => .ok { options with host := some value }
  | .port =>
    let port := Number.ofText value
    if Config.isPort port then .ok { options with port := some port } else .error (.badPort value)
  | .header => do
    let (name, value) ← readHeader value
    return { options with headers := Fields.assign name value options.headers }

/-- Whether an argument can be a value: it does not look like a flag. -/
def isValue (arg : String) : Bool := arg.toList.head? != some '-'

/-- Reads arguments from the left, upon what has been read. -/
def parseFrom (options : Arguments) : List String → Except ArgumentError Arguments
  | [] => .ok options
  | arg :: rest =>
    match flag? arg with
    | Option.none => .error (.unknown arg)
    | some flag =>
      match flag.needs with
      | Option.none => do parseFrom (← options.apply flag "") rest
      | some what =>
        match rest with
        | [] => .error (.missingValue arg what)
        | value :: rest =>
          if isValue value then do parseFrom (← options.apply flag value) rest
          else .error (.missingValue arg what)

/-- Reads the arguments of a command line. -/
def parse (args : List String) : Except ArgumentError Arguments := parseFrom .none args

/-- What the arguments put over the configuration. -/
def overrides (options : Arguments) : Overrides :=
  ⟨options.configPath, options.host, options.port, some options.headers⟩

end Arguments

end Gateway
