import Gateway.Arguments
import Gateway.Console
import Gateway.Server

/- A run of the program from its arguments to its end, as the list of what it does. -/
namespace Gateway.CommandLine

/-- What the program does, seen from outside. -/
inductive Action
  | printed (print : Printed)
  /-- A file was read, or tried to be. -/
  | read (path : String)
  /-- A server was made. -/
  | created
  /-- The server was told to listen. -/
  | listened (host : String) (port : Number)
  /-- A signal came; what follows is the state after it. -/
  | signalled (name : String) (closes : Nat) (timers : List Nat) (exit : Option Nat)
deriving Repr, DecidableEq

/-- What the program finds when it starts. -/
structure Setting where
  args : List String
  cwd : String
  environment : Environment
  /-- The contents of a file. -/
  read : String → Except SystemError String
  /-- The text of the package manifest, or the message of the error of reading it. -/
  manifest : Except String String
  /-- How the terminal paints a text. -/
  paint : Painter

/-- Where a server listens. -/
inductive Address
  | port (n : Number)
  /-- A path or nothing at all. -/
  | other
deriving Repr, DecidableEq

/-- What comes of listening. -/
structure Listening where
  /-- The error that the server reports instead of being ready. -/
  failure : Option Thrown
  address : Address
  /-- Whether the open connections end once the server is closed. -/
  drains : Bool
deriving Repr

/-- The state of a run. -/
structure Session where
  actions : List Action
  /-- The codes of the calls that end the program, in order. -/
  exits : List Nat
  /-- Whether signals reach the program. -/
  handlesSignals : Bool
  closes : Nat
  /-- The delays of the timers that will end the program. -/
  timers : List Nat
deriving Repr, DecidableEq

namespace Session

def start : Session := ⟨[], [], false, 0, []⟩

/-- The code that the program ends with: only the first call counts. -/
def exit (s : Session) : Option Nat := s.exits.head?

def act (s : Session) (action : Action) : Session := { s with actions := s.actions ++ [action] }

def print (s : Session) (prints : List Printed) : Session :=
  { s with actions := s.actions ++ prints.map .printed }

/-- Calls for the end of the program. -/
def quit (s : Session) (code : Nat) : Session := { s with exits := s.exits ++ [code] }

end Session

/-- Milliseconds that open connections have after a signal. -/
def graceTime : Nat := 2000

/-- The manifest that the program comes with. -/
def ownManifest : String := "\x7b\"version\": \"0.1.0\"\x7d"

/-- The version in a manifest. -/
def versionOf (manifest : String) : Option String :=
  match Json.parse? manifest with
  | some (.object members) =>
    match Json.member? members "version" with
    | some (.text version) => some version
    | _ => some "0.0.0"
  | some _ => some "0.0.0"
  | none => none

/-- The URL of a server, without the default port. -/
def serverUrl (host : String) (port : Number) : String :=
  if port = 80 then "http://" ++ host else "http://" ++ host ++ ":" ++ port.toText

/-- The help text. -/
def helpText (paint : Painter) : String :=
  let bold := paint [.bold]
  let cyan := paint [.cyan]
  "\n" ++ bold "devroute" ++ " - Development server that forwards matching requests to backends.\n\n" ++
  bold "Usage:" ++ "\n" ++
  "  " ++ cyan "devroute" ++ "                         Start with ./devroute.json\n" ++
  "  " ++ cyan "devroute -c dev/devroute.json" ++ "    Start with another config file\n" ++
  "  " ++ cyan "devroute -p 3000" ++ "                 Override the port\n\n" ++
  bold "Config file (devroute.json):" ++ "\n" ++
  "  \x7b\n" ++
  "    \"server\": \x7b\n" ++
  "      \"port\": 8080,\n" ++
  "      \"headers\": \x7b \"X-Frame-Options\": \"DENY\" \x7d,\n" ++
  "      \"proxy\": \x7b\n" ++
  "        \"/api/\": \x7b \"target\": \"http://localhost:5000\", \"rewrite\": true \x7d,\n" ++
  "        \"^/users/(\\\\d+)/\": \x7b\n" ++
  "          \"target\": \"http://localhost:5001\",\n" ++
  "          \"rewrite\": \"^/users/(\\\\d+)/->/u/$1/\"\n" ++
  "        \x7d\n" ++
  "      \x7d\n" ++
  "    \x7d\n" ++
  "  \x7d\n\n" ++
  bold "Proxy rules:" ++ "\n" ++
  "  Keys must end with '/'. A key starting with '^' is a regular expression,\n" ++
  "  anything else is a path prefix. The first matching rule wins.\n" ++
  "  rewrite: true strips the key from the path; \"regex -> replacement\"\n" ++
  "  rewrites every match, with $0, $1, ... standing for the capture groups.\n" ++
  "  WebSocket upgrades are never proxied.\n\n" ++
  bold "Options:" ++ "\n" ++
  "  -c, --config <path>           Config file (default: ./devroute.json)\n" ++
  "  -H, --host <host>             Host to bind (default: localhost)\n" ++
  "  -p, --port <number>           Port to listen on (default: 8080)\n" ++
  "  --header <Name=value>         Add a response header (repeatable)\n" ++
  "  -h, --help                    Show this help\n" ++
  "  -v, --version                 Show the version\n\n" ++
  bold "Environment variables:" ++ "\n" ++
  "  DEVROUTE_CONFIG=<path>        Config file path\n" ++
  "  DEVROUTE_HOST=<host>          Host to bind\n" ++
  "  DEVROUTE_PORT=<number>        Port to listen on\n"

/-- Prints one error report and ends. -/
def stopWith (s : Session) (paint : Painter) (label message : String) : Session :=
  (s.print [.line .err (paint [.red] label ++ " " ++ message)]).quit 1

/-- What is printed about an error of the server. -/
def listenReport (paint : Painter) (config : Config) (e : Thrown) : List Printed :=
  let line (style : Style) (text : String) := Printed.line .err (paint [style] text)
  if e.systemCode? = some "EADDRINUSE" then
    [line .red ("Port " ++ config.port.toText ++ " is already in use."),
      line .blue "Pick another port:",
      line .cyan ("  devroute -p " ++ (Number.ofNat (config.port.toNat?.getD 0 + 1)).toText)]
  else if e.systemCode? = some "EACCES" then
    [line .red ("Permission denied for port " ++ config.port.toText ++ "."),
      line .blue "Use a non-privileged port:",
      line .cyan ("  devroute -p " ++ Config.defaultPort.toText)]
  else [line .red ("Server error: " ++ e.message?.getD "")]

/-- What comes of listening: an error, or the address. -/
def afterListen (s : Session) (paint : Painter) (config : Config) (l : Listening) : Session :=
  match l.failure with
  | some e => (s.print (listenReport paint config e)).quit 1
  | none =>
    let port := match l.address with
      | .port n => n
      | .other => config.port
    s.print [.line .out (paint [.green] ("\nServing on " ++ serverUrl config.host port))]

/-- Starts the server with a configuration. -/
def serve (s : Session) (paint : Painter) (config : Config) (l : Listening) : Session :=
  let s := s.print [
    .line .out (paint [.blue, .bold] "\ndevroute\n"),
    .line .out (paint [.gray] config.describe)]
  let (server, log) := Server.create config.headers config.proxy
  let s := s.print ((Logger.console paint).print log)
  match server with
  | .error e => stopWith s paint "Error:" e.message
  | .ok _ =>
    let s := { (s.act .created).act (.listened config.host config.port) with handlesSignals := true }
    afterListen s paint config l

/-- The file that the arguments make a run read, if it comes to that. -/
def fileOf? (args : List String) (cwd : String) (environment : Environment) : Option String :=
  match Arguments.parse args with
  | .ok options =>
    if options.help || options.version then none
    else some (Config.pathOf options.overrides cwd environment)
  | .error _ => none

/-- Loads the configuration and starts the server. -/
def begin (setting : Setting) (options : Arguments) (l : Listening) : Session :=
  let path := Config.pathOf options.overrides setting.cwd setting.environment
  let loaded := Config.load options.overrides setting.cwd setting.environment setting.read
  let s := (Session.start.act (.read path)).print ((Logger.console setting.paint).print loaded.log)
  match loaded.result with
  | .error e => stopWith s setting.paint "Config error:" e.message
  | .ok config => serve s setting.paint config l

/-- A run up to the signals. -/
def launch (setting : Setting) (l : Listening) : Session :=
  match Arguments.parse setting.args with
  | .error e => stopWith .start setting.paint "Error:" e.message
  | .ok options =>
    if options.help then Session.start.print [.line .out (helpText setting.paint)]
    else if options.version then
      match setting.manifest with
      | .error reason => stopWith .start setting.paint "Error:" reason
      | .ok text =>
        match versionOf text with
        | some version => Session.start.print [.line .out version]
        | none => stopWith .start setting.paint "Error:" invalidJsonMessage
    else begin setting options l

/-- The signals that end the program. -/
def endingSignals : List String := ["SIGINT", "SIGTERM"]

/-- Closes the server, once, and limits the time that this may take. -/
def shutDown (s : Session) (drains : Bool) : Session :=
  if s.closes = 0 then
    let s := { s with closes := 1, timers := s.timers ++ [graceTime] }
    if drains then s.quit 0 else s
  else s

/-- Delivers a signal. -/
def signal (drains : Bool) (s : Session) (name : String) : Session :=
  let s := if s.handlesSignals && endingSignals.contains name then shutDown s drains else s
  s.act (.signalled name s.closes s.timers s.exit)

/-- Lets the timers end a program that has not ended. -/
def expire (s : Session) : Session :=
  if s.timers.isEmpty || s.exit.isSome then s else s.quit 0

/-- A whole run, with the signals that come after the start. -/
def run (setting : Setting) (l : Listening) (signals : List String) : Session :=
  expire (signals.foldl (signal l.drains) (launch setting l))

end Gateway.CommandLine
