import Gateway.CommandLine
import Gateway.Terminal

/- The program at a terminal. It has no transport of its own, so a run ends where the
   server would listen. -/
namespace Gateway.CommandLine

/-- What comes of listening without a transport. -/
def withoutTransport : Listening where
  failure := some (.failure "no network transport is available" none)
  address := .other
  drains := true

/-- The contents of a file. -/
def contentsOf (path : String) : IO (Except SystemError String) := do
  try
    return .ok (← IO.FS.readFile path)
  catch
    | .noFileOrDirectory _ _ _ => return .error (.noSuchFile path)
    | e => return .error ⟨e.toString, none⟩

/-- The contents of the one file that a run reads. -/
def readerFor (path : Option String) : IO (String → Except SystemError String) := do
  let contents ← path.mapM contentsOf
  return fun asked =>
    match path, contents with
    | some path, some contents => if asked = path then contents else .error (.noSuchFile asked)
    | _, _ => .error (.noSuchFile asked)

/-- What the program finds when it starts. -/
def settingOf (args : List String) : IO Setting := do
  let cwd := (← IO.currentDir).toString
  let environment : Environment :=
    ⟨← IO.getEnv "DEVROUTE_CONFIG", ← IO.getEnv "DEVROUTE_HOST", ← IO.getEnv "DEVROUTE_PORT"⟩
  let read ← readerFor (fileOf? args cwd environment)
  let colour := (← IO.getEnv "NO_COLOR").isNone && (← (← IO.getStdout).isTty)
  return ⟨args, cwd, environment, read, .ok ownManifest, Terminal.painter colour⟩

/-- Shows an action at the terminal. -/
def perform : Action → IO Unit
  | .printed ⟨.out, text⟩ => IO.print text
  | .printed ⟨.err, text⟩ => IO.eprint text
  | _ => pure ()

end Gateway.CommandLine

open Gateway.CommandLine in
/-- Runs the program and returns its exit code. -/
def main (args : List String) : IO UInt32 := do
  let session := run (← settingOf args) withoutTransport []
  session.actions.forM perform
  return UInt32.ofNat (session.exit.getD 0)
