import Gateway.Json

/- Failures that travel from the place where they happen to a place that reports
   them. -/
namespace Gateway

/-- An error of the system, as reading a file throws it. -/
structure SystemError where
  message : String
  code : Option String
deriving Repr, DecidableEq

/-- The error of reading a file that is not there. -/
def SystemError.noSuchFile (path : String) : SystemError :=
  ⟨s!"ENOENT: no such file or directory, open '{path}'", some "ENOENT"⟩

inductive Thrown
  /-- An error with a message and, from the system, a code. -/
  | failure (message : String) (code : Option Json)
  /-- A value that is no error. -/
  | value (v : Json)
  | invalidUrl
  /-- A header that has to be a text is a number, which cannot do this. -/
  | numericHeader (operation : String)
  /-- The scheme has no transport. -/
  | unsupportedProtocol (protocol expected : String)
  /-- The request to a host failed for the reason given. -/
  | backendFailed (host : String) (cause : Thrown)
  /-- A value that was to be shown has no text. -/
  | noText
deriving Repr

namespace Thrown

/-- The code of an error from the system. -/
def systemCode? : Thrown → Option String
  | .failure _ (some (.text code)) => some code
  | _ => none

/-- The text that a report shows, unless it is a value that has none. -/
def message? : Thrown → Option String
  | .failure message _ => some message
  | .value v => v.plainText?
  | .invalidUrl => some "Invalid URL"
  | .numericHeader operation => some ("headerValue(...)." ++ operation ++ " is not a function")
  | .unsupportedProtocol protocol expected =>
    some ("Protocol \"" ++ protocol ++ "\" not supported. Expected \"" ++ expected ++ "\"")
  | .backendFailed host cause =>
    if cause.systemCode? = some "ECONNREFUSED" then
      some (host ++ " refused the connection; is the backend running?")
    else cause.message?.map fun reason => "request to " ++ host ++ " failed: " ++ reason
  | .noText => some "Cannot convert object to primitive value"

/-- The failure behind a failure. -/
def cause? : Thrown → Option Thrown
  | .backendFailed _ cause => some cause
  | _ => none

end Thrown

end Gateway
