import Gateway.Log

/- What is printed on a terminal. How the terminal shows a style is left open. -/
namespace Gateway

inductive Channel
  | out
  | err
deriving Repr, DecidableEq

/-- One print: the channel and the text with its final line end. -/
structure Printed where
  channel : Channel
  text : String
deriving Repr, DecidableEq

/-- How a text stands out. -/
inductive Style
  | bold
  | red
  | green
  | yellow
  | blue
  | cyan
  | gray
deriving Repr, DecidableEq

/-- Puts a text in styles, the outermost first. -/
abbrev Painter := List Style → String → String

namespace Printed

/-- A line on a channel. -/
def line (channel : Channel) (text : String) : Printed := ⟨channel, text ++ "\n"⟩

/-- A log entry: information plain, warnings yellow and errors red. -/
def ofLog (paint : Painter) (entry : LogEntry) : Printed :=
  match entry.level with
  | .info => line .out entry.message
  | .warn => line .err (paint [.yellow] entry.message)
  | .error => line .err (paint [.red] entry.message)

end Printed

/-- Where log entries go. -/
inductive Logger
  | console (paint : Painter)
  | silent

/-- What a logger prints for a list of entries. -/
def Logger.print : Logger → Log → List Printed
  | .console paint, log => log.map (Printed.ofLog paint)
  | .silent, _ => []

end Gateway
