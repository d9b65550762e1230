import Gateway.Fields
import Gateway.Text.Blank
import Gateway.Text.Lowercase
import Gateway.Text.Pieces
import Gateway.Thrown

/- Header fields of requests and responses. -/
namespace Gateway

inductive HeaderValue
  | text (value : String)
  | number (value : Number)
  /-- The values of a header that was sent more than once. -/
  | list (values : List String)
  /-- A name without a value. -/
  | absent
deriving Repr, DecidableEq

namespace HeaderValue

/-- The value as one text; several values are joined by commas. -/
def joined : HeaderValue → String
  | .text value => value
  | .number value => value.toText
  | .list values => String.intercalate "," values
  | .absent => ""

/-- Whether there is a value other than an empty text or zero. -/
def isGiven : HeaderValue → Bool
  | .text value => value ≠ ""
  | .number value => value ≠ .zero ∧ value ≠ .nan
  | .list _ => true
  | .absent => false

/-- The lines that the header takes. -/
def lines : HeaderValue → List String
  | .text value => [value]
  | .number value => [value.toText]
  | .list values => values
  | .absent => []

end HeaderValue

abbrev Headers := Fields HeaderValue

namespace Headers

/-- The value of a header as one text; empty if it is missing. A number is no text, and
    the operation that the text is for fails. -/
def textFor (operation name : String) (headers : Headers) : Except Thrown String :=
  match Fields.get? headers name with
  | some (.number _) => .error (.numericHeader operation)
  | some value => .ok value.joined
  | none => .ok ""

/-- The value of a header, if one is given. -/
def given? (headers : Headers) (name : String) : Option String :=
  match Fields.get? headers name with
  | some value => if value.isGiven then some value.joined else none
  | none => none

/-- Whether the two headers ask for a switch of the connection to the websocket protocol. -/
def isWebsocket (upgrade connection : String) : Bool :=
  lowercase (trimmed upgrade) = "websocket" &&
    Text.contains "upgrade".toList (lowercase connection).toList

/-- Whether the headers ask for a switch of the connection to the websocket protocol. -/
def wantsWebsocket (headers : Headers) : Except Thrown Bool := do
  let upgrade ← headers.textFor "trim" "upgrade"
  let connection ← headers.textFor "toLowerCase" "connection"
  return isWebsocket upgrade connection

/-- Headers that describe one connection and are not passed on. -/
def hopByHop : List String :=
  ["connection", "keep-alive", "proxy-connection", "transfer-encoding", "upgrade", "te", "trailer"]

/-- The headers that are passed on: those with a value that are about the message. -/
def endToEnd (headers : Headers) : Headers :=
  headers.foldl
    (fun kept (name, value) =>
      if value = .absent || hopByHop.contains name then kept else Fields.assign name value kept) []

/-- Adds the extra headers whose name, in any letter case, is not there yet. They get
    lowercase names, and of two that differ in letter case the last one counts. -/
def fill (extra : Fields String) (headers : Headers) : Headers :=
  let present := (Fields.names headers).map lowercase
  extra.foldl
    (fun filled (name, value) =>
      if present.contains (lowercase name) then filled
      else Fields.assign (lowercase name) (.text value) filled) headers

end Headers

end Gateway
