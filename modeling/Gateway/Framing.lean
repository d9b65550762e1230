import Gateway.Exchange

/- Where the body of a request ends. The method and the headers that a request is sent
   with decide how its body is marked off on the connection, and so what a backend takes
   for the whole of it. -/
namespace Gateway

/-- How a backend finds the end of a body. -/
inductive Framing
  /-- After this many bytes. -/
  | sized (bytes : Nat)
  /-- The end is marked. -/
  | chunked
  /-- It does not: such a request is refused. -/
  | unreadable
deriving Repr, DecidableEq

/-- The bytes of a text on a connection. -/
def Text.bytes (s : String) : List UInt8 := s.toList.flatMap String.utf8EncodeChar

/-- The value that a header is sent with. Letter case does not matter for its name, and of
    several spellings the last one counts. -/
def Headers.sent? (headers : Headers) (name : String) : Option HeaderValue :=
  (headers.reverse.find? fun header => lowercase header.1 = name).map (·.2)

/-- The lines that are sent for a header. -/
def Headers.sentLines (headers : Headers) (name : String) : List String :=
  ((headers.sent? name).map HeaderValue.lines).getD []

namespace Framing

/-- Methods whose requests are sent without a body, unless a header says otherwise. -/
def bareMethods : List String := ["GET", "HEAD", "DELETE", "OPTIONS", "TRACE", "CONNECT"]

/-- Whether a method is one of them. Where none is given it is `GET`. -/
def isBare (method : String) : Bool :=
  method = "" || bareMethods.contains (String.ofList (method.toList.map Char.toUpper))

/-- The number of bytes that a length line announces. -/
def length? (line : String) : Option Nat :=
  let digits := Text.trim line.toList
  if !digits.isEmpty && digits.all Char.isDigit then some (Json.digitsValue digits) else none

/-- Whether the last coding of the body marks its end. -/
def endsChunked (codings : String) : Bool :=
  ((Text.pieces [','] codings.toList).getLast?.map fun coding =>
    lowercase (String.ofList (Text.trim coding))) = some "chunked"

/-- The framing by the lines that give a length. A body without a length is sent in chunks,
    except for the methods that have none: nothing marks off what is sent with those. -/
def ofLengths (method : String) : List String → Framing
  | [] => if isBare method then .sized 0 else .chunked
  | [line] => ((length? line).map .sized).getD .unreadable
  | _ => .unreadable

/-- The framing of a request with this method and these headers. -/
def ofRequest (method : String) (headers : Headers) : Framing :=
  let lengths := headers.sentLines "content-length"
  match headers.sentLines "transfer-encoding" with
  | [] => ofLengths method lengths
  | [codings] => if lengths.isEmpty && endsChunked codings then .chunked else .unreadable
  | _ => .unreadable

/-- The body that a backend has read once these bytes have come, if that is complete for it;
    `ended` says whether the end has been marked. What comes behind a body of known size is
    not read as part of it. -/
def read (framing : Framing) (bytes : List UInt8) (ended : Bool) : Option (List UInt8) :=
  match framing with
  | .sized n => if n ≤ bytes.length then some (bytes.take n) else none
  | .chunked => if ended then some bytes else none
  | .unreadable => none

end Framing

namespace Dispatch

def framing (d : Dispatch) : Framing := .ofRequest d.method d.headers

/-- Whether the request is announced before any of its body is there. -/
def isAnnounced (d : Dispatch) : Bool := (d.headers.sent? "expect").any HeaderValue.isGiven

end Dispatch

end Gateway
