import Gateway.Exchange

/- Answers to requests for another protocol. Such a request comes with a bare socket,
   so the head of the answer is written by hand. -/
namespace Gateway

namespace Status

/-- The reason phrases of the known status codes. -/
def phrases : List (Nat × String) := [
  (100, "Continue"), (101, "Switching Protocols"), (102, "Processing"), (103, "Early Hints"),
  (200, "OK"), (201, "Created"), (202, "Accepted"), (203, "Non-Authoritative Information"),
  (204, "No Content"), (205, "Reset Content"), (206, "Partial Content"), (207, "Multi-Status"),
  (208, "Already Reported"), (226, "IM Used"), (300, "Multiple Choices"),
  (301, "Moved Permanently"), (302, "Found"), (303, "See Other"), (304, "Not Modified"),
  (305, "Use Proxy"), (307, "Temporary Redirect"), (308, "Permanent Redirect"),
  (400, "Bad Request"), (401, "Unauthorized"), (402, "Payment Required"), (403, "Forbidden"),
  (404, "Not Found"), (405, "Method Not Allowed"), (406, "Not Acceptable"),
  (407, "Proxy Authentication Required"), (408, "Request Timeout"), (409, "Conflict"),
  (410, "Gone"), (411, "Length Required"), (412, "Precondition Failed"),
  (413, "Payload Too Large"), (414, "URI Too Long"), (415, "Unsupported Media Type"),
  (416, "Range Not Satisfiable"), (417, "Expectation Failed"), (418, "I'm a Teapot"),
  (421, "Misdirected Request"), (422, "Unprocessable Entity"), (423, "Locked"),
  (424, "Failed Dependency"), (425, "Too Early"), (426, "Upgrade Required"),
  (428, "Precondition Required"), (429, "Too Many Requests"),
  (431, "Request Header Fields Too Large"), (451, "Unavailable For Legal Reasons"),
  (500, "Internal Server Error"), (501, "Not Implemented"), (502, "Bad Gateway"),
  (503, "Service Unavailable"), (504, "Gateway Timeout"), (505, "HTTP Version Not Supported"),
  (506, "Variant Also Negotiates"), (507, "Insufficient Storage"), (508, "Loop Detected"),
  (509, "Bandwidth Limit Exceeded"), (510, "Not Extended"),
  (511, "Network Authentication Required")]

/-- The reason phrase of a status; empty for an unknown one. -/
def phrase (status : Number) : String := (status.toNat?.bind fun n => phrases.lookup n).getD ""

end Status

/-- A socket, with what has been written to it. -/
structure Socket where
  written : String
  /-- Whether the writing side has been ended in good order. -/
  ended : Bool
  destroyed : Bool
deriving Repr, DecidableEq

namespace Socket

def fresh : Socket := ⟨"", false, false⟩

/-- The socket reports an error, or is given up. -/
def destroy (s : Socket) : Socket := { s with destroyed := true }

def lineEnd : String := "\r\n"

/-- The lines of one header. The connection is closed in any case, so what the response
    says about it is left out. -/
def headerLines (name : String) (value : HeaderValue) : List String :=
  if lowercase name = "connection" then [] else value.lines.map fun line => name ++ ": " ++ line

def statusLine (status : Number) : String := "HTTP/1.1 " ++ status.toText ++ " " ++ Status.phrase status

/-- The lines of a head. -/
def headLines (r : Response) : List String :=
  statusLine r.status :: r.headers.flatMap (fun (name, value) => headerLines name value) ++
    ["Connection: close"]

/-- The head of a response, up to the empty line. -/
def head (r : Response) : String :=
  String.join ((headLines r).map (· ++ lineEnd)) ++ lineEnd

def write (s : Socket) (text : String) : Socket := { s with written := s.written ++ text }

/-- Writes a response, and closes the socket when that is done. -/
def respond (s : Socket) (r : Response) : Socket :=
  let s := s.write (head r)
  match r.body with
  | .none => { s with ended := true }
  | .text text => { s.write text with ended := true }
  | .bytes text => { s.write text with ended := true }
  | .stream body =>
    match body.ending with
    | .complete => { s.write body.text with ended := true }
    | .failed _ => (s.write body.text).destroy
    | .silent => s.write body.text

end Socket

namespace Upgrade

def failed (i : Incoming) (reason : String) : LogEntry :=
  .error ("Upgrade request failed for " ++ i.targetText ++ ": " ++ reason)

/-- The response of a handler to a request for another protocol. -/
def response (handler : Handler) (i : Incoming) : Effect Response := do
  handler (← Run.orFail .invalidUrl i.request?)

/-- The socket after the answer to such a request, and the fate of the response's
    stream. -/
structure Result where
  socket : Socket
  stream : Option Stream.Fate
  exchange : Exchange
  /-- A failure of the answering itself. -/
  unhandled : Option Thrown
deriving Repr

/-- Answers such a request; a failure of the handler is reported and closes the socket. -/
def answer (handler : Handler) (i : Incoming) (x : Exchange) : Result :=
  match response handler i x with
  | (.done r, x) => ⟨Socket.fresh.respond r, r.body.stream?.map Stream.fate, x, none⟩
  | (.failed e, x) =>
    match e.message? with
    | some reason => ⟨Socket.fresh.destroy, none, (Effect.report (failed i reason) x).2, none⟩
    | none => ⟨Socket.fresh, none, x, some .noText⟩
  | (.pending, x) => ⟨Socket.fresh, none, x, none⟩

end Upgrade

end Gateway
