import Gateway.Proofs.ConfiguredHeaders
import Gateway.Proofs.Number
import Gateway.Proofs.Text.Pieces

/- What is written on the bare socket of a request for another protocol. The head is written by
   hand, so it is read back here as a client reads it: up to the first empty line, then line by
   line, and each line up to its first colon and blank (`RawAnswer.read?`). Lines that are not
   empty and hold no carriage return are found again (`cutFirst_emptyLine`,
   `Text.pieces_intercalate`), so what is read is the response (`RawAnswer.read?_respond`). The
   socket is closed in any case but one: a handler that fails with a value that has no text to
   report leaves it open (`Upgrade.isAnswered_iff`). -/
namespace Gateway

/-! ## Reading an answer -/

/-- The lines of a header, each with its name: one for each value. -/
def HeaderValue.fieldLines (name : String) : HeaderValue → List (String × String)
  | .text value => [(name, value)]
  | .number value => [(name, value.toText)]
  | .list values => values.map fun value => (name, value)
  | .absent => []

def Headers.fieldLines (headers : Headers) : List (String × String) :=
  headers.flatMap fun header => header.2.fieldLines header.1

theorem HeaderValue.fieldLines_eq_map (name : String) (value : HeaderValue) :
    value.fieldLines name = value.lines.map fun line => (name, line) := by
  cases value <;> rfl

/-- An answer as a client reads it off its connection. -/
structure RawAnswer where
  version : String
  status : String
  phrase : String
  fields : List (String × String)
  body : String
deriving Repr, DecidableEq

namespace RawAnswer

def lineEnd : List Char := ['\r', '\n']

/-- What ends a head: the end of its last line, and an empty line. -/
def emptyLine : List Char := ['\r', '\n', '\r', '\n']

/-- A line with a header. -/
def readField (line : List Char) : Option (String × String) :=
  (Text.cutFirst [':', ' '] line).map fun cut => (String.ofList cut.1, String.ofList cut.2)

/-- Reads an answer. -/
def read? (written : String) : Option RawAnswer := do
  let (head, body) ← Text.cutFirst emptyLine written.toList
  let first :: lines := Text.pieces lineEnd head | none
  let (version, rest) ← Text.cutFirst [' '] first
  let (status, phrase) ← Text.cutFirst [' '] rest
  let fields ← lines.mapM readField
  return ⟨String.ofList version, String.ofList status, String.ofList phrase, fields,
    String.ofList body⟩

/-- The response as it is to be read. What it says about the connection is left out. -/
def ofResponse (r : Response) : RawAnswer where
  version := "HTTP/1.1"
  status := r.status.toText
  phrase := Status.phrase r.status
  fields := Headers.fieldLines (r.headers.filter fun header => lowercase header.1 ≠ "connection") ++
    [("Connection", "close")]
  body := String.join r.body.chunks

end RawAnswer

theorem Headers.fieldLines_sentHeaders (headers : Headers) :
    Headers.fieldLines (Socket.sentHeaders headers) =
      Headers.fieldLines (headers.filter fun header => lowercase header.1 ≠ "connection") ++
        [("Connection", "close")] := by
  have hkept : Headers.fieldLines (headers.filter fun header =>
      lowercase header.1 ≠ "connection" ∧ header.2.lines ≠ []) =
      Headers.fieldLines (headers.filter fun header => lowercase header.1 ≠ "connection") := by
    induction headers with
    | nil => rfl
    | cons header rest ih =>
      rw [List.filter_cons, List.filter_cons]
      by_cases hname : lowercase header.1 = "connection"
      · simpa [hname] using ih
      · by_cases hlines : header.2.lines = []
        · -- a header without a value has no lines
          have hnone : header.2.fieldLines header.1 = [] := by
            rw [HeaderValue.fieldLines_eq_map, hlines, List.map_nil]
          simpa [hname, hlines, fieldLines, hnone] using ih
        · simpa [hname, hlines, fieldLines] using ih
  rw [Socket.sentHeaders, fieldLines, List.flatMap_append]
  exact congrArg (· ++ [("Connection", "close")]) hkept

/-- The texts of a header. -/
def HeaderValue.texts : HeaderValue → List String
  | .text value => [value]
  | .list values => values
  | .number _ | .absent => []

/-- The headers can be told apart in a head: no name holds a colon, and no name and no text has
    a carriage return. A line feed on its own ends no line. -/
structure Headers.AreSendable (headers : Headers) : Prop where
  name : ∀ header ∈ headers, ':' ∉ header.1.toList ∧ '\r' ∉ header.1.toList
  value : ∀ header ∈ headers, ∀ text ∈ header.2.texts, '\r' ∉ text.toList

namespace RawAnswer

/-! ## Lines -/

theorem flatMap_append_sep {α : Type} (sep : List α) {texts : List (List α)} (h : texts ≠ []) :
    texts.flatMap (· ++ sep) = sep.intercalate texts ++ sep := by
  induction texts with
  | nil => exact absurd rfl h
  | cons text rest ih =>
    cases rest with
    | nil => simp
    | cons next more =>
      rw [List.flatMap_cons, ih (List.cons_ne_nil next more), List.intercalate_cons_cons]
      simp only [List.append_assoc]

/-- The end of a line is no empty line, if the next one begins with another character. -/
theorem cutFirst_lineEnd {s : List Char} (h : s.head? ≠ some '\r') :
    Text.cutFirst emptyLine (lineEnd ++ s) =
      (Text.cutFirst emptyLine s).map fun cut => (lineEnd ++ cut.1, cut.2) := by
  have hreturn : ¬emptyLine <+: '\r' :: '\n' :: s := by
    cases s with
    | nil => simp [emptyLine]
    | cons c rest =>
      have hc : c ≠ '\r' := fun hc => h (congrArg some hc)
      simp [emptyLine, Ne.symm hc]
  have hfeed : ¬emptyLine <+: '\n' :: s := by simp [emptyLine]
  rw [lineEnd, List.cons_append, List.cons_append, List.nil_append, Text.cutFirst_cons hreturn,
    Text.cutFirst_cons hfeed, Option.map_map]
  rfl

theorem head?_intercalate {line : List Char} (h : line ≠ [] ∧ '\r' ∉ line)
    (more : List (List Char)) (rest : List Char) :
    (lineEnd.intercalate (line :: more) ++ rest).head? ≠ some '\r' := by
  obtain ⟨c, chars, rfl⟩ := List.exists_cons_of_ne_nil h.1
  have hc : c ≠ '\r' := fun hc => h.2 (hc ▸ List.mem_cons_self)
  cases more with
  | nil => simpa using hc
  | cons next more => simpa [List.intercalate_cons_cons] using hc

/-- The first empty line is the one behind the head. -/
theorem cutFirst_emptyLine {lines : List (List Char)} (hne : lines ≠ [])
    (h : ∀ line ∈ lines, line ≠ [] ∧ '\r' ∉ line) (body : List Char) :
    Text.cutFirst emptyLine (lineEnd.intercalate lines ++ (emptyLine ++ body)) =
      some (lineEnd.intercalate lines, body) := by
  induction lines with
  | nil => exact absurd rfl hne
  | cons line rest ih =>
    obtain ⟨⟨-, hline⟩, hrest⟩ := List.forall_mem_cons.mp h
    have hbefore (s : List Char) : Text.cutFirst emptyLine (line ++ s) =
        (Text.cutFirst emptyLine s).map fun cut => (line ++ cut.1, cut.2) :=
      Text.cutFirst_append_of_not_mem hline _ s
    cases rest with
    | nil =>
      have hfound := Text.cutFirst_append_self (show emptyLine ≠ [] from List.cons_ne_nil _ _) body
      rw [List.intercalate_singleton, hbefore, hfound]
      simp
    | cons next more =>
      have hnext := head?_intercalate (hrest next List.mem_cons_self) more (emptyLine ++ body)
      rw [List.intercalate_cons_cons, List.append_assoc, List.append_assoc, hbefore,
        cutFirst_lineEnd hnext, ih (List.cons_ne_nil next more) hrest]
      simp

/-- A header is read off its line, if its name holds no colon. -/
theorem readField_line {field : String × String} (h : ':' ∉ field.1.toList) :
    readField (field.1 ++ ": " ++ field.2).toList = some field := by
  have hsep : ": ".toList = [':', ' '] := rfl
  rw [readField, String.toList_append, String.toList_append, hsep, List.append_assoc,
    Text.cutFirst_append_of_not_mem h, Text.cutFirst_append_self (List.cons_ne_nil _ _)]
  simp

theorem mapM_readField {fields : List (String × String)} (h : ∀ field ∈ fields, ':' ∉ field.1.toList) :
    (fields.map fun field => (field.1 ++ ": " ++ field.2).toList).mapM readField = some fields := by
  induction fields with
  | nil => rfl
  | cons field rest ih =>
    obtain ⟨hfield, hrest⟩ := List.forall_mem_cons.mp h
    rw [List.map_cons, List.mapM_cons, readField_line hfield, ih hrest]
    rfl

/-! ## The head -/

theorem carriageReturn_not_mem_phrase (status : Number) : '\r' ∉ (Status.phrase status).toList := by
  have hphrases : ∀ entry ∈ Status.phrases, '\r' ∉ entry.2.toList := by simp [Status.phrases]
  rw [Status.phrase]
  cases h : status.toNat?.bind fun n => Status.phrases.lookup n with
  | none => simp
  | some phrase =>
    obtain ⟨n, -, hn⟩ := Option.bind_eq_some_iff.mp h
    obtain ⟨front, back, hsplit, -⟩ := List.lookup_eq_some_iff.mp hn
    exact hphrases (n, phrase) (by rw [hsplit]; simp)

/-- The first line of a head gives the version, the status and its phrase. -/
theorem toList_statusLine (status : Number) :
    (Socket.statusLine status).toList = "HTTP/1.1".toList ++ ([' '] ++
      (status.toText.toList ++ ([' '] ++ (Status.phrase status).toList))) := by
  have hversion : "HTTP/1.1 ".toList = "HTTP/1.1".toList ++ [' '] := rfl
  have hblank : " ".toList = [' '] := rfl
  simp only [Socket.statusLine, String.toList_append, hversion, hblank, List.append_assoc]

theorem carriageReturn_not_mem_statusLine (status : Number) :
    '\r' ∉ (Socket.statusLine status).toList := by
  have hstatus : '\r' ∉ status.toText.toList := Number.not_mem_toText rfl status
  rw [toList_statusLine]
  simp [hstatus, carriageReturn_not_mem_phrase]

/-- The lines of a head. -/
def headLines (status : Number) (headers : Headers) : List (List Char) :=
  (Socket.statusLine status).toList ::
    headers.fieldLines.map fun field => (field.1 ++ ": " ++ field.2).toList

theorem toList_headText (status : Number) (headers : Headers) :
    (Socket.headText status headers).toList =
      lineEnd.intercalate (headLines status headers) ++ emptyLine := by
  have hfields : (headers.flatMap fun header => header.2.lines.map fun line =>
      header.1 ++ ": " ++ line) = headers.fieldLines.map fun field => field.1 ++ ": " ++ field.2 := by
    rw [Headers.fieldLines, List.map_flatMap]
    simp only [HeaderValue.fieldLines_eq_map, List.map_map]
    rfl
  have hlines (lines : List String) : (String.join (lines.map (· ++ Socket.lineEnd))).toList =
      (lines.map String.toList).flatMap (· ++ lineEnd) := by
    rw [String.toList_join, List.flatMap_map, List.flatMap_map]
    simp only [String.toList_append]
    rfl
  rw [Socket.headText, String.toList_append, hfields, hlines, List.map_cons, List.map_map,
    flatMap_append_sep lineEnd (List.cons_ne_nil _ _), List.append_assoc]
  rfl

end RawAnswer

theorem HeaderValue.carriageReturn_not_mem_lines {value : HeaderValue}
    (h : ∀ text ∈ value.texts, '\r' ∉ text.toList) : ∀ line ∈ value.lines, '\r' ∉ line.toList := by
  cases value with
  | text value => exact h
  | list values => exact h
  | number n =>
    intro line hline
    rw [List.mem_singleton.mp hline]
    exact Number.not_mem_toText rfl n
  | absent =>
    intro line hline
    cases hline

namespace Headers.AreSendable
variable {headers : Headers} (h : headers.AreSendable)
include h

theorem mem_fieldLines {field : String × String} (hfield : field ∈ headers.fieldLines) :
    ':' ∉ field.1.toList ∧ '\r' ∉ field.1.toList ∧ '\r' ∉ field.2.toList := by
  obtain ⟨header, hheader, hfield⟩ := List.mem_flatMap.mp hfield
  rw [HeaderValue.fieldLines_eq_map] at hfield
  obtain ⟨line, hline, rfl⟩ := List.mem_map.mp hfield
  obtain ⟨hcolon, hreturn⟩ := h.name header hheader
  exact ⟨hcolon, hreturn,
    HeaderValue.carriageReturn_not_mem_lines (h.value header hheader) line hline⟩

/-- With the notice that the connection is closed they can be told apart as well. -/
theorem sentHeaders : Headers.AreSendable (Socket.sentHeaders headers) := by
  constructor
  · intro header hheader
    rcases List.mem_append.mp hheader with hheader | hheader
    · exact h.name header (List.mem_filter.mp hheader).1
    · rw [List.mem_singleton.mp hheader]
      decide
  · intro header hheader
    rcases List.mem_append.mp hheader with hheader | hheader
    · exact h.value header (List.mem_filter.mp hheader).1
    · rw [List.mem_singleton.mp hheader]
      decide

end Headers.AreSendable

namespace RawAnswer

section
variable {headers : Headers} (h : headers.AreSendable) (status : Number)
include h

theorem mem_headLines {line : List Char} (hline : line ∈ headLines status headers) :
    line ≠ [] ∧ '\r' ∉ line := by
  rcases List.mem_cons.mp hline with rfl | hline
  · refine ⟨?_, carriageReturn_not_mem_statusLine status⟩
    rw [toList_statusLine]
    simp
  · obtain ⟨field, hfield, rfl⟩ := List.mem_map.mp hline
    obtain ⟨-, hname, hvalue⟩ := h.mem_fieldLines hfield
    simp [hname, hvalue]

/-- What is read of a head and a body is what they were made of. -/
theorem read?_headText (body : String) :
    read? (Socket.headText status headers ++ body) =
      some ⟨"HTTP/1.1", status.toText, Status.phrase status, headers.fieldLines, body⟩ := by
  have hne : headLines status headers ≠ [] := List.cons_ne_nil _ _
  have hcut : Text.cutFirst emptyLine (Socket.headText status headers ++ body).toList =
      some (lineEnd.intercalate (headLines status headers), body.toList) := by
    rw [String.toList_append, toList_headText, List.append_assoc]
    exact cutFirst_emptyLine hne (fun line hline => mem_headLines h status hline) body.toList
  have hpieces : Text.pieces lineEnd (lineEnd.intercalate (headLines status headers)) =
      headLines status headers :=
    Text.pieces_intercalate hne fun line hline => (mem_headLines h status hline).2
  have hblank {s : List Char} (hs : ' ' ∉ s) (t : List Char) :
      Text.cutFirst [' '] (s ++ ([' '] ++ t)) = some (s, t) := by
    rw [Text.cutFirst_append_of_not_mem hs, Text.cutFirst_append_self (List.cons_ne_nil _ _)]
    simp
  have hversion := hblank (show ' ' ∉ "HTTP/1.1".toList by decide)
    (status.toText.toList ++ ([' '] ++ (Status.phrase status).toList))
  have hstatus := hblank (Number.not_mem_toText rfl status) (Status.phrase status).toList
  have hfields := mapM_readField fun field hfield => (h.mem_fieldLines hfield).1
  rw [← toList_statusLine] at hversion
  simp only [read?, hcut, hpieces, Option.bind_eq_bind, Option.bind_some]
  simp only [headLines, hversion, hstatus, hfields, Option.bind_some, String.ofList_toList]
  rfl

end

/-- The answer on a socket is read as the response. -/
theorem read?_respond {r : Response} (h : r.headers.AreSendable) :
    read? (Socket.fresh.respond r).written = some (ofResponse r) := by
  rw [Socket.respond_written, Socket.head_eq_headText, read?_headText h.sentHeaders,
    Headers.fieldLines_sentHeaders]
  rfl

-- the body begins with an empty line, and the response speaks about the connection itself
example : read? (Socket.fresh.respond ⟨404, [("Vary", .list ["a: b", ""]), ("CONNECTION", .text "x"),
      ("Age", .absent)], .text "\r\n\r\nno"⟩).written =
    some ⟨"HTTP/1.1", "404", "Not Found", [("Vary", "a: b"), ("Vary", ""), ("Connection", "close")],
      "\r\n\r\nno"⟩ := by
  decide

end RawAnswer

/-! ## The end of the socket -/

namespace Socket

theorem respond_ended (r : Response) :
    (fresh.respond r).ended = decide (r.body.ending = .complete) := by
  obtain ⟨status, headers, body⟩ := r
  cases body with
  | stream s =>
    obtain ⟨chunks, ending⟩ := s
    cases ending <;> rfl
  | _ => rfl

theorem respond_destroyed (r : Response) :
    (fresh.respond r).destroyed = r.body.ending.reason?.isSome := by
  obtain ⟨status, headers, body⟩ := r
  cases body with
  | stream s =>
    obtain ⟨chunks, ending⟩ := s
    cases ending <;> rfl
  | _ => rfl

end Socket

namespace Upgrade

/-- What is on a socket, and what becomes of it, when this has come of the handler. -/
structure IsAnswered (outcome : Outcome Thrown Response) (s : Socket) : Prop where
  /-- The answer is read as the response. -/
  read : ∀ r, outcome = .done r → r.headers.AreSendable →
    RawAnswer.read? s.written = some (.ofResponse r)
  /-- Behind a complete body the socket is ended in good order. -/
  ended : ∀ r, outcome = .done r → r.body.ending = .complete →
    s.ended = true ∧ s.destroyed = false
  /-- If the body fails it is given up. -/
  broken : ∀ r reason, outcome = .done r → r.body.ending = .failed reason →
    s.ended = false ∧ s.destroyed = true
  /-- If the handler fails it is given up, and nothing has been written. -/
  refused : ∀ e, outcome = .failed e → s.written = "" ∧ s.ended = false ∧ s.destroyed = true
  /-- Once the handler and the body have come to an end it is not open any more. -/
  closed : outcome ≠ .pending → (∀ r, outcome = .done r → r.body.ending ≠ .silent) →
    s.ended = true ∨ s.destroyed = true

theorem respond_isAnswered (r : Response) : IsAnswered (.done r) (Socket.fresh.respond r) where
  read _ hr h := by
    obtain rfl := Outcome.done.inj hr
    exact RawAnswer.read?_respond h
  ended _ hr hending := by
    obtain rfl := Outcome.done.inj hr
    rw [Socket.respond_ended, Socket.respond_destroyed, hending]
    exact ⟨rfl, rfl⟩
  broken _ reason hr hending := by
    obtain rfl := Outcome.done.inj hr
    rw [Socket.respond_ended, Socket.respond_destroyed, hending]
    exact ⟨rfl, rfl⟩
  refused _ he := by cases he
  closed _ hsettled := by
    rw [Socket.respond_ended, Socket.respond_destroyed]
    cases hending : r.body.ending with
    | complete => exact .inl rfl
    | failed reason => exact .inr rfl
    | silent => exact absurd hending (hsettled r rfl)

theorem destroy_isAnswered (e : Thrown) : IsAnswered (.failed e) Socket.fresh.destroy where
  read _ hr := by cases hr
  ended _ hr := by cases hr
  broken _ _ hr := by cases hr
  refused _ _ := ⟨rfl, rfl, rfl⟩
  closed _ _ := .inr rfl

/-- A handler that comes to nothing may leave the socket open. -/
theorem fresh_isAnswered : IsAnswered .pending Socket.fresh where
  read _ hr := by cases hr
  ended _ hr := by cases hr
  broken _ _ hr := by cases hr
  refused _ he := by cases he
  closed h _ := absurd rfl h

section
variable {handler : Handler} {i : Incoming} {x y : Exchange}

theorem answer_socket_of_done {r : Response} (h : response handler i x = (.done r, y)) :
    (answer handler i x).socket = Socket.fresh.respond r := by
  rw [answer, h]

theorem answer_socket_of_pending (h : response handler i x = (.pending, y)) :
    (answer handler i x).socket = Socket.fresh := by
  rw [answer, h]

/-- To give up the socket comes behind the report of the failure. -/
theorem answer_socket_of_failed {e : Thrown} (h : response handler i x = (.failed e, y)) :
    (answer handler i x).socket =
      if e.message?.isSome then Socket.fresh.destroy else Socket.fresh := by
  rw [answer, h]
  cases hmessage : e.message? <;> simp [hmessage]

end

/-- A request for another protocol is answered by the response of the handler, and its socket is
    closed behind it, exactly if the handler does not fail with a value that has no text. -/
theorem isAnswered_iff (handler : Handler) (i : Incoming) (x : Exchange) :
    IsAnswered (response handler i x).1 (answer handler i x).socket ↔
      ∀ e, (response handler i x).1 = .failed e → e.message? ≠ none := by
  rcases hrun : response handler i x with ⟨outcome, y⟩
  cases outcome with
  | done r =>
    rw [answer_socket_of_done hrun]
    exact iff_of_true (respond_isAnswered r) (fun e he => nomatch he)
  | pending =>
    rw [answer_socket_of_pending hrun]
    exact iff_of_true fresh_isAnswered (fun e he => nomatch he)
  | failed e =>
    rw [answer_socket_of_failed hrun]
    constructor
    · intro h other he hnone
      obtain rfl := Outcome.failed.inj he
      rw [hnone] at h
      exact absurd (h.refused e rfl).2.2 (by decide)
    · intro h
      rw [if_pos (Option.isSome_iff_ne_none.mpr (h e rfl))]
      exact destroy_isAnswered e

/-- A handler that fails with an object whose member `toString` is a number leaves the socket
    open. -/
theorem unshown_failure_leaves_open :
    ¬ ∀ (handler : Handler) (i : Incoming) (x : Exchange),
      IsAnswered (response handler i x).1 (answer handler i x).socket := by
  intro h
  have hanswered := h (Scripted.handler (.fail (.value (.object [("toString", .number 1)]))))
    Deliver.usualIncoming (.begin .empty)
  exact absurd (hanswered.refused _ rfl).2.2 (by decide)

end Upgrade

end Gateway
