import Gateway.Proofs.Dispatch
import Gateway.Proofs.Text.Letters
import Gateway.Proofs.Text.Pieces

/- Requests for a switch to the websocket protocol, which the proxy stage should leave alone.
   The header `upgrade` is a list of protocols: its values are joined, and items are apart by
   commas. What the stage compares is the whole of the joined values, so it knows the request
   by the protocol only if that is the only item (`wantsWebsocket_iff`). With another protocol
   beside it the request is passed on as any other (`websocket_bypasses_iff`). -/
namespace Gateway

namespace Headers

/-- The values of a header. -/
def linesOf (headers : Headers) (name : String) : List String :=
  ((Fields.get? headers name).map HeaderValue.lines).getD []

/-- What the values of a header list. -/
def items (headers : Headers) (name : String) : List (List Char) :=
  (headers.linesOf name).flatMap fun line => line.toList.splitOn ','

end Headers

/-- The item names the protocol in some letter case, perhaps with blanks around it. -/
def NamesWebsocket (item : List Char) : Prop :=
  ∃ front name back, item = front ++ name ++ back ∧ name.map Char.toLower = "websocket".toList ∧
    (∀ c ∈ front, Text.isBlank c = true) ∧ ∀ c ∈ back, Text.isBlank c = true

namespace Headers

/-- The header `upgrade` lists the protocol. -/
def ListsWebsocket (headers : Headers) : Prop := ∃ item ∈ headers.items "upgrade", NamesWebsocket item

/-- The header `connection` holds the word in some letter case. -/
def AsksForUpgrade (headers : Headers) : Prop :=
  ∃ line ∈ headers.linesOf "connection", ∃ word, word <:+: line.toList ∧
    word.map Char.toLower = "upgrade".toList

/-! ## What the stage compares -/

/-- The text of a header without numbers is that of its values, joined. -/
theorem textFor_eq_intercalate {headers : Headers} (h : headers.Textual)
    (operation name : String) :
    headers.textFor operation name = .ok (String.intercalate "," (headers.linesOf name)) := by
  unfold textFor linesOf Fields.get?
  cases hvalue : headers.lookup name with
  | none => rfl
  | some value =>
    cases value with
    | text text => simp [HeaderValue.joined, HeaderValue.lines]
    | number n => exact absurd rfl (h _ (Fields.mem_of_lookup hvalue) n)
    | list values => rfl
    | absent => rfl

/-- The items of a header are those of its values joined, if it has a value. -/
theorem items_eq_splitOn {headers : Headers} {name : String} (h : headers.linesOf name ≠ []) :
    headers.items name = (String.intercalate "," (headers.linesOf name)).toList.splitOn ',' := by
  have hne : (headers.linesOf name).map String.toList ≠ [] := by simpa using h
  rw [String.toList_intercalate]
  exact (List.flatMap_map ..).symm.trans (Text.splitOn_intercalate hne).symm

/-- A word in a value is found in the joined values, whatever its case. -/
theorem contains_of_asksForUpgrade {headers : Headers} (h : headers.AsksForUpgrade) :
    Text.contains "upgrade".toList
      (lowercase (String.intercalate "," (headers.linesOf "connection"))).toList = true := by
  obtain ⟨line, hline, word, hword, hletters⟩ := h
  have hascii : Text.IsAscii word := Text.isAscii_of_map_toLower hletters (by decide)
  have hjoined : word <:+: (String.intercalate "," (headers.linesOf "connection")).toList := by
    rw [String.toList_intercalate]
    exact hword.trans (Text.infix_intercalate (List.mem_map_of_mem hline))
  rw [← hletters, lowercase, String.toList_ofList]
  exact Text.contains_of_infix (Text.infix_lowercaseFrom hascii hjoined [])

end Headers

/-- Trimmed and in lowercase, an item that names the protocol is its name. -/
theorem NamesWebsocket.lowercase_trimmed {item : String} (h : NamesWebsocket item.toList) :
    lowercase (trimmed item) = "websocket" := by
  obtain ⟨front, name, back, hitem, hname, hfront, hback⟩ := h
  have hascii : Text.IsAscii name := Text.isAscii_of_map_toLower hname (by decide)
  have hblank : ∀ c ∈ name, Text.isBlank c = false := by
    intro c hc
    have hletter : c.toLower ∈ "websocket".toList := hname ▸ List.mem_map_of_mem hc
    have hnone : ∀ d ∈ "websocket".toList, (!Text.isBlank d) = true :=
      List.all_eq_true.mp (by decide)
    cases hblank : Text.isBlank c with
    | false => rfl
    | true =>
      have hlower := hnone _ hletter
      rw [Text.isBlank_toLower hblank] at hlower
      cases hlower
  have hne : name ≠ [] := by
    rintro rfl
    cases hname
  rw [trimmed, hitem, Text.trim_framed hfront hblank hne hback, lowercase, String.toList_ofList,
    Text.lowercaseFrom_ascii hascii, hname, String.ofList_toList]

/-- A text with a comma is not the name of the protocol. -/
theorem lowercase_trimmed_ne {text : String} (h : ',' ∈ text.toList) :
    lowercase (trimmed text) ≠ "websocket" := by
  intro hname
  have hcomma : [','] <:+: (trimmed text).toList := by
    rw [trimmed, String.toList_ofList]
    obtain ⟨front, back, hsplit⟩ := List.append_of_mem (Text.mem_trim (by decide) h)
    exact ⟨front, back, by simp [hsplit]⟩
  have hascii : Text.IsAscii [','] := by decide
  have hinfix := Text.infix_lowercaseFrom hascii hcomma []
  rw [lowercase] at hname
  have hmem : ',' ∈ "websocket".toList := by
    rw [← hname, String.toList_ofList]
    exact hinfix.subset (by decide)
  exact absurd hmem (by decide)

/-- A request that lists the protocol asks for it, as the stage has it, exactly if it lists
    nothing else. -/
theorem Headers.wantsWebsocket_iff {headers : Headers} (htext : headers.Textual)
    (hconnection : headers.AsksForUpgrade) (hlists : headers.ListsWebsocket) :
    headers.wantsWebsocket = .ok true ↔ (headers.items "upgrade").length = 1 := by
  have hwants : headers.wantsWebsocket = .ok
      (decide (lowercase (trimmed (String.intercalate "," (headers.linesOf "upgrade"))) =
        "websocket")) := by
    rw [wantsWebsocket, textFor_eq_intercalate htext, textFor_eq_intercalate htext]
    show Except.ok (isWebsocket _ _) = _
    rw [isWebsocket, contains_of_asksForUpgrade hconnection, Bool.and_true]
  obtain ⟨item, hitem, hnames⟩ := hlists
  have hlines : headers.linesOf "upgrade" ≠ [] := by
    intro hnone
    simp [items, hnone] at hitem
  rw [items_eq_splitOn hlines] at hitem ⊢
  rw [hwants, Text.length_splitOn_eq_one_iff]
  generalize String.intercalate "," (headers.linesOf "upgrade") = joined at hitem
  constructor
  · intro htrue hcomma
    simp [lowercase_trimmed_ne hcomma] at htrue
  · intro hcomma
    -- there is one item only, and that is the whole text
    rw [List.splitOn_eq_singleton hcomma, List.mem_singleton] at hitem
    subst hitem
    simp [hnames.lowercase_trimmed]

namespace Middleware
open Scripted

/-- Whatever the forwarder and the next handler are, the stage logs at most, and the rest is up to
    the next handler. -/
def Bypasses (rules : RuleSet) (request : Request) : Prop :=
  ∀ forward next x, ∃ entries : List LogEntry,
    proxy rules forward next request x = next request (x.append (entries.map .logged))

/-- A request bypasses the stage exactly if it is not passed on. -/
theorem bypasses_iff {rules : RuleSet} {request : Request} (htext : request.headers.Textual) :
    Bypasses rules request ↔ ∀ rule base url, ¬ PassesOn rules request rule base url := by
  constructor
  · intro h rule base url hon
    -- a forwarder that answers and a handler that fails tell who had the request
    obtain ⟨entries, hrun⟩ := h (forwarder (.each (.respond ⟨200, [], .none⟩)))
      (handler (.fail .noText)) (.begin .empty)
    rw [proxy_answered _ _ _ hon rfl, handler_run] at hrun
    cases (Prod.mk.inj hrun).1
  · intro hnone forward next x
    rcases proxy_of_not_passesOn hnone forward next x with hrun | ⟨e, hwants, _⟩
    · exact hrun
    · obtain ⟨wants, hw⟩ := Headers.wantsWebsocket_of_textual htext
      rw [hw] at hwants
      cases hwants

/-- A request for the websocket protocol bypasses the stage exactly if it lists no other protocol,
    or if no rule could pass it on. -/
theorem websocket_bypasses_iff (rules : RuleSet) (request : Request)
    (htext : request.headers.Textual) (hconnection : request.headers.AsksForUpgrade)
    (hlists : request.headers.ListsWebsocket) :
    Bypasses rules request ↔
      (request.headers.items "upgrade").length = 1 ∨
        ∀ rule, rules.resolve request.canonicalPath = some rule →
          outbound? rule request.canonicalPath request = none := by
  have hwants := Headers.wantsWebsocket_iff htext hconnection hlists
  rw [bypasses_iff htext, ← hwants]
  constructor
  · intro hnone
    by_cases hsole : request.headers.wantsWebsocket = .ok true
    · exact .inl hsole
    · refine .inr fun rule hrule => ?_
      have hplain : request.headers.wantsWebsocket = .ok false := by
        obtain ⟨wants, hw⟩ := Headers.wantsWebsocket_of_textual htext
        cases wants with
        | false => exact hw
        | true => exact absurd hw hsole
      cases hurl : outbound? rule request.canonicalPath request with
      | none => rfl
      | some pair => exact absurd ⟨hrule, hplain, hurl⟩ (hnone rule pair.1 pair.2)
  · rintro (hsole | hunusable) rule base url hon
    · rw [hon.plain] at hsole
      cases hsole
    · have hurl := hon.outbound
      rw [hunusable rule hon.chosen] at hurl
      cases hurl

/-- A request to switch to one of these protocols. -/
def switchRequest (upgrade : HeaderValue) : Request :=
  { apiRequest with headers := [("connection", .list ["keep-alive", "Upgrade"]), ("upgrade", upgrade)] }

theorem switchRequest_textual {upgrade : HeaderValue} (h : ∀ n, upgrade ≠ .number n) :
    (switchRequest upgrade).headers.Textual := by
  intro field hfield n
  simp only [switchRequest, List.mem_cons, List.not_mem_nil, or_false] at hfield
  rcases hfield with rfl | rfl
  · simp
  · exact h n

theorem switchRequest_asksForUpgrade (upgrade : HeaderValue) :
    (switchRequest upgrade).headers.AsksForUpgrade :=
  ⟨"Upgrade", List.mem_cons_of_mem _ List.mem_cons_self, _, List.infix_refl _, rfl⟩

/-- The protocol by itself, in any case and with blanks around it, is left to the next handler. -/
theorem sole_websocket_bypasses :
    (switchRequest (.list [" WebSocket\t"])).headers.ListsWebsocket ∧
      Bypasses [apiRule] (switchRequest (.list [" WebSocket\t"])) := by
  have hlists : (switchRequest (.list [" WebSocket\t"])).headers.ListsWebsocket :=
    ⟨_, List.mem_cons_self, [' '], "WebSocket".toList, ['\t'], rfl, rfl,
      List.all_eq_true.mp rfl, List.all_eq_true.mp rfl⟩
  have htext : (switchRequest (.list [" WebSocket\t"])).headers.Textual :=
    switchRequest_textual (by simp)
  exact ⟨hlists, (websocket_bypasses_iff [apiRule] _ htext (switchRequest_asksForUpgrade _)
    hlists).mpr (.inl rfl)⟩

/-- With another protocol beside it the request is passed on. -/
theorem websocket_beside_another_passed_on :
    ¬ ∀ rules request, Headers.Textual request.headers → request.headers.AsksForUpgrade →
      request.headers.ListsWebsocket → Bypasses rules request := by
  intro h
  have hlists : (switchRequest (.text "h2c, websocket")).headers.ListsWebsocket :=
    ⟨" websocket".toList, .tail _ (.head _), [' '], "websocket".toList, [], rfl, rfl,
      List.all_eq_true.mp rfl, List.all_eq_true.mp rfl⟩
  have hbypasses := h [apiRule] (switchRequest (.text "h2c, websocket"))
    (switchRequest_textual (by simp)) (switchRequest_asksForUpgrade _) hlists
  have hon : PassesOn [apiRule] (switchRequest (.text "h2c, websocket")) apiRule apiBase
      { apiBase with path := .segments ["api", "items"] } := by
    refine ⟨?_, ?_, ?_⟩ <;> rfl
  exact (bypasses_iff (switchRequest_textual (by simp))).mp hbypasses _ _ _ hon

end Middleware

end Gateway
