import Gateway.Proofs.Dispatch
import Gateway.Proofs.Url.Query

/- The query of a request that is passed on. A path that is rewritten may bring a query of
   its own (`Url.parts_query_eq_some_iff` says what that is), and the query of the request is
   meant for paths that bring none. What decides, however, is whether the URL that has been
   resolved writes a query, which it does not if the query is empty; and the path is put into
   canonical form together with its query. So an empty query gives way to that of the
   request, and a query with two slashes in a row loses one (`carriesQuery_iff`). -/
namespace Gateway
open Url (keptQuery readPart)

/-- The query that is passed on is the one that the rewritten text brings, escaped as the
    scheme has it, and that of the request if it brings none. -/
def CarriesQuery (text : List Char) (scheme : String) (inbound given : Url) : Prop :=
  match (Url.Parts.of text).query with
  | some q =>
    given.queryText = keptQuery scheme (readPart (Url.Parts.of text).fragment.isNone q)
  | none => given.queryText = inbound.queryText

/-- The query that the text brings has no two slashes in a row, and it is not empty unless
    the request has none either; if the text brings none, that of the request has no
    apostrophe where the scheme escapes it. -/
def KeepsQuery (text : List Char) (scheme : String) (inbound : Url) : Prop :=
  match (Url.Parts.of text).query with
  | some q => RequestPath.IsCollapsed q ∧
    (readPart (Url.Parts.of text).fragment.isNone q = [] → inbound.queryText = "")
  | none => Url.isSpecialScheme scheme = true → '\'' ∉ inbound.queryText.toList

/-- A part of a text that is read as nothing has nothing to collapse. -/
theorem isCollapsed_of_readPart {isLast : Bool} {q : List Char}
    (h : readPart isLast (RequestPath.collapse q) = []) : RequestPath.IsCollapsed q := by
  apply RequestPath.isCollapsed_of_not_mem
  rw [← List.count_eq_zero, ← Url.count_readPart isLast, h]
  rfl

namespace Middleware
open Scripted

section
variable {rules : RuleSet} {request : Request} {rule : Rule} {base url : Url}

/-- The query of a request that is passed on is the one that the canonical form of the
    rewritten path brings, if that is not empty, and else that of the request. -/
theorem PassesOn.queryText (h : PassesOn rules request rule base url)
    (hparsed : Url.Parsed request.url) :
    url.queryText =
      keptQuery base.scheme
        (match (Url.Parts.of (rule.rewrite.apply request.canonicalPath).toList).query with
        | some q =>
          let own := readPart
            (Url.Parts.of (rule.rewrite.apply request.canonicalPath).toList).fragment.isNone
            (RequestPath.collapse q)
          if own = [] then request.url.queryText.toList else own
        | none => request.url.queryText.toList) := by
  obtain ⟨_, resolved, hparse, hurl⟩ := outbound?_eq_some_iff.mp h.outbound
  obtain ⟨rest, hrest, _⟩ :=
    RequestPath.canonical_eq_cons (rule.rewrite.apply request.canonicalPath).toList
  have hlist := RequestPath.toList_normalize (rule.rewrite.apply request.canonicalPath)
  obtain ⟨hscheme, hquery⟩ := Url.parse?_rooted_query (hlist.trans hrest) hparse
  rw [Url.queryPart, hlist, Url.query_canonical] at hquery
  have hcarried : url.queryText = if resolved.queryText = "" then
      keptQuery base.scheme request.url.queryText.toList else resolved.queryText := by
    rw [← hurl, ← hscheme]
    by_cases hnone : resolved.search = ""
    · rw [if_pos hnone, if_pos (Url.search_eq_empty_iff.mp hnone),
        Url.queryText_withSearch hparsed.isClear]
    · rw [if_neg hnone, if_neg fun hempty => hnone (Url.search_eq_empty_iff.mpr hempty)]
  rw [hcarried]
  cases hown : (Url.Parts.of (rule.rewrite.apply request.canonicalPath).toList).query with
  | none =>
    rw [hown] at hquery
    have hempty : resolved.queryText = "" := by
      rw [Url.queryText, hquery]
      rfl
    rw [if_pos hempty]
  | some q =>
    rw [hown] at hquery
    rw [Url.queryText_eq_of_some hquery]
    simp only [Url.keptQuery_eq_empty_iff]
    split <;> rfl

end

/-- What is forwarded carries the query of the rewritten path, or else that of the request,
    exactly if there is nothing in it that is lost. -/
theorem carriesQuery_iff (rules : RuleSet) (f : ForwardScript) (n : Script) (request : Request)
    (inbound : Stream) {base : Url} {r : Request} (hparsed : Url.Parsed request.url)
    (h : Event.forwarded base (some r) ∈
      (proxy rules (forwarder f) (handler n) request (.begin inbound)).2.journal) :
    ∃ rule, rules.resolve request.canonicalPath = some rule ∧
      Url.ofText? rule.target = some base ∧
      (CarriesQuery (rule.rewrite.apply request.canonicalPath).toList base.scheme request.url
          r.url ↔
        KeepsQuery (rule.rewrite.apply request.canonicalPath).toList base.scheme request.url) := by
  obtain ⟨rule, url, hon, rfl⟩ := passesOn_of_forwarded f n h
  refine ⟨rule, hon.chosen, hon.target, ?_⟩
  show CarriesQuery _ _ _ url ↔ _
  have hgiven := hon.queryText hparsed
  unfold CarriesQuery KeepsQuery
  cases hown : (Url.Parts.of (rule.rewrite.apply request.canonicalPath).toList).query with
  | none =>
    rw [hown] at hgiven
    dsimp only at hgiven ⊢
    rw [hgiven]
    exact Url.keptQuery_eq_self_iff hparsed.isClear
  | some q =>
    rw [hown] at hgiven
    dsimp only at hgiven ⊢
    rw [hgiven]
    generalize (Url.Parts.of (rule.rewrite.apply request.canonicalPath).toList).fragment.isNone =
      isLast
    by_cases hempty : readPart isLast (RequestPath.collapse q) = []
    · have hcollapsed := isCollapsed_of_readPart hempty
      rw [if_pos hempty]
      rw [hcollapsed.collapse_eq] at hempty
      rw [hempty, Url.keptQuery_eq_empty_iff.mpr rfl, Url.keptQuery_eq_empty_iff,
        String.toList_eq_nil_iff]
      exact ⟨fun hnone => ⟨hcollapsed, fun _ => hnone⟩, fun hkeeps => hkeeps.2 rfl⟩
    · rw [if_neg hempty, Url.keptQuery_collapse_eq_iff]
      refine ⟨fun hcollapsed => ⟨hcollapsed, fun hnone => absurd ?_ hempty⟩, And.left⟩
      rw [hcollapsed.collapse_eq, hnone]

/-- Writes the item `y` as the replacement says. -/
def itemRule (replacement : String) : Rule :=
  ⟨.literal "/api/", "http://backend.test:5000",
    .template ⟨.seq (.unit (Pattern.unit 'y')) .empty, 0, []⟩ replacement 0⟩

/-- A request with a query. -/
def itemRequest : Request where
  method := "GET"
  url := ⟨"http", "", "", some (.name "localhost"), none, .segments ["api", "y"],
    some "token=1", none⟩
  headers := []
  context := .object []

theorem itemRequest_parsed : Url.Parsed itemRequest.url :=
  .alone (s := "http://localhost/api/y?token=1") rfl

/-- A query that the rule writes takes the place of the request's. -/
theorem written_query_carried :
    Event.forwarded apiBase (some (itemRequest.withUrl
      { apiBase with path := .segments ["api", "y"], query := some "a=1" })) ∈
        (proxy [itemRule "y?a=1"] (forwarder (.each (.respond ⟨200, [], .none⟩)))
          (handler (.respond ⟨404, [], .none⟩)) itemRequest (.begin .empty)).2.journal ∧
    CarriesQuery "/api/y?a=1".toList "http" itemRequest.url
      { apiBase with path := .segments ["api", "y"], query := some "a=1" } := by
  have hon : PassesOn [itemRule "y?a=1"] itemRequest (itemRule "y?a=1") apiBase
      { apiBase with path := .segments ["api", "y"], query := some "a=1" } := by
    refine ⟨?_, ?_, ?_⟩ <;> rfl
  have hmem := forwarded_of_passesOn (.respond ⟨404, [], .none⟩) (.begin .empty)
    (.respond ⟨200, [], .none⟩) hon
  refine ⟨hmem, ?_⟩
  obtain ⟨rule, hrule, _, hiff⟩ :=
    carriesQuery_iff [itemRule "y?a=1"] _ _ itemRequest .empty itemRequest_parsed hmem
  obtain rfl : itemRule "y?a=1" = rule := Option.some.inj (hrule.symm.trans rfl).symm
  have hown : Url.Parts.of ((itemRule "y?a=1").rewrite.apply itemRequest.canonicalPath).toList =
      ⟨['/', 'a', 'p', 'i', '/', 'y'], some ['a', '=', '1'], none⟩ := rfl
  have hkeeps : KeepsQuery ((itemRule "y?a=1").rewrite.apply itemRequest.canonicalPath).toList
      apiBase.scheme itemRequest.url := by
    rw [KeepsQuery, hown]
    exact ⟨by simp [RequestPath.IsCollapsed], fun hempty => absurd hempty (by decide)⟩
  exact hiff.mpr hkeeps

/-- An empty query that the rule of an entry writes gives way to the request's. -/
theorem empty_query_gives_way :
    Rule.ofEntry ⟨"/api/", "http://backend.test:5000", some (.text "y -> y?")⟩ =
      (.ok (itemRule "y?"), []) ∧
    ¬ ∀ base r, Event.forwarded base (some r) ∈
      (proxy [itemRule "y?"] (forwarder (.each (.respond ⟨200, [], .none⟩)))
        (handler (.respond ⟨404, [], .none⟩)) itemRequest (.begin .empty)).2.journal →
      CarriesQuery ((itemRule "y?").rewrite.apply itemRequest.canonicalPath).toList base.scheme
        itemRequest.url r.url := by
  refine ⟨rfl, fun h => ?_⟩
  have hon : PassesOn [itemRule "y?"] itemRequest (itemRule "y?") apiBase
      { apiBase with path := .segments ["api", "y"], query := some "token=1" } := by
    refine ⟨?_, ?_, ?_⟩ <;> rfl
  have hcarried := h _ _ (forwarded_of_passesOn _ _ (.respond ⟨200, [], .none⟩) hon)
  have hown : Url.Parts.of ((itemRule "y?").rewrite.apply itemRequest.canonicalPath).toList =
      ⟨['/', 'a', 'p', 'i', '/', 'y'], some [], none⟩ := rfl
  rw [CarriesQuery, hown] at hcarried
  exact absurd hcarried (by decide)

end Middleware

end Gateway
