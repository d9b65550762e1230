import Gateway.Proofs.Settlement

/- The headers that a backend is sent, and those that the backends behind it are sent if each of
   them forwards in turn. A hop writes `host` and `via` and passes on the other headers that are
   about the message (`get?_backendHeaders`, `get?_endToEnd_iff`). What it sends, the next hop
   passes on whole (`SentOver.endToEnd_eq`). So over a chain of any length `host` is that of the
   last backend, `via` has an entry for each hop, and every other header is as the first hop sent
   it (`backendHeaders_chain`). -/
namespace Gateway

/-- What a value of `via` tells of the way so far, as one entry. An empty text tells nothing. -/
def HeaderValue.way? : HeaderValue → Option String
  | .text value => if value = "" then none else some value
  | .list values => some (String.intercalate "," values)
  | .number value => if value = .zero ∨ value = .nan then none else some value.toText
  | .absent => none

theorem HeaderValue.way?_eq (value : HeaderValue) :
    value.way? = if value.isGiven then some value.joined else none := by
  cases value with
  | text value => by_cases h : value = "" <;> simp [way?, isGiven, joined, h]
  | number value =>
    by_cases h : value = .zero ∨ value = .nan
    · rcases h with rfl | rfl <;> rfl
    · simp [way?, isGiven, joined, not_or.mp h]
  | list values => rfl
  | absent => rfl

namespace Headers

/-- The way so far, and behind it an entry for each server of this kind. -/
def viaEntries (headers : Headers) (hops : Nat) : List String :=
  ((Fields.get? headers "via").bind HeaderValue.way?).toList ++ List.replicate hops "1.1 devroute"

def viaText (headers : Headers) (hops : Nat) : String :=
  String.intercalate ", " (headers.viaEntries hops)

/-- A header is passed on with its value if it has one, and if it is neither about the connection
    nor the reserved name. -/
theorem get?_endToEnd_iff {headers : Headers} (h : Fields.IsListed headers) {name : String}
    {value : HeaderValue} :
    Fields.get? headers.endToEnd name = some value ↔
      Fields.get? headers name = some value ∧ value ≠ .absent ∧ name ∉ hopByHop ∧
        name ≠ Fields.reserved := by
  rw [endToEnd_eq_filter h, Fields.IsListed.get?_eq_some_iff (h.filter _), List.mem_filter,
    h.get?_eq_some_iff]
  simp only [isPassedOn, Bool.and_eq_true, Bool.not_eq_true', Bool.or_eq_false_iff,
    decide_eq_true_eq, decide_eq_false_iff_not, List.contains_eq_mem]
  tauto

theorem endToEnd_eq_self {headers : Headers} (h : Fields.IsListed headers)
    (hkept : ∀ name value, Fields.get? headers name = some value →
      value ≠ .absent ∧ name ∉ hopByHop ∧ name ≠ Fields.reserved) :
    headers.endToEnd = headers := by
  rw [endToEnd_eq_filter h]
  refine List.filter_eq_self.mpr fun field hm => ?_
  obtain ⟨hvalue, hhop, hname⟩ := hkept field.1 field.2 (h.get?_eq_some_iff.mpr hm)
  simp [isPassedOn, hvalue, hhop, hname]

theorem viaEntries_succ (headers : Headers) (hops : Nat) :
    headers.viaEntries (hops + 1) = headers.viaEntries hops ++ [Forwarder.via] := by
  rw [viaEntries, viaEntries, List.replicate_succ', List.append_assoc, Forwarder.via]

/-- A hop writes its entry behind those that are there. -/
theorem viaText_succ (headers : Headers) {hops : Nat} (h : headers.viaEntries hops ≠ []) :
    headers.viaText (hops + 1) = headers.viaText hops ++ ", " ++ Forwarder.via := by
  rw [viaText, viaEntries_succ,
    String.intercalate_append_of_ne_nil h (List.cons_ne_nil Forwarder.via []),
    String.intercalate_singleton, viaText]

theorem viaText_succ_ne_empty (headers : Headers) (hops : Nat) : headers.viaText (hops + 1) ≠ "" := by
  by_cases h : headers.viaEntries hops = []
  · rw [viaText, viaEntries_succ, h, List.nil_append, String.intercalate_singleton]
    decide
  · rw [viaText_succ headers h]
    simp [Forwarder.via, String.append_eq_empty_iff]

theorem viaText_one (headers : Headers) :
    headers.viaText 1 = match headers.given? "via" with
      | some before => before ++ ", " ++ Forwarder.via
      | none => Forwarder.via := by
  have hgiven : headers.given? "via" = (Fields.get? headers "via").bind HeaderValue.way? := by
    unfold given?
    cases Fields.get? headers "via" with
    | none => rfl
    | some value => exact value.way?_eq.symm
  rw [hgiven, viaText, viaEntries]
  cases (Fields.get? headers "via").bind HeaderValue.way? with
  | none => exact String.intercalate_singleton
  | some before =>
    show String.intercalate ", " [before, Forwarder.via] = _
    rw [String.intercalate_cons_cons, String.intercalate_singleton]

end Headers

namespace Forwarder
open Headers

/-! ## One hop -/

theorem get?_backendHeaders (headers : Headers) (base : Url) (name : String) :
    Fields.get? (backendHeaders headers base) name =
      if name = "via" then some (.text (headers.viaText 1))
      else if name = "host" then some (.text base.authority)
      else Fields.get? headers.endToEnd name := by
  rw [viaText_one, ← Fields.get?_set, ← Fields.get?_set]
  rfl

theorem isListed_backendHeaders {headers : Headers} (h : Fields.IsListed headers) (base : Url) :
    Fields.IsListed (backendHeaders headers base) := by
  have hkept : Fields.IsListed headers.endToEnd := by
    rw [endToEnd_eq_filter h]
    exact h.filter _
  exact (hkept.set _).set _

/-! ## A chain of hops -/

/-- Headers as they come behind the last of these backends, each of which is sent what the one
    before it was sent. -/
structure SentOver (headers : Headers) (bases : List Url) (sent : Headers) : Prop where
  host : Fields.get? sent "host" = bases.getLast?.map fun base => .text base.authority
  via : Fields.get? sent "via" = some (.text (headers.viaText bases.length))
  others : ∀ name value, name ≠ "host" → name ≠ "via" →
    (Fields.get? sent name = some value ↔
      Fields.get? headers name = some value ∧ value ≠ .absent ∧
        name ∉ ["connection", "keep-alive", "proxy-connection", "transfer-encoding", "upgrade", "te",
          "trailer"] ∧ name ≠ "__proto__")
  listed : Fields.IsListed sent

section
variable {headers sent : Headers} {bases : List Url}

theorem sentOver_singleton (h : Fields.IsListed headers) (base : Url) :
    SentOver headers [base] (backendHeaders headers base) where
  host := get?_backendHeaders headers base "host"
  via := get?_backendHeaders headers base "via"
  others name value hhost hvia := by
    rw [get?_backendHeaders, if_neg hvia, if_neg hhost]
    exact get?_endToEnd_iff h
  listed := isListed_backendHeaders h base

/-- What was sent is passed on whole. -/
theorem SentOver.endToEnd_eq (h : SentOver headers bases sent) : sent.endToEnd = sent := by
  refine endToEnd_eq_self h.listed fun name value hvalue => ?_
  by_cases hhost : name = "host"
  · subst hhost
    rw [h.host] at hvalue
    obtain ⟨base, -, rfl⟩ := Option.map_eq_some_iff.mp hvalue
    exact ⟨nofun, by decide, by decide⟩
  · by_cases hvia : name = "via"
    · subst hvia
      obtain rfl := Option.some.inj (h.via.symm.trans hvalue)
      exact ⟨nofun, by decide, by decide⟩
    · exact ((h.others name value hhost hvia).mp hvalue).2

/-- Behind the first hop the value of `via` is no empty text, so the next hop extends it. -/
theorem SentOver.viaText_one (h : SentOver headers bases sent) (hbases : bases ≠ []) :
    sent.viaText 1 = headers.viaText (bases.length + 1) := by
  obtain ⟨hops, hlength⟩ := Nat.exists_eq_succ_of_ne_zero (mt List.length_eq_zero_iff.mp hbases)
  rw [hlength]
  -- the entries so far have become the one text that the next hop finds
  have hsent : sent.viaEntries 0 = [headers.viaText (hops + 1)] := by
    rw [viaEntries, h.via, hlength]
    simp [HeaderValue.way?, viaText_succ_ne_empty headers hops]
  have hentries : headers.viaEntries (hops + 1) ≠ [] := by simp [viaEntries_succ]
  rw [viaText_succ sent (hsent ▸ List.cons_ne_nil _ []), viaText_succ headers hentries]
  congr 2
  rw [viaText, hsent, String.intercalate_singleton]

theorem SentOver.step (h : SentOver headers bases sent) (hbases : bases ≠ []) (base : Url) :
    SentOver headers (bases ++ [base]) (backendHeaders sent base) where
  host := by
    rw [List.getLast?_concat]
    exact get?_backendHeaders sent base "host"
  via := by
    rw [List.length_append, List.length_singleton, ← h.viaText_one hbases]
    exact get?_backendHeaders sent base "via"
  others name value hhost hvia := by
    rw [get?_backendHeaders, if_neg hvia, if_neg hhost, h.endToEnd_eq]
    exact h.others name value hhost hvia
  listed := isListed_backendHeaders h.listed base

/-- A further hop changes `host` and `via` only, and they keep their places. -/
theorem SentOver.names_backendHeaders (h : SentOver headers bases sent) (hbases : bases ≠ [])
    (base : Url) : Fields.names (backendHeaders sent base) = Fields.names sent := by
  have hhost : "host" ∈ Fields.names sent := by
    refine Fields.mem_names_of_get? (?_ : _ = some (.text (bases.getLast hbases).authority))
    rw [h.host, List.getLast?_eq_some_getLast hbases]
    rfl
  have hvia : "via" ∈ Fields.names sent := Fields.mem_names_of_get? h.via
  show Fields.names (Fields.set "via" _ (Fields.set "host" _ sent.endToEnd)) = _
  rw [h.endToEnd_eq, Fields.IsListed.names_set _ (h.listed.set _), h.listed.names_set _ hhost]
  rwa [h.listed.names_set _ hhost]

end

theorem sentOver_foldl {headers : Headers} (h : Fields.IsListed headers) (first : Url)
    (more : List Url) :
    SentOver headers (first :: more) ((first :: more).foldl backendHeaders headers) := by
  induction more using List.reverseRecOn with
  | nil => exact sentOver_singleton h first
  | append_singleton init last ih =>
    rw [← List.cons_append, List.foldl_append]
    exact ih.step (List.cons_ne_nil first init) last

theorem names_foldl_backendHeaders {headers : Headers} (h : Fields.IsListed headers) (first : Url)
    (more : List Url) :
    Fields.names ((first :: more).foldl backendHeaders headers) =
      Fields.names (backendHeaders headers first) := by
  induction more using List.reverseRecOn with
  | nil => rfl
  | append_singleton init last ih =>
    rw [← List.cons_append, List.foldl_append, ← ih]
    exact (sentOver_foldl h first init).names_backendHeaders (List.cons_ne_nil first init) last

/-- Over a chain of backends, each of which forwards what it is sent to the next: the last one is
    sent its own host, an entry in `via` for each hop behind the way so far, and every other header
    that is about the message as it was. The hops behind the first change only these two. -/
theorem backendHeaders_chain {headers : Headers} (h : Fields.IsListed headers) (first : Url)
    (more : List Url) :
    let sent := (first :: more).foldl backendHeaders headers
    SentOver headers (first :: more) sent ∧
    Fields.names sent = Fields.names (backendHeaders headers first) ∧
    ∀ name, name ≠ "host" → name ≠ "via" →
      Fields.get? sent name = Fields.get? (backendHeaders headers first) name := by
  have hchain : SentOver headers (first :: more) _ := sentOver_foldl h first more
  have hfirst : SentOver headers [first] _ := sentOver_singleton h first
  refine ⟨hchain, names_foldl_backendHeaders h first more, fun name hhost hvia => ?_⟩
  refine Option.ext fun value => ?_
  rw [hchain.others name value hhost hvia, hfirst.others name value hhost hvia]

/-- Headers with several ways so far, one about the connection, one without a value, and the
    reserved name. -/
def mixedHeaders : Headers :=
  [("te", .text "trailers"), ("via", .list ["1.0 a", "1.1 b"]), ("cookie", .text "c=1"),
    ("x", .absent), ("__proto__", .text "p")]

def hopTo (host : String) (port : Option Nat) : Url :=
  ⟨"http", "", "", some (.name host), port, .segments [""], none, none⟩

theorem mixedHeaders_chain :
    let bases := [hopTo "a.test" (some 81), hopTo "b.test" none]
    let sent := bases.foldl backendHeaders mixedHeaders
    Fields.IsListed mixedHeaders ∧ SentOver mixedHeaders bases sent ∧
    sent = [("via", .text "1.0 a,1.1 b, 1.1 devroute, 1.1 devroute"), ("cookie", .text "c=1"),
      ("host", .text "b.test")] := by
  intro bases sent
  have hlisted : Fields.IsListed mixedHeaders := by unfold Fields.IsListed mixedHeaders; decide
  exact ⟨hlisted, (backendHeaders_chain hlisted _ _).1, by decide⟩

end Forwarder

end Gateway
