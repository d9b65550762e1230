import Gateway.Proofs.Authority
import Gateway.Proofs.CarriedQuery
import Gateway.Proofs.FallThrough

/- What a backend is asked for. A request line has its target between two spaces, so a target
   with a space or a line end in it would split the line. The path that is asked for comes
   from the request, from the rule and from the groups of a match, and its query from the rule
   or from the request; but both have been read as parts of a URL of a server
   (`PassesOn.settled`), and of such a URL nothing but visible characters is written
   (`Settled.isRequestTarget`). So the stage makes no other requests than with whole targets
   (`dispatched_requestTarget`). -/
namespace Gateway

/-- A text that a request line can hold as its target: a slash in front, and only visible ASCII
    characters, without the one that begins a fragment. -/
structure IsRequestTarget (s : List Char) : Prop where
  rooted : s.head? = some '/'
  visible : ∀ c ∈ s, 0x21 ≤ c.toNat ∧ c.toNat ≤ 0x7E ∧ c ≠ '#'

/-! ## What a URL writes -/

namespace Url

theorem visible_of_not_inQuerySet {c : Char} (h : inQuerySet c = false) :
    0x21 ≤ c.toNat ∧ c.toNat ≤ 0x7E ∧ c ≠ '#' := by
  have hle : ¬ c.toNat ≤ 0x20 := by
    intro hle
    rw [inQuerySet_of_le hle] at h
    cases h
  simp only [inQuerySet, inControlSet, Bool.or_eq_false_iff, decide_eq_false_iff_not,
    beq_eq_false_iff_ne] at h
  obtain ⟨⟨⟨⟨⟨_, hend⟩, _⟩, _⟩, hhash⟩, _⟩ := h.1
  exact ⟨by omega, by omega, hhash⟩

/-- Path and query of a settled URL make up the target of a request. -/
theorem Settled.isRequestTarget {u : Url} (h : Settled u) :
    IsRequestTarget (u.pathname ++ u.search).toList := by
  rw [String.toList_append]
  constructor
  · -- the path has a segment, and this stands behind a slash
    obtain ⟨list, hlist, hne, _⟩ := h.segments
    obtain ⟨first, more, rfl⟩ := List.ne_nil_iff_exists_cons.mp hne
    rw [Url.toList_pathname hlist]
    rfl
  · intro c hc
    rcases List.mem_append.mp hc with hc | hc
    · rcases h.isPathText c hc with rfl | hchar
      · decide
      · have hset := (isSegmentChar_iff.mp hchar).1
        simp only [inPathSet, Bool.or_eq_false_iff] at hset
        exact visible_of_not_inQuerySet hset.1.1.1.1
    · unfold search at hc
      split at hc
      · next q hq =>
        split at hc
        · cases hc
        · rw [String.toList_append] at hc
          rcases List.mem_append.mp hc with hc | hc
          · obtain rfl : c = '?' := by simpa using hc
            decide
          · have hset := h.query q hq c hc
            simp only [inSpecialQuerySet, Bool.or_eq_false_iff] at hset
            exact visible_of_not_inQuerySet hset.1
      · cases hc

end Url

/-! ## Requests to backends -/

/-- The requests to backends that an exchange has seen. -/
def Exchange.dispatches (x : Exchange) : List Dispatch :=
  x.journal.filterMap fun
    | .dispatched d => some d
    | _ => none

theorem Exchange.dispatches_append_log (x : Exchange) (entries : List LogEntry) :
    (x.append (entries.map .logged)).dispatches = x.dispatches := by
  simp [dispatches, List.filterMap_append]

namespace Forwarder

/-- There is a transport for the schemes of servers only. -/
theorem isWeb_of_expectedProtocol {base : Url} (h : base.protocol = expectedProtocol base) :
    base.IsWeb := by
  have hscheme {scheme : String} (hs : base.scheme ++ ":" = scheme ++ ":") :
      base.scheme = scheme := by
    have hlists := congrArg String.toList hs
    rw [String.toList_append, String.toList_append] at hlists
    exact String.toList_inj.mp (List.append_cancel_right hlists)
  unfold expectedProtocol at h
  split at h
  · exact .inr ‹_›
  · exact .inl (hscheme h)

/-- What a network is asked for: one request to a server, and nothing for another scheme. -/
theorem send_dispatches (network : Network) (base : Url) (r : Request) (x : Exchange) :
    (∃ passed received, base.IsWeb ∧ (send network base r x).2.dispatches =
      x.dispatches ++ [{ dispatch base r with passed, received }]) ∨
    ¬ base.IsWeb ∧ (send network base r x).2.dispatches = x.dispatches := by
  by_cases hweb : base.IsWeb
  · rw [send_eq hweb]
    exact .inl ⟨_, _, hweb, by simp only [Exchange.dispatches, List.filterMap_append]; rfl⟩
  · have hprotocol : base.protocol ≠ expectedProtocol base := fun h =>
      hweb (isWeb_of_expectedProtocol h)
    rw [send, if_neg hprotocol]
    exact .inr ⟨hweb, rfl⟩

end Forwarder

namespace Middleware

/-- The URL that a request is passed on to has been read, so it is settled if the target is
    a server's. -/
theorem PassesOn.settled {rules : RuleSet} {request : Request} {rule : Rule} {base url : Url}
    (h : PassesOn rules request rule base url) (hweb : base.IsWeb) :
    Url.Settled url := by
  obtain ⟨htarget, resolved, hparse, hurl⟩ := outbound?_eq_some_iff.mp h.outbound
  have hresolved : Url.Parsed resolved := .relative (.alone htarget) hparse
  have hparsed : Url.Parsed url := by
    rw [← hurl]
    split
    · exact hresolved.searched _
    · exact hresolved
  exact hparsed.settled ((h.authority hweb).1 ▸ hweb.isHierarchic)

/-- The run ends in this exchange, or it is the next handler's from there on. -/
def Reaches (run : Outcome Thrown Response × Exchange) (next : Handler) (request : Request)
    (y : Exchange) : Prop := run.2 = y ∨ run = next request y

theorem fallThrough_reaches (target : String) (next : Handler) (request : Request) (e : Thrown)
    (x : Exchange) :
    ∃ y, Reaches (fallThrough target next request e x) next request y ∧
      y.dispatches = x.dispatches := by
  cases he : e.message? with
  | none =>
    rw [fallThrough_unshown _ _ _ he]
    exact ⟨x, .inl rfl, rfl⟩
  | some reason =>
    rw [fallThrough_shown _ _ _ he]
    exact ⟨_, .inr rfl, x.dispatches_append_log [proxyFailed target reason]⟩

/-- What the stage adds to the requests that were made: one if the request is passed on to a
    server, and none else. -/
theorem proxy_dispatches (rules : RuleSet) (network : Network) (next : Handler)
    (request : Request) (x : Exchange) :
    ∃ y, Reaches (proxy rules (Forwarder.overNetwork network) next request x) next request y ∧
      ((∃ rule base url passed received, PassesOn rules request rule base url ∧ base.IsWeb ∧
        y.dispatches = x.dispatches ++
          [{ Forwarder.dispatch base (request.withUrl url) with passed, received }]) ∨
      (∀ rule base url, PassesOn rules request rule base url → ¬ base.IsWeb) ∧
        y.dispatches = x.dispatches) := by
  by_cases hon : ∃ rule base url, PassesOn rules request rule base url
  · obtain ⟨rule, base, url, hon⟩ := hon
    -- the requests are those of the transport, since what follows it makes none
    have hreach : ∃ y, Reaches (proxy rules (Forwarder.overNetwork network) next request x)
        next request y ∧
        y.dispatches = (Forwarder.send network base (request.withUrl url) x).2.dispatches := by
      have hforward : (do (← Forwarder.overNetwork network base) (request.withUrl url)) =
          Forwarder.send network base (request.withUrl url) := rfl
      rw [proxy_passesOn _ _ hon, hforward, Run.rescue]
      rcases Forwarder.send network base (request.withUrl url) x with ⟨outcome, y⟩
      cases outcome with
      | done response => exact ⟨y, .inl rfl, rfl⟩
      | failed e => exact fallThrough_reaches url.href next request e y
      | pending => exact ⟨y, .inl rfl, rfl⟩
    obtain ⟨y, hreach, hy⟩ := hreach
    refine ⟨y, hreach, ?_⟩
    rw [hy]
    rcases Forwarder.send_dispatches network base (request.withUrl url) x with
      ⟨passed, received, hweb, hsend⟩ | ⟨hweb, hsend⟩
    · exact .inl ⟨rule, base, url, passed, received, hon, hweb, hsend⟩
    · refine .inr ⟨?_, hsend⟩
      intro rule' base' url' hon'
      obtain ⟨rfl, _⟩ := hon.unique hon'
      exact hweb
  · have hnone (rule base url) : ¬ PassesOn rules request rule base url :=
      fun h => hon ⟨rule, base, url, h⟩
    have hweb (rule base url) (h : PassesOn rules request rule base url) : ¬ base.IsWeb :=
      absurd h (hnone rule base url)
    rcases proxy_of_not_passesOn hnone (Forwarder.overNetwork network) next x with
      ⟨entries, hrun⟩ | ⟨e, _, hrun⟩
    · rw [hrun]
      exact ⟨_, .inr rfl, .inr ⟨hweb, x.dispatches_append_log entries⟩⟩
    · rw [hrun]
      exact ⟨x, .inl rfl, .inr ⟨hweb, rfl⟩⟩

/-- The requests that the stage makes of backends before it ends or hands the request over: one
    exactly if the request is passed on to a server, and none else. The target of that request
    is path and query of the URL, and it is whole. -/
theorem dispatched_requestTarget (rules : RuleSet) (network : Network) (next : Handler)
    (request : Request) (x : Exchange) :
    ∃ y made, Reaches (proxy rules (Forwarder.overNetwork network) next request x) next request y ∧
      y.dispatches = x.dispatches ++ made ∧
      made.length ≤ 1 ∧
      (made ≠ [] ↔ ∃ rule base url, PassesOn rules request rule base url ∧ base.IsWeb) ∧
      ∀ d ∈ made, IsRequestTarget d.path.toList ∧
        ∃ rule base url, PassesOn rules request rule base url ∧
          d.path = url.pathname ++ url.search := by
  obtain ⟨y, hreach, ⟨rule, base, url, _, _, hon, hweb, hy⟩ | ⟨hnone, hy⟩⟩ :=
    proxy_dispatches rules network next request x
  · refine ⟨y, _, hreach, hy, Nat.le_refl 1, ?_, ?_⟩
    · exact ⟨fun _ => ⟨rule, base, url, hon, hweb⟩, fun _ => List.cons_ne_nil _ _⟩
    · intro d hd
      obtain rfl := List.mem_singleton.mp hd
      exact ⟨(hon.settled hweb).isRequestTarget, rule, base, url, hon, rfl⟩
  · refine ⟨y, [], hreach, by rw [hy, List.append_nil], Nat.zero_le 1, ?_, by simp⟩
    constructor
    · intro hmade
      exact absurd rfl hmade
    · rintro ⟨rule, base, url, hon, hweb⟩
      exact absurd hweb (hnone rule base url hon)

/-- A template that writes a line end, a space and letters beyond ASCII does not split the line. -/
example : ((proxy [itemRule "y\r\nHost: \u00FC?q=\u00E9 z#f"]
    (Forwarder.overNetwork fun _ => ⟨.answer (some 200) [] .empty, .atEnd⟩)
    (fun _ => Run.wait) itemRequest (.begin .empty)).2.dispatches.map Dispatch.path) =
      ["/api/yHost:%20%C3%BC?q=%C3%A9%20z"] := rfl

end Middleware

end Gateway
