import Gateway.Proofs.Authority
import Gateway.Proofs.Text.Pieces
import Gateway.Proofs.Url.Resolved

/- Requests whose rule has no template. Their URL has been read once, and its path is
   put into canonical form, cut at a slash perhaps, and read again below the target. All
   characters are left from the first reading, so none is escaped or taken for something
   else; and each piece between slashes is one of the segments or empty, so there is no
   dot segment unless the first reading has left one. So the second reading gives the
   path back (`forwarded_transparently`). -/
namespace Gateway
open Url (IsPathText AreResolved slashPieces)

/-! ## Canonical form -/

namespace RequestPath

theorem isPathText_canonical {s : List Char} (h : IsPathText s) : IsPathText (canonical s) := by
  have hcollapse : IsPathText (collapse s) := fun c hc => h c (mem_of_mem_collapse hc)
  unfold canonical
  rcases rooted_cases (collapse s) with ⟨hroot, _⟩ | ⟨hroot, _⟩
  · rw [hroot]
    exact hcollapse
  · rw [hroot]
    intro c hc
    rcases List.mem_cons.mp hc with rfl | hc
    · exact .inl rfl
    · exact hcollapse c hc

/-- Collapsing keeps the first piece and brings in no other one. -/
theorem slashPieces_collapse (s : List Char) :
    ∃ first more others, slashPieces true (collapse s) = first :: more ∧
      slashPieces true s = first :: others ∧ ∀ piece ∈ more, piece ∈ others := by
  fun_induction collapse s with
  | case1 => exact ⟨[], [], [], rfl, rfl, fun _ h => h⟩
  | case2 c =>
    obtain ⟨first, more, hcut⟩ := Url.slashPieces_eq_cons true [c]
    exact ⟨first, more, more, hcut, hcut, fun _ h => h⟩
  | case3 c d rest h ih =>
    obtain ⟨first, more, others, hmore, hothers, hsub⟩ := ih
    obtain ⟨rfl, rfl⟩ := h
    -- the slash that goes had an empty piece before it and is followed by another slash
    have hslash (t : List Char) : slashPieces true ('/' :: t) = [] :: slashPieces true t :=
      Url.slashPieces_cons_slash rfl t
    have hfirst : first = [] := by
      rw [hslash] at hothers
      exact (List.cons.inj hothers).1.symm
    refine ⟨first, more, slashPieces true ('/' :: rest), hmore, ?_, ?_⟩
    · rw [hslash, hfirst]
    · intro piece hp
      rw [hothers]
      exact List.mem_cons_of_mem first (hsub piece hp)
  | case4 c d rest _ ih =>
    obtain ⟨first, more, others, hmore, hothers, hsub⟩ := ih
    cases hc : Url.isSlash true c with
    | true =>
      rw [Url.slashPieces_cons_slash hc, Url.slashPieces_cons_slash hc]
      refine ⟨[], _, _, rfl, rfl, ?_⟩
      rw [hmore, hothers]
      intro piece hp
      rcases List.mem_cons.mp hp with rfl | hp
      · exact List.mem_cons_self
      · exact List.mem_cons_of_mem first (hsub piece hp)
    | false =>
      -- `c` goes to the front of both first pieces
      rw [Url.slashPieces_cons_other hc, Url.slashPieces_cons_other hc, hmore, hothers]
      exact ⟨c :: first, more, others, rfl, rfl, hsub⟩

theorem areResolved_collapse {s : List Char} (h : AreResolved (slashPieces true s)) :
    AreResolved (slashPieces true (collapse s)) := by
  obtain ⟨first, more, others, hmore, hothers, hsub⟩ := slashPieces_collapse s
  rw [hothers] at h
  rw [hmore]
  intro piece hp
  rcases List.mem_cons.mp hp with rfl | hp
  · exact h _ List.mem_cons_self
  · exact h piece (List.mem_cons_of_mem first (hsub piece hp))

/-- A slash in front brings in an empty piece only. -/
theorem areResolved_cons_slash {s : List Char} :
    AreResolved (slashPieces true ('/' :: s)) ↔ AreResolved (slashPieces true s) := by
  rw [Url.slashPieces_cons_slash rfl]
  constructor
  · intro h piece hp
    exact h piece (List.mem_cons_of_mem [] hp)
  · intro h
    exact (Url.areResolved_singleton (by decide)).append h

theorem areResolved_canonical {s : List Char} (h : AreResolved (slashPieces true s)) :
    AreResolved (slashPieces true (canonical s)) := by
  unfold canonical
  rcases rooted_cases (collapse s) with ⟨hroot, _⟩ | ⟨hroot, _⟩
  · rw [hroot]
    exact areResolved_collapse h
  · rw [hroot]
    exact areResolved_cons_slash.mpr (areResolved_collapse h)

/-- A canonical path of plain characters is read below any server as a path, and without dot
    segments it is read as it is. -/
theorem parse?_normalize {path : String} (htext : IsPathText path.toList) {base : Url}
    (hweb : base.IsWeb) (hsettled : Url.Settled base) :
    ∃ u list, Url.parse? (normalize path) (some base) = some u ∧ u.path = .segments list ∧
      u.query = none ∧ u.fragment = none ∧ u.scheme = base.scheme ∧
      Url.authorityOf u = Url.authorityOf base ∧
      (AreResolved (slashPieces true path.toList) → u.pathname = normalize path) := by
  have hcanonical : IsPathText (normalize path).toList := by
    rw [toList_normalize]
    exact isPathText_canonical htext
  have hopens : Url.opensAuthority (normalize path) = false := by
    apply opensAuthority_normalize
    intro c hc
    exact ⟨(hcanonical.isPlain hc).ne_backslash, (hcanonical.isPlain hc).not_dropped⟩
  obtain ⟨rest, hrest, _⟩ := canonical_eq_cons path.toList
  have hlist : (normalize path).toList = '/' :: rest := by rw [toList_normalize, hrest]
  have hs := hweb.isHierarchic
  have hne : Url.readSegments base.scheme [] rest ≠ [] := (Url.areSegments_nil.readSegments hs rest).2
  refine ⟨_, _, Url.parse?_pathText hlist hs hsettled hcanonical hopens, Url.path_make hne,
    rfl, rfl, rfl, rfl, ?_⟩
  intro hresolved
  -- the segments that are read are the pieces, which make up the text again
  have hsplit : AreResolved (slashPieces true rest) := by
    rw [← areResolved_cons_slash, ← hrest]
    exact areResolved_canonical hresolved
  have htail : IsPathText rest := fun c hc => hcanonical c (by rw [hlist]; exact .tail _ hc)
  have hback : '\\' ∉ rest := fun hm => (htail.isPlain hm).ne_backslash rfl
  have hread := Url.readSegments_of_resolved hs htail.areSegments hsplit
  have hid : String.toList ∘ String.ofList = id := by
    funext t
    exact String.toList_ofList
  apply String.toList_inj.mp
  calc (Url.make base.scheme (Url.authorityOf base) (Url.readSegments base.scheme [] rest)
        none none).pathname.toList
      = (Url.readSegments base.scheme [] rest).flatMap fun s => '/' :: s := by
        rw [Url.toList_pathname (Url.path_make hne), List.map_map, hid, List.map_id]
    _ = (slashPieces true rest).flatMap fun s => '/' :: s := by rw [hread]
    _ = '/' :: rest := Url.flatMap_slashPieces hback
    _ = (normalize path).toList := hlist.symm

end RequestPath

/-- The URL of a request that comes from a connection has been read. -/
theorem Incoming.parsed_url {i : Incoming} {u : Url} (h : i.url? = some u) : Url.Parsed u := by
  unfold Incoming.url? at h
  dsimp only at h
  split at h
  · exact .alone h
  · obtain ⟨base, hbase, hrelative⟩ := Option.bind_eq_some_iff.mp h
    exact .relative (.alone hbase) hrelative

namespace Request

variable {request : Request} (h : Url.Settled request.url)
include h

theorem isPathText_canonicalPath : IsPathText request.canonicalPath.toList := by
  rw [canonicalPath, RequestPath.toList_normalize]
  exact RequestPath.isPathText_canonical h.isPathText

/-- Canonical form brings in no dot segment. -/
theorem areResolved_canonicalPath (hresolved : request.url.IsResolved) :
    AreResolved (slashPieces true request.canonicalPath.toList) := by
  rw [canonicalPath, RequestPath.toList_normalize]
  apply RequestPath.areResolved_canonical
  rw [h.slashPieces_pathname]
  exact (Url.areResolved_singleton (by decide)).append hresolved

end Request

/-! ## Rules without a template -/

/-- The rule leaves paths as they are, or takes a key off that ends with a slash. -/
inductive Rule.CutsAtSlash : Rule → Prop
  | kept (selector : Selector) (target : String) : CutsAtSlash ⟨selector, target, .none⟩
  | stripped (key target : String) (hkey : key.toList.getLast? = some '/') :
    CutsAtSlash ⟨.literal key, target, .stripKey key⟩

/-- What such a rule makes of a path is the path, or what it has behind some slash. -/
theorem Rule.CutsAtSlash.apply {rule : Rule} (h : rule.CutsAtSlash) {path : String}
    (hselects : rule.selects path = true) :
    rule.rewrite.apply path = path ∨
      ∃ front, path.toList = front ++ '/' :: (rule.rewrite.apply path).toList := by
  cases h with
  | kept selector target => exact .inl rfl
  | stripped key target hkey =>
    right
    obtain ⟨front, hfront⟩ := List.getLast?_eq_some_iff.mp hkey
    obtain ⟨rest, hrest⟩ := List.isPrefixOf_iff_prefix.mp hselects
    have hne : key.toList ≠ [] := by
      rw [hfront]
      simp
    refine ⟨front, ?_⟩
    show path.toList = front ++ '/' :: (String.ofList (Text.removeFirst key.toList path.toList)).toList
    rw [← hrest, Text.removeFirst_of_prefix hne, String.toList_ofList, hfront]
    simp

namespace Middleware
open Scripted

section
variable {rules : RuleSet} {request : Request} {rule : Rule} {base : Url}

/-- Such a rule keeps the characters of a path, and it brings in no dot segment. -/
theorem rewrite_apply_plain (hrule : rule.CutsAtSlash)
    (hsettled : Url.Settled request.url) (hchosen : rules.resolve request.canonicalPath = some rule) :
    IsPathText (rule.rewrite.apply request.canonicalPath).toList ∧
      (request.url.IsResolved →
        AreResolved (slashPieces true (rule.rewrite.apply request.canonicalPath).toList)) := by
  have hselects : rule.selects request.canonicalPath = true := by
    unfold RuleSet.resolve at hchosen
    exact List.find?_some (p := fun (r : Rule) => r.selects request.canonicalPath) hchosen
  have htext := Request.isPathText_canonicalPath hsettled
  have hresolved := Request.areResolved_canonicalPath hsettled
  rcases hrule.apply hselects with hsame | ⟨front, hfront⟩
  · rw [hsame]
    exact ⟨htext, hresolved⟩
  · rw [hfront] at htext hresolved
    refine ⟨fun c hc => htext c (List.mem_append_right front (.tail _ hc)), ?_⟩
    intro h piece hp
    refine hresolved h piece ?_
    rw [Url.slashPieces_append_slash rfl]
    exact List.mem_append_right _ hp

end

/-- What the forwarder is given for a request whose rule has no template: the rewritten path,
    the query as it was, no fragment, and the scheme and the authority of the target. The URL
    standard resolves dot segments, so the path of a URL that it reads is resolved. -/
theorem forwarded_transparently {rules : RuleSet} {request : Request} {rule : Rule} {base : Url}
    (hparsed : Url.Parsed request.url) (hweb : request.url.IsWeb)
    (hchosen : rules.resolve request.canonicalPath = some rule)
    (hplain : request.headers.wantsWebsocket = .ok false)
    (htarget : Url.ofText? rule.target = some base) (hbase : base.IsWeb)
    (hrule : rule.CutsAtSlash) :
    ∃ url,
      (∀ script n inbound b r, Event.forwarded b (some r) ∈
        (proxy rules (forwarder (.each script)) (handler n) request (.begin inbound)).2.journal ↔
          b = base ∧ r = request.withUrl url) ∧
      (request.url.IsResolved → url.pathname = rule.rewritten request.canonicalPath) ∧
      url.search = request.url.search ∧ url.fragment = none ∧ url.scheme = base.scheme ∧
      Url.authorityOf url = Url.authorityOf base := by
  have hsettled := hparsed.settled hweb.isHierarchic
  have hsettled' := (Url.Parsed.alone htarget).settled hbase.isHierarchic
  obtain ⟨htext, hresolved⟩ := rewrite_apply_plain hrule hsettled hchosen
  obtain ⟨u, list, hparse, hpath, hquery, hfragment, hscheme, hauthority, hkept⟩ :=
    RequestPath.parse?_normalize htext hbase hsettled'
  have hon : PassesOn rules request rule base (u.withSearch request.url.search) := by
    -- the path brings no query of its own, so that of the request is set
    have hnone : u.search = "" := by simp [Url.search, hquery]
    refine ⟨hchosen, hplain, ?_⟩
    apply outbound?_eq_some_iff.mpr
    exact ⟨htarget, u, hparse, by rw [if_pos hnone]⟩
  refine ⟨u.withSearch request.url.search,
    fun script n inbound b r => forwarded_iff script n inbound hon, ?_, ?_, ?_, ?_, ?_⟩
  · intro h
    rw [Url.pathname_withSearch hpath]
    exact hkept (hresolved h)
  · apply Url.search_withSearch _ hsettled.query
    rw [hscheme]
    exact hbase.isHierarchic.special
  · rw [Url.fragment_withSearch, hfragment]
  · rw [Url.withSearch_scheme, hscheme]
  · rw [Url.authorityOf_withSearch, hauthority]

/-- Takes `/api/` off. -/
def strippingRule : Rule := ⟨.literal "/api/", "http://backend.test:5000", .stripKey "/api/"⟩

/-- A request with a doubled slash, an escape and a query. -/
def escapedRequest : Request where
  method := "GET"
  url := ⟨"http", "", "", some (.name "localhost"), none, .segments ["api", "", "a%20b"],
    some "q=%271", none⟩
  headers := []
  context := .object []

/-- Its path and its query are passed on as they are. -/
theorem escapedRequest_forwarded :
    ∃ url,
      (∀ script n inbound b r, Event.forwarded b (some r) ∈
        (proxy [strippingRule] (forwarder (.each script)) (handler n) escapedRequest
          (.begin inbound)).2.journal ↔ b = apiBase ∧ r = escapedRequest.withUrl url) ∧
      url.pathname = "/a%20b" ∧ url.search = "?q=%271" ∧
      Url.authorityOf url = Url.authorityOf apiBase := by
  have hparsed : Url.Parsed escapedRequest.url :=
    .alone (s := "http://localhost/api//a%20b?q=%271") rfl
  have hchosen : RuleSet.resolve [strippingRule] escapedRequest.canonicalPath =
      some strippingRule := rfl
  have htarget : Url.ofText? strippingRule.target = some apiBase := rfl
  have hrule : strippingRule.CutsAtSlash := .stripped "/api/" _ rfl
  obtain ⟨url, hgiven, hpath, hsearch, _, _, hauthority⟩ :=
    forwarded_transparently hparsed (.inl rfl) hchosen rfl htarget (.inl rfl) hrule
  have hresolved : escapedRequest.url.IsResolved := by
    unfold Url.IsResolved Url.AreResolved
    decide
  exact ⟨url, hgiven, hpath hresolved, hsearch, hauthority⟩

end Middleware

end Gateway
