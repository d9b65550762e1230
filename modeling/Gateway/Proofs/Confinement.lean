import Gateway.Proofs.Expansion
import Gateway.Proofs.Replacement
import Gateway.Proofs.Transparent
import Gateway.Proofs.Url.Below

/- Templates that put what a pattern has matched below a directory. If the pattern matches a
   whole path, what is left is the directory and a text behind it, made of what the path holds
   (`rewritten_below`). It is read below the target with its dot segments resolved, so the
   request leaves the directory exactly if the text behind it leads above and not back to the
   same names (`template_confines_iff`). That can happen although the path of the request has
   no dot segment, since a group may begin or end in the middle of a segment; it cannot if the
   texts that are put in consist of whole segments. -/
namespace Gateway
open Gateway.Text (CodeUnit)
open Url (IsPathText IsDirectory AreResolved dirNames slashPieces)

/-! ## Path texts as units -/

/-- The unit of a character that a path holds as it is. -/
def IsPathUnit (u : CodeUnit) : Prop :=
  ∃ c, (c = '/' ∨ Url.isSegmentChar c = true) ∧ Text.unitsOfChar c = [u]

theorem unitsOfChar_of_isSegmentChar {c : Char} (h : Url.isSegmentChar c = true) :
    Text.unitsOfChar c = [UInt16.ofNat c.toNat] := by
  have hset := (Url.isSegmentChar_iff.mp h).1
  have hle : c.toNat ≤ 0x7E := by
    simp only [Url.inPathSet, Url.inQuerySet, Url.inControlSet, Bool.or_eq_false_iff,
      decide_eq_false_iff_not] at hset
    omega
  exact if_pos (by omega)

theorem isPathUnit_of_mem {s : List Char} (h : IsPathText s) {u : CodeUnit}
    (hu : u ∈ Text.toUnits s) : IsPathUnit u := by
  obtain ⟨c, hc, hu⟩ := List.mem_flatMap.mp hu
  have hchar := h c hc
  have hunits : ∃ v, Text.unitsOfChar c = [v] := by
    rcases hchar with rfl | hchar
    · exact ⟨_, rfl⟩
    · exact ⟨_, unitsOfChar_of_isSegmentChar hchar⟩
  obtain ⟨v, hv⟩ := hunits
  rw [hv, List.mem_singleton] at hu
  exact ⟨c, hchar, hu ▸ hv⟩

/-- Such units are read as the text that they are the units of. -/
theorem pathText_of_units {us : List CodeUnit} (h : ∀ u ∈ us, IsPathUnit u) :
    IsPathText (Text.ofUnits us) ∧ Text.toUnits (Text.ofUnits us) = us := by
  obtain ⟨s, hs, rfl⟩ : ∃ s, IsPathText s ∧ Text.toUnits s = us := by
    induction us with
    | nil => exact ⟨[], by simp [IsPathText], rfl⟩
    | cons u us ih =>
      obtain ⟨s, hs, hunits⟩ := ih fun v hv => h v (List.mem_cons_of_mem u hv)
      obtain ⟨c, hc, hu⟩ := h u List.mem_cons_self
      refine ⟨c :: s, ?_, ?_⟩
      · intro d hd
        rcases List.mem_cons.mp hd with rfl | hd
        · exact hc
        · exact hs d hd
      · show Text.unitsOfChar c ++ Text.toUnits s = _
        rw [hu, hunits]
        rfl
  rw [Text.ofUnits_toUnits]
  exact ⟨hs, rfl⟩

/-! ## What a template puts below a directory -/

namespace Rewrite
open Pattern

/-- What is put in for the first group of a match. -/
def insertedText (groupCount : Nat) (path : String) (m : Match) : List Char :=
  Text.ofUnits (expand (Text.toUnits "$1".toList) (m.groups (pathInput path)) groupCount)

variable {pattern : Compiled} {dir path : String} {groupCount : Nat} {m : Match}

theorem mem_of_mem_slice {input : Array CodeUnit} {span : Span} {u : CodeUnit}
    (h : u ∈ slice input span) : u ∈ input.toList := by
  rw [slice_eq_take_drop] at h
  exact List.mem_of_mem_drop (List.mem_of_mem_take h)

/-- What a group captured comes from the input. -/
theorem mem_of_mem_groupText {input : Array CodeUnit} {i : Nat} {u : CodeUnit}
    (h : u ∈ groupText (m.groups input) i) : u ∈ input.toList := by
  rw [groupText, Match.groups] at h
  cases i with
  | zero => exact mem_of_mem_slice h
  | succ i =>
    rw [List.getElem?_cons_succ, List.getElem?_map] at h
    cases hcapture : m.captures[i]? with
    | none => simp [hcapture] at h
    | some capture =>
      cases capture with
      | none => simp [hcapture] at h
      | some span =>
        rw [hcapture] at h
        exact mem_of_mem_slice h

/-- What is put in is a text that a path can hold. -/
theorem insertedText_spec (groupCount : Nat) (hpath : IsPathText path.toList) (m : Match) :
    IsPathText (insertedText groupCount path m) ∧
      Text.toUnits (insertedText groupCount path m) =
        expand (Text.toUnits "$1".toList) (m.groups (pathInput path)) groupCount := by
  refine pathText_of_units fun u hu => ?_
  rcases mem_expand hu with hu | ⟨i, hu⟩
  · refine isPathUnit_of_mem (fun c hc => .inr ?_) hu
    exact List.all_eq_true.mp (by decide : "$1".toList.all Url.isSegmentChar = true) c hc
  · have hmem := mem_of_mem_groupText hu
    exact isPathUnit_of_mem hpath hmem

theorem dollar_not_mem_toUnits (hdir : IsDirectory dir) : dollar ∉ Text.toUnits dir.toList := by
  intro hmem
  obtain ⟨c, hc, hunits⟩ := List.mem_flatMap.mp hmem
  obtain rfl : '$' = c := Text.eq_of_mem_unitsOfChar hunits rfl rfl
  rcases hdir.plain '$' hc with h | h
  · exact absurd h (by decide)
  · exact h.ne (by decide) rfl

/-- A pattern that matches the whole path leaves the directory, with what is put in behind it,
    for each match. -/
theorem apply_of_whole_match (groupCount : Nat) (hdir : IsDirectory dir) (hpath : IsPathText path.toList)
    (hmatch : pattern.matchAt (pathInput path) 0 = some m)
    (hwhole : m.stop = (pathInput path).size) :
    (Rewrite.template pattern (dir ++ "$1") groupCount).apply path =
      String.ofList ((pattern.matchAll (pathInput path)).flatMap fun m' =>
        dir.toList ++ insertedText groupCount path m') := by
  have hunits (m' : Match) :
      expand (Text.toUnits (dir ++ "$1").toList) (m'.groups (pathInput path)) groupCount =
        Text.toUnits (dir.toList ++ insertedText groupCount path m') := by
    rw [String.toList_append, Text.toUnits_append, expand_append (dollar_not_mem_toUnits hdir),
      Text.toUnits_append, (insertedText_spec groupCount hpath m').2]
  rw [apply, applyTemplate_of_whole_match pattern _ groupCount hmatch (by simpa [pathInput] using hwhole)]
  have hall : ((pattern.matchAll (pathInput path)).flatMap fun m' =>
      expand (Text.toUnits (dir ++ "$1").toList) (m'.groups (pathInput path)) groupCount) =
        Text.toUnits ((pattern.matchAll (pathInput path)).flatMap fun m' =>
          dir.toList ++ insertedText groupCount path m') := by
    simp only [hunits]
    exact List.flatMap_assoc.symm
  rw [← pathInput, hall, Text.ofUnits_toUnits]

/-- Where texts are put below the directory, a piece is a name of the directory or belongs to
    one of the texts. -/
theorem mem_slashPieces_flatMap (hdir : IsDirectory dir) {text : Match → List Char}
    {ms : List Match} {front piece : List Char}
    (h : piece ∈ slashPieces true (front ++ ms.flatMap fun m => dir.toList ++ text m)) :
    piece ∈ slashPieces true front ∨ piece ∈ dirNames dir ∨
      ∃ m ∈ ms, piece ∈ slashPieces true (text m) := by
  induction ms generalizing front with
  | nil =>
    rw [List.flatMap_nil, List.append_nil] at h
    exact .inl h
  | cons m ms ih =>
    rw [List.flatMap_cons, List.append_assoc, hdir.slashPieces_between] at h
    rcases List.mem_append.mp h with h | h
    · exact .inl h
    · rcases List.mem_append.mp h with h | h
      · exact .inr (.inl h)
      · rcases ih h with h | h | ⟨m', hm', h⟩
        · exact .inr (.inr ⟨m, List.mem_cons_self, h⟩)
        · exact .inr (.inl h)
        · exact .inr (.inr ⟨m', List.mem_cons_of_mem m hm', h⟩)

end Rewrite

open Rewrite (pathInput insertedText)

/-- The rewritten path is the directory and a text behind it. Its pieces are those of the texts
    that are put in, and names of the directory if there is more than one match. -/
theorem Rule.rewritten_below {rule : Rule} {pattern : Pattern.Compiled} {dir path : String}
    {groupCount : Nat} {m : Pattern.Match}
    (hrewrite : rule.rewrite = .template pattern (dir ++ "$1") groupCount)
    (hdir : IsDirectory dir) (hpath : IsPathText path.toList)
    (hmatch : pattern.matchAt (pathInput path) 0 = some m)
    (hwhole : m.stop = (pathInput path).size) :
    ∃ behind, (rule.rewritten path).toList = dir.toList ++ behind ∧ IsPathText behind ∧
      ∀ piece ∈ slashPieces true behind, piece = [] ∨ piece ∈ dirNames dir ∨
        ∃ m' ∈ pattern.matchAll (pathInput path),
          piece ∈ slashPieces true (insertedText groupCount path m') := by
  obtain ⟨ms, hms⟩ := Pattern.Compiled.exists_matchAll_of_matchAt hmatch
  have happly := Rewrite.apply_of_whole_match groupCount hdir hpath hmatch hwhole
  generalize htext : insertedText groupCount path m ++ ms.flatMap (fun m' =>
    dir.toList ++ insertedText groupCount path m') = text
  have hrewritten : (rule.rewritten path).toList =
      dir.toList ++ (RequestPath.collapse ('/' :: text)).tail := by
    rw [Rule.rewritten, hrewrite, happly, hms, List.flatMap_cons, List.append_assoc, htext,
      RequestPath.toList_normalize, String.toList_ofList,
      RequestPath.canonical_append_of_getLast? hdir.toList_canonical hdir.last]
  have hplain : IsPathText text := by
    rw [← htext]
    intro c hc
    rcases List.mem_append.mp hc with hc | hc
    · exact (Rewrite.insertedText_spec groupCount hpath m).1 c hc
    · obtain ⟨m', -, hc⟩ := List.mem_flatMap.mp hc
      rcases List.mem_append.mp hc with hc | hc
      · exact hdir.isPathText c hc
      · exact (Rewrite.insertedText_spec groupCount hpath m').1 c hc
  refine ⟨_, hrewritten, fun c hc => ?_, fun piece hp => ?_⟩
  · have hmem := RequestPath.mem_of_mem_collapse (List.mem_of_mem_tail hc)
    rcases List.mem_cons.mp hmem with rfl | hmem
    · exact .inl rfl
    · exact hplain c hmem
  · -- canonical form brings in no piece
    obtain ⟨first, more, others, hmore, hothers, hsub⟩ :=
      RequestPath.slashPieces_collapse ('/' :: text)
    rw [RequestPath.collapse_cons, Url.slashPieces_cons_slash rfl] at hmore
    rw [Url.slashPieces_cons_slash rfl] at hothers
    have hmem := hsub piece ((List.cons.inj hmore).2 ▸ hp)
    rw [← (List.cons.inj hothers).2, ← htext] at hmem
    rcases Rewrite.mem_slashPieces_flatMap hdir hmem with h | h | ⟨m', hm', h⟩
    · exact .inr (.inr ⟨m, by rw [hms]; exact List.mem_cons_self, h⟩)
    · exact .inr (.inl h)
    · exact .inr (.inr ⟨m', by rw [hms]; exact List.mem_cons_of_mem m hm', h⟩)

namespace Middleware
open Scripted

/-- The path that the forwarder is given is the rewritten one, read below the target. -/
theorem PassesOn.toList_pathname {rules : RuleSet} {request : Request} {rule : Rule}
    {base url : Url} (hon : PassesOn rules request rule base url)
    (hplain : IsPathText (rule.rewritten request.canonicalPath).toList)
    (hdrive : ¬base.IsBelowDrive) :
    ∃ rest, (rule.rewritten request.canonicalPath).toList = '/' :: rest ∧
      url.pathname.toList = (Url.readSegments base.scheme [] rest).flatMap fun s => '/' :: s := by
  obtain ⟨rest, hrest, hhead⟩ :=
    RequestPath.canonical_eq_cons (rule.rewrite.apply request.canonicalPath).toList
  have hrooted : (rule.rewritten request.canonicalPath).toList = '/' :: rest := by
    rw [Rule.rewritten, RequestPath.toList_normalize, hrest]
  obtain ⟨-, resolved, hparse, hurl⟩ := outbound?_eq_some_iff.mp hon.outbound
  obtain ⟨a, rfl⟩ := Url.parse?_below hrooted hplain hhead hdrive hparse
  refine ⟨rest, hrooted, ?_⟩
  rw [← Url.toList_pathname_make base.scheme a _ none none, ← hurl]
  split
  · rw [Url.pathname_withSearch_make]
  · rfl

/-- A request whose path is matched as a whole is given to the forwarder with a path that begins
    with the directory exactly if its rewritten path is kept as it is written, or if the text
    behind the directory, resolved below it, leaves its names in front: so whenever that text
    leads nowhere above the directory. It does not if the path of the request has no dot segment
    and the texts that are put in consist of whole segments of it. A target that is a file below
    a drive puts every path below the drive. -/
theorem template_confines_iff {rules : RuleSet} {request r : Request} {rule : Rule} {base : Url}
    {f : ForwardScript} {n : Script} {inbound : Stream} {pattern : Pattern.Compiled}
    {dir : String} {groupCount : Nat} {m : Pattern.Match}
    (hparsed : Url.Parsed request.url) (hweb : request.url.IsWeb)
    (hchosen : rules.resolve request.canonicalPath = some rule)
    (hrewrite : rule.rewrite = .template pattern (dir ++ "$1") groupCount)
    (hdir : IsDirectory dir)
    (hmatch : pattern.matchAt (pathInput request.canonicalPath) 0 = some m)
    (hwhole : m.stop = (pathInput request.canonicalPath).size)
    (hdrive : ¬base.IsBelowDrive)
    (h : Event.forwarded base (some r) ∈
      (proxy rules (forwarder f) (handler n) request (.begin inbound)).2.journal) :
    ∃ behind, (rule.rewritten request.canonicalPath).toList = dir.toList ++ behind ∧
      (Url.staysBelow 0 (slashPieces true behind) = true →
        dir.toList <+: r.url.pathname.toList) ∧
      (dir.toList <+: r.url.pathname.toList ↔
        Url.isVerbatim base.scheme (rule.rewritten request.canonicalPath).toList.tail = true ∨
          ∃ name more, Url.addPieces base.scheme (dirNames dir) (slashPieces true behind) =
            dirNames dir ++ name :: more) ∧
      (request.url.IsResolved →
        (∀ m' ∈ pattern.matchAll (pathInput request.canonicalPath),
          ∀ piece ∈ slashPieces true (insertedText groupCount request.canonicalPath m'),
            piece = [] ∨ piece ∈ slashPieces true request.canonicalPath.toList) →
        Url.staysBelow 0 (slashPieces true behind) = true) := by
  obtain ⟨rule', url, hon, rfl⟩ := passesOn_of_forwarded f n h
  obtain rfl : rule = rule' := Option.some.inj (hchosen.symm.trans hon.chosen)
  have hsettled := hparsed.settled hweb.isHierarchic
  have hpath := Request.isPathText_canonicalPath hsettled
  obtain ⟨behind, hbehind, htext, hpieces⟩ :=
    Rule.rewritten_below hrewrite hdir hpath hmatch hwhole
  have hplain : IsPathText (rule.rewritten request.canonicalPath).toList := by
    rw [hbehind]
    intro c hc
    exact (List.mem_append.mp hc).elim (hdir.isPathText c) (htext c)
  obtain ⟨rest, hrest, hpathname⟩ := hon.toList_pathname hplain hdrive
  rw [hrest] at hplain
  have hiff := Url.directory_prefix_readSegments_iff hdir (hrest.symm.trans hbehind) hplain
    base.scheme
  rw [← hpathname] at hiff
  have hbelow (hstays : Url.staysBelow 0 (slashPieces true behind) = true) :
      ∃ name more, Url.addPieces base.scheme (dirNames dir ++ []) (slashPieces true behind) =
        dirNames dir ++ name :: more :=
    Url.addPieces_of_staysBelow _ (Url.slashPieces_ne_nil true behind) (Nat.le_refl 0) hstays
  rw [List.append_nil] at hbelow
  refine ⟨behind, hbehind, fun hstays => hiff.mpr (.inr (hbelow hstays)), ?_,
    fun hresolved hsegments => ?_⟩
  · rw [hrest]
    exact hiff
  · refine Url.staysBelow_of_resolved (fun piece hp => ?_) 0
    rcases hpieces piece hp with rfl | hname | ⟨m', hm', hinserted⟩
    · decide
    · exact ⟨(hdir.isName hname).not_single, (hdir.isName hname).not_double⟩
    · rcases hsegments m' hm' piece hinserted with rfl | hmem
      · decide
      · exact Request.areResolved_canonicalPath hsettled hresolved piece hmem

/-- The pattern `/api(.*)`. -/
def apiPattern : Pattern.Compiled where
  node := .seq (.unit 0x2F) (.seq (.unit 0x61) (.seq (.unit 0x70) (.seq (.unit 0x69)
    (.seq (.capture 1 (.seq (.loop ⟨0, none, true⟩ 1 1 .any) .empty)) .empty))))
  groups := 1
  names := []

/-- Puts what follows `/api` below `/static/`. -/
def staticRule (target : String) : Rule := ⟨.literal "/api", target, .template apiPattern "/static/$1" 1⟩

theorem ofEntry_static (target : String) :
    Rule.ofEntry ⟨"/api", target, some (.text "/api(.*) -> /static/$1")⟩ =
      (.ok (staticRule target), []) := by
  have hrewrite : Rewrite.ofSetting "/api" (some (.text "/api(.*) -> /static/$1")) =
      (.ok (.template apiPattern "/static/$1" 1), []) := rfl
  have hselector : Selector.ofKey "/api" = (.literal "/api", []) := rfl
  simp [Rule.ofEntry, hrewrite, hselector, staticRule]

theorem isDirectory_static : IsDirectory "/static/" := by decide

theorem apiRequest_passesOn_static :
    PassesOn [staticRule "http://backend.test:5000"] apiRequest
      (staticRule "http://backend.test:5000") apiBase
      { apiBase with path := .segments ["static", "items"] } :=
  ⟨rfl, rfl, by decide +kernel⟩

/-- A request for an item stays below the directory. -/
theorem apiRequest_confined :
    Event.forwarded apiBase
        (some (apiRequest.withUrl { apiBase with path := .segments ["static", "items"] })) ∈
      (proxy [staticRule "http://backend.test:5000"] (forwarder (.each (.respond ⟨200, [], .none⟩)))
        (handler (.respond ⟨404, [], .none⟩)) apiRequest (.begin .empty)).2.journal ∧
    "/static/".toList <+:
      ({ apiBase with path := .segments ["static", "items"] } : Url).pathname.toList := by
  have hmem := forwarded_of_passesOn (.respond ⟨404, [], .none⟩) (.begin .empty)
    (.respond ⟨200, [], .none⟩) apiRequest_passesOn_static
  have hparsed : Url.Parsed apiRequest.url := .alone (s := "http://localhost/api/items") rfl
  have hmatch : apiPattern.matchAt (pathInput apiRequest.canonicalPath) 0 =
      some ⟨0, 10, [some (4, 10)]⟩ := rfl
  have hrewritten : (staticRule "http://backend.test:5000").rewritten apiRequest.canonicalPath =
      "/static/items" := by decide +kernel
  obtain ⟨behind, hbehind, hstays, -, -⟩ :=
    template_confines_iff hparsed (.inl rfl) apiRequest_passesOn_static.chosen rfl
      isDirectory_static hmatch rfl (fun hdrive => absurd hdrive.1 (by decide)) hmem
  refine ⟨hmem, hstays ?_⟩
  rw [hrewritten] at hbehind
  have hcancel : "/static/".toList ++ "items".toList = "/static/".toList ++ behind := hbehind
  rw [← List.append_cancel_left hcancel]
  decide

/-- A request whose first segment goes on behind the match. -/
def climbingRequest : Request where
  method := "GET"
  url := ⟨"http", "", "", some (.name "localhost"), none, .segments ["api..", "secret"], none, none⟩
  headers := []
  context := .object []

/-- A file below a drive. -/
def driveBase : Url :=
  ⟨"file", "", "", some (.other ""), none, .segments ["C:", "www"], none, none⟩

/-- The group begins in the middle of a segment, with two dots, which lead above the directory.
    And below a drive nothing lies in the directory. -/
theorem climbing_capture_leaves_directory :
    (∀ target, Rule.ofEntry ⟨"/api", target, some (.text "/api(.*) -> /static/$1")⟩ =
      (.ok (staticRule target), [])) ∧
    (Url.parse? "http://localhost/api../secret" none = some climbingRequest.url ∧
      apiPattern.matchAt (pathInput climbingRequest.canonicalPath) 0 =
        some ⟨0, 13, [some (4, 13)]⟩ ∧
      (pathInput climbingRequest.canonicalPath).size = 13 ∧
      Event.forwarded apiBase
          (some (climbingRequest.withUrl { apiBase with path := .segments ["secret"] })) ∈
        (proxy [staticRule "http://backend.test:5000"]
          (forwarder (.each (.respond ⟨200, [], .none⟩)))
          (handler (.respond ⟨404, [], .none⟩)) climbingRequest (.begin .empty)).2.journal ∧
      ¬"/static/".toList <+:
        ({ apiBase with path := .segments ["secret"] } : Url).pathname.toList) ∧
    Event.forwarded driveBase
        (some (apiRequest.withUrl { driveBase with path := .segments ["C:", "static", "items"] })) ∈
      (proxy [staticRule "file:///C:/www"] (forwarder (.each (.respond ⟨200, [], .none⟩)))
        (handler (.respond ⟨404, [], .none⟩)) apiRequest (.begin .empty)).2.journal ∧
    ¬"/static/".toList <+:
      ({ driveBase with path := .segments ["C:", "static", "items"] } : Url).pathname.toList := by
  have hclimbs : PassesOn [staticRule "http://backend.test:5000"] climbingRequest
      (staticRule "http://backend.test:5000") apiBase
      { apiBase with path := .segments ["secret"] } :=
    ⟨rfl, rfl, by decide +kernel⟩
  have hdrive : PassesOn [staticRule "file:///C:/www"] apiRequest (staticRule "file:///C:/www")
      driveBase { driveBase with path := .segments ["C:", "static", "items"] } :=
    ⟨rfl, rfl, by decide +kernel⟩
  refine ⟨ofEntry_static, ⟨rfl, rfl, rfl, forwarded_of_passesOn _ _ _ hclimbs, ?_⟩,
    forwarded_of_passesOn _ _ _ hdrive, ?_⟩
  · decide
  · decide

end Middleware

end Gateway
