import Gateway.Proofs.HostHeader
import Gateway.Proofs.Url.Below
import Gateway.Proofs.Url.PlainHost

/- Targets that are kept as they are written. Behind a plain domain name, a target with a slash in
   front, without dot segments and without characters that are escaped, is the path and the query of
   the URL character for character, however many slashes it has and wherever they stand
   (`Incoming.request?_keeps_target`). -/
namespace Gateway

namespace Url

/-! ## Dot segments as they are written -/

/-- A dot as a path can spell it. -/
inductive IsDot : List Char → Prop
  | plain : IsDot ['.']
  | escaped (c : Char) (hc : c = 'e' ∨ c = 'E') : IsDot ['%', '2', c]

/-- One dot, for the directory that the segment is in, or two, for the one above. -/
def IsDotSegment (s : List Char) : Prop := IsDot s ∨ ∃ a b, IsDot a ∧ IsDot b ∧ s = a ++ b

theorem dots_eq_nil_iff {s : List Char} : dots s = [] ↔ s = [] := by
  constructor
  · intro h
    cases s with
    | nil => rfl
    | cons c rest =>
      by_cases hc : c = '%'
      · subst hc
        rcases dots_percent rest with hhead | ⟨e, more, -, -, hdots⟩
        · rw [h] at hhead
          cases hhead
        · rw [h] at hdots
          cases hdots
      · rw [dots_other hc] at h
        cases h
  · rintro rfl
    rfl

theorem dots_append_of_isDot {a : List Char} (h : IsDot a) (s : List Char) :
    dots (a ++ s) = '.' :: dots s := by
  cases h with
  | plain => exact dots_other (by decide) s
  | escaped c hc => simp [dots, hc]

theorem dots_eq_cons_iff {s t : List Char} :
    dots s = '.' :: t ↔ ∃ a b, IsDot a ∧ s = a ++ b ∧ dots b = t := by
  constructor
  · intro h
    cases s with
    | nil => cases h
    | cons c rest =>
      by_cases hc : c = '%'
      · subst hc
        rcases dots_percent rest with hhead | ⟨e, more, rfl, he, hdots⟩
        · rw [h] at hhead
          cases hhead
        · rw [h] at hdots
          exact ⟨['%', '2', e], more, .escaped e he, rfl, (List.cons.inj hdots).2.symm⟩
      · rw [dots_other hc] at h
        obtain ⟨rfl, hrest⟩ := List.cons.inj h
        exact ⟨['.'], rest, .plain, rfl, hrest⟩
  · rintro ⟨a, b, ha, rfl, rfl⟩
    exact dots_append_of_isDot ha b

theorem isSingleDot_iff {s : List Char} : isSingleDot s = true ↔ IsDot s := by
  rw [isSingleDot, beq_iff_eq, dots_eq_cons_iff]
  constructor
  · rintro ⟨a, b, ha, rfl, hb⟩
    rwa [dots_eq_nil_iff.mp hb, List.append_nil]
  · intro h
    exact ⟨s, [], h, (List.append_nil s).symm, rfl⟩

theorem isDoubleDot_iff {s : List Char} :
    isDoubleDot s = true ↔ ∃ a b, IsDot a ∧ IsDot b ∧ s = a ++ b := by
  rw [isDoubleDot, beq_iff_eq, dots_eq_cons_iff]
  constructor
  · rintro ⟨a, b, ha, rfl, hb⟩
    exact ⟨a, b, ha, isSingleDot_iff.mp (beq_iff_eq.mpr hb), rfl⟩
  · rintro ⟨a, b, ha, hb, rfl⟩
    exact ⟨a, b, ha, rfl, beq_iff_eq.mp (isSingleDot_iff.mpr hb)⟩

theorem isDotSegment_iff {s : List Char} :
    IsDotSegment s ↔ isSingleDot s = true ∨ isDoubleDot s = true :=
  (isSingleDot_iff.or isDoubleDot_iff).symm

instance (s : List Char) : Decidable (IsDotSegment s) := decidable_of_iff' _ isDotSegment_iff

/-! ## The parts of a target -/

/-- A path that is written as it is kept: rooted, with characters that need no escape, without
    backslashes and without dot segments. -/
structure IsVerbatimPath (path : List Char) : Prop where
  rooted : path.head? = some '/'
  chars : ∀ c ∈ path, inPathSet c = false ∧ c ≠ '\\'
  segments : ∀ segment ∈ path.splitOn '/', ¬ IsDotSegment segment

theorem slashPieces_eq_splitOn {s : List Char} (h : '\\' ∉ s) : slashPieces true s = s.splitOn '/' := by
  induction s with
  | nil => rfl
  | cons c rest ih =>
    have hc : c ≠ '\\' := Ne.symm (List.ne_of_not_mem_cons h)
    have hrest := ih (List.not_mem_of_not_mem_cons h)
    rw [List.splitOn_cons_eq_if_modifyHead, ← hrest]
    by_cases hslash : c = '/'
    · simp [hslash, slashPieces_cons_slash (show isSlash true '/' = true from rfl)]
    · have hother : isSlash true c = false := by simp [isSlash, hslash, hc]
      rw [slashPieces_cons_other hother, Text.consPiece_eq_modifyHead c (slashPieces_ne_nil true rest)]
      simp [hslash]

theorem IsVerbatimPath.isPathText {path : List Char} (h : IsVerbatimPath path) : IsPathText path := by
  intro c hc
  obtain ⟨hset, hback⟩ := h.chars c hc
  by_cases hslash : c = '/'
  · exact .inl hslash
  · exact .inr (isSegmentChar_iff.mpr ⟨hset, by simp [isSlash, hslash, hback]⟩)

theorem IsVerbatimPath.areResolved {path : List Char} (h : IsVerbatimPath path) :
    AreResolved (slashPieces true path) := by
  intro segment hm
  rw [slashPieces_eq_splitOn fun hback => (h.chars _ hback).2 rfl] at hm
  have hdots := h.segments segment hm
  rw [isDotSegment_iff, not_or] at hdots
  exact hdots.imp Bool.eq_false_iff.mpr Bool.eq_false_iff.mpr

/-- The segments behind an authority are the pieces of the path, empty ones included. -/
theorem IsVerbatimPath.flatMap_segments {path : List Char} (h : IsVerbatimPath path) :
    (segmentsAfterAuthority "http" path).flatMap (fun s => '/' :: s) = path := by
  obtain ⟨rest, rfl⟩ := List.head?_eq_some_iff.mp h.rooted
  have hs : IsHierarchic "http" := by constructor <;> decide
  have hrest : IsPathText rest := fun c hc => h.isPathText c (List.mem_cons_of_mem _ hc)
  have hback : '\\' ∉ rest := fun hm => (hrest.isPlain hm).ne_backslash rfl
  have hresolved : AreResolved (slashPieces true rest) := by
    intro segment hm
    refine h.areResolved segment ?_
    rw [slashPieces_cons_slash rfl]
    exact List.mem_cons_of_mem _ hm
  calc (segmentsAfterAuthority "http" ('/' :: rest)).flatMap (fun s => '/' :: s)
      = (readSegments "http" [] rest).flatMap (fun s => '/' :: s) := rfl
    _ = (slashPieces true rest).flatMap (fun s => '/' :: s) := by
      rw [readSegments_of_resolved hs hrest.areSegments hresolved]
    _ = '/' :: rest := flatMap_slashPieces hback

section
variable {path : List Char} (hpath : IsVerbatimPath path) {query : Option (List Char)}
  (hquery : ∀ q ∈ query, IsQuery q)
include hpath hquery

theorem target_chars : ∀ c ∈ path ++ marked '?' query, ¬ c.toNat ≤ 0x20 ∧ c ≠ '#' := by
  intro c hc
  rcases List.mem_append.mp hc with hc | hc
  · have hplain := hpath.isPathText.isPlain hc
    exact ⟨of_decide_eq_false hplain.not_edge, hplain.ne_hash⟩
  · cases query with
    | none => cases hc
    | some q =>
      rcases List.mem_cons.mp hc with rfl | hc
      · decide
      · refine ⟨not_le_of_not_inSpecialQuerySet (hquery q rfl c hc), ?_⟩
        rintro rfl
        exact absurd (hquery q rfl _ hc) (by decide)

/-- A target falls apart into its path and its query. -/
theorem parts_target : Parts.of (clean (path ++ marked '?' query)) = ⟨path, query, none⟩ := by
  have hchars := target_chars hpath hquery
  have hquestion : '?' ∉ path := fun hm => (hpath.isPathText.isPlain hm).ne_question rfl
  rw [clean_of_forall fun c hc => (hchars c hc).1, parts_of_not_mem fun hm => (hchars _ hm).2 rfl]
  cases query with
  | none => simp [marked, cutAtChar_of_not_mem hquestion]
  | some q => simp [marked, cutAtChar_append hquestion]

end

/-! ## Plain hosts -/

theorem isSegmentChar_of_mem_plainHost {domain : List Char} (hdomain : IsPlainDomain domain)
    {port : Option (List Char)} (hport : ∀ digits ∈ port, IsPortText digits) :
    ∀ c ∈ domain ++ marked ':' port, isSegmentChar c = true :=
  isSegment_host (fun _ => hdomain.isHostChar) hport

theorem endsAuthority_of_isSegmentChar {c : Char} (h : isSegmentChar c = true) :
    endsAuthority c = false := by
  have hplain := isPlain_of_isSegmentChar h
  simp [endsAuthority, (isSegmentChar_iff.mp h).2, hplain.ne_question, hplain.ne_hash]

section
variable {host : String} (h : ∀ c ∈ host.toList, isSegmentChar c = true)
include h

/-- A host value that cuts nothing is the authority that it names. -/
theorem hostAuthority_of_segmentChars : hostAuthority host = host.toList := by
  have hkept : (host.toList.filter fun c => !isDropped c) = host.toList := by
    rw [List.filter_eq_self]
    intro c hc
    rw [(isPlain_of_isSegmentChar (h c hc)).not_dropped]
    rfl
  rw [hostAuthority, readHost, hkept,
    dropWhile_of_forall fun c hc => (isSegmentChar_iff.mp (h c hc)).2, List.takeWhile_eq_self_iff]
  intro c hc
  rw [endsAuthority_of_isSegmentChar (h c hc)]
  rfl

/-- It has nothing behind it. -/
theorem behindAuthority_of_segmentChars (hne : host.toList ≠ []) :
    behindAuthority host = some [] := by
  refine behindAuthority_of_plain (List.all_eq_true.mpr fun c hc => ?_) ?_
  · rw [endsAuthority_of_isSegmentChar (h c hc)]
    rfl
  · obtain ⟨c, hc⟩ := List.exists_mem_of_ne_nil _ hne
    refine List.any_eq_true.mpr ⟨c, hc, ?_⟩
    rw [(isPlain_of_isSegmentChar (h c hc)).not_dropped]
    rfl

end

theorem search_make_kept (a : Authority) (path : List (List Char)) {query : Option (List Char)}
    (hquery : ∀ q ∈ query, IsQuery q) (fragment : Option String) :
    (make "http" a path (query.map (keptQuery "http")) fragment).search =
      String.ofList (marked '?' (query.filter (· ≠ []))) := by
  cases query with
  | none => rfl
  | some q =>
    have hkept : keptQuery "http" q = String.ofList q := by
      rw [keptQuery, show isSpecialScheme "http" = true from rfl, if_pos rfl,
        encode_of_forall (hquery q rfl)]
    have hsearch : (make "http" a path (some (keptQuery "http" q)) fragment).search =
        if keptQuery "http" q = "" then "" else "?" ++ keptQuery "http" q := rfl
    rw [Option.map_some, hsearch, hkept]
    by_cases hempty : q = []
    · rw [hempty]
      rfl
    · have hne : String.ofList q ≠ "" := fun heq => hempty (String.ofList_injective heq)
      have hfilter : (some q).filter (· ≠ []) = some q :=
        Option.filter_some_pos (by simpa using hempty)
      rw [if_neg hne, hfilter]
      exact String.toList_inj.mp (by simp [marked])

end Url

/-- Behind a plain domain name, with a port or without, the path and the query of a target are those
    of the URL character for character, and the target is not read as a host. -/
theorem Incoming.request?_keeps_target {i : Incoming} {domain path : List Char}
    {port query : Option (List Char)} (hdomain : Url.IsPlainDomain domain)
    (hport : ∀ digits ∈ port, Url.IsPortText digits) (hpath : Url.IsVerbatimPath path)
    (hquery : ∀ q ∈ query, Url.IsQuery q)
    (hhost : i.headers.given? "host" = some (String.ofList (domain ++ Url.marked ':' port)))
    (htarget : i.target = some (String.ofList (path ++ Url.marked '?' query))) :
    ∃ r, i.request? = some r ∧ r.url.host = some (.name (String.ofList domain)) ∧
      r.url.pathname = String.ofList path ∧
      r.url.search = String.ofList (Url.marked '?' (query.filter (· ≠ []))) := by
  obtain ⟨rest, hrest⟩ := List.head?_eq_some_iff.mp hpath.rooted
  have hlist : (i.target.getD "/").toList = path ++ Url.marked '?' query := by
    rw [htarget, Option.getD_some, String.toList_ofList]
  have hrooted : (i.target.getD "/").toList = '/' :: (rest ++ Url.marked '?' query) := by
    rw [hlist, hrest, List.cons_append]
  have hhostList : i.hostText.toList = domain ++ Url.marked ':' port := by
    rw [Incoming.hostText, hhost, Option.getD_some, String.toList_ofList]
  have hchars : ∀ c ∈ i.hostText.toList, Url.isSegmentChar c = true := by
    rw [hhostList]
    exact Url.isSegmentChar_of_mem_plainHost hdomain hport
  have hne : i.hostText.toList ≠ [] := by
    rw [hhostList]
    exact List.append_ne_nil_of_left_ne_nil hdomain.ne_nil _
  have hurl : i.url? = some (Url.make "http"
      ⟨"", "", some (.name (String.ofList domain)), port.bind (Url.keptPort "http")⟩
      (Url.segmentsAfterAuthority "http" path) (query.map (Url.keptQuery "http")) none) := by
    rw [Incoming.url?_rooted hrooted,
      Url.ofText?_host hrooted (Url.behindAuthority_of_segmentChars hchars hne),
      Url.hostAuthority_of_segmentChars hchars, hhostList, hlist, List.nil_append,
      Url.parts_target hpath hquery, Url.readAuthority_plain rfl hdomain hport]
    rfl
  refine ⟨_, Incoming.request?_eq_some_iff.mpr ⟨_, hurl, rfl⟩, rfl, ?_,
    Url.search_make_kept _ _ hquery none⟩
  apply String.toList_inj.mp
  rw [Url.toList_pathname_make, hpath.flatMap_segments, String.toList_ofList]

/-- A target with two slashes in front, which would be read as a host behind a scheme. -/
def doubledSlashes : Incoming :=
  ⟨some "//other.test:80//a@b/...?c=/../d", some "GET", [("host", .text "dev.test:3000")]⟩

theorem doubledSlashes_kept :
    ∃ r, doubledSlashes.request? = some r ∧ r.url.host = some (.name "dev.test") ∧
      r.url.pathname = "//other.test:80//a@b/..." ∧ r.url.search = "?c=/../d" := by
  have hdomain : Url.IsPlainDomain "dev.test".toList :=
    ⟨by decide, List.all_eq_true.mp (by decide)⟩
  have hport : ∀ digits ∈ some "3000".toList, Url.IsPortText digits := by
    rintro _ ⟨⟩
    exact ⟨List.all_eq_true.mp (by decide), by decide⟩
  have hchars : ("//other.test:80//a@b/...".toList.all fun c => !Url.inPathSet c && c != '\\') =
      true := by decide
  have hpath : Url.IsVerbatimPath "//other.test:80//a@b/...".toList :=
    ⟨by decide, fun c hc => by simpa using List.all_eq_true.mp hchars c hc, by decide⟩
  have hkept : ("c=/../d".toList.all fun c => !Url.inSpecialQuerySet c) = true := by decide
  have hquery : ∀ q ∈ some "c=/../d".toList, Url.IsQuery q := by
    rintro _ ⟨⟩ c hc
    simpa using List.all_eq_true.mp hkept c hc
  exact Incoming.request?_keeps_target (i := doubledSlashes) hdomain hport hpath hquery (by decide)
    (by decide)

end Gateway
