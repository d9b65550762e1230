import Gateway.Proofs.RequestPath
import Gateway.Proofs.Url.Resolved
import Gateway.Proofs.Url.Rooted

/- Paths below a directory. A text that begins with the names of a directory is read below any
   base as these names first and then the rest behind them (`addPieces_names`). The rest can
   only take names away by leading above where it starts; if it does not, the directory stays
   in front (`addPieces_of_staysBelow`). The written path begins with the directory exactly if
   its segments begin with the names (`directory_prefix_iff`). -/
namespace Gateway.Url

/-! ## Directories -/

/-- A letter, a digit, a dash or an underscore. -/
def IsNameChar (c : Char) : Prop := c.isAlphanum = true ∨ c = '-' ∨ c = '_'

instance (c : Char) : Decidable (IsNameChar c) :=
  inferInstanceAs (Decidable (c.isAlphanum = true ∨ c = '-' ∨ c = '_'))

/-- A canonical path that ends with a slash and consists of plain characters. -/
structure IsDirectory (dir : String) : Prop where
  canonical : RequestPath.normalize dir = dir
  last : dir.toList.getLast? = some '/'
  plain : ∀ c ∈ dir.toList, c = '/' ∨ IsNameChar c

instance (dir : String) : Decidable (IsDirectory dir) :=
  decidable_of_iff (RequestPath.normalize dir = dir ∧ dir.toList.getLast? = some '/' ∧
      dir.toList.all fun c => c = '/' ∨ IsNameChar c)
    ⟨fun ⟨hcanonical, hlast, hplain⟩ =>
        ⟨hcanonical, hlast, fun c hc => of_decide_eq_true (List.all_eq_true.mp hplain c hc)⟩,
      fun h => ⟨h.canonical, h.last, List.all_eq_true.mpr fun c hc => decide_eq_true (h.plain c hc)⟩⟩

/-- The names in a directory. -/
def dirNames (dir : String) : List (List Char) := (slashPieces true dir.toList).tail.dropLast

/-- A segment that is neither escaped, nor resolved, nor taken for a drive. -/
structure IsName (s : List Char) : Prop where
  segment : IsSegment s
  not_single : isSingleDot s = false
  not_double : isDoubleDot s = false
  not_drive : isDrive s = false

theorem IsNameChar.ne {c d : Char} (h : IsNameChar c)
    (hd : d.isAlphanum = false ∧ d ≠ '-' ∧ d ≠ '_') : c ≠ d := by
  rintro rfl
  rcases h with h | h | h
  · rw [hd.1] at h
    cases h
  · exact hd.2.1 h
  · exact hd.2.2 h

theorem IsNameChar.isSegmentChar {c : Char} (h : IsNameChar c) : isSegmentChar c = true := by
  rcases h with h | rfl | rfl
  · exact isSegmentChar_of_isAlphanum h
  · decide
  · decide

theorem isName_of_forall {s : List Char} (h : ∀ c ∈ s, IsNameChar c) : IsName s := by
  have hsegment : IsSegment s := fun c hc => (h c hc).isSegmentChar
  cases s with
  | nil => exact ⟨hsegment, rfl, rfl, rfl⟩
  | cons c rest =>
    have hc := h c List.mem_cons_self
    have hdot : c ≠ '.' := hc.ne (by decide)
    have hdots : dots (c :: rest) = c :: dots rest := dots_other (hc.ne (by decide)) rest
    refine ⟨hsegment, ?_, ?_, ?_⟩
    · simp [isSingleDot, hdots, hdot]
    · simp [isDoubleDot, hdots, hdot]
    · rcases rest with _ | ⟨d, _ | _⟩
      · rfl
      · have hd := h d (by simp)
        simp [isDrive, isDriveMark, hd.ne (d := ':') (by decide), hd.ne (d := '|') (by decide)]
      · rfl

section
variable {dir : String} (h : IsDirectory dir)
include h

theorem IsDirectory.toList_canonical : RequestPath.canonical dir.toList = dir.toList := by
  rw [← RequestPath.toList_normalize, h.canonical]

theorem IsDirectory.isPathText : IsPathText dir.toList := fun c hc =>
  (h.plain c hc).imp_right IsNameChar.isSegmentChar

theorem IsDirectory.not_backslash : '\\' ∉ dir.toList := fun hmem =>
  (h.isPathText.isPlain hmem).ne_backslash rfl

/-- What stands before the last slash is an empty piece and the names. -/
theorem IsDirectory.exists_front :
    ∃ front, dir.toList = front ++ ['/'] ∧ slashPieces true front = [] :: dirNames dir := by
  obtain ⟨front, hfront⟩ := List.getLast?_eq_some_iff.mp h.last
  refine ⟨front, hfront, ?_⟩
  obtain ⟨rest, hrest, -⟩ := RequestPath.canonical_eq_cons dir.toList
  rw [h.toList_canonical, hfront] at hrest
  have hcut : slashPieces true dir.toList = slashPieces true front ++ [[]] := by
    rw [hfront]
    exact slashPieces_append_slash rfl front []
  obtain ⟨more, hmore⟩ : ∃ more, slashPieces true front = [] :: more := by
    cases front with
    | nil => exact ⟨[], rfl⟩
    | cons c front =>
      obtain rfl : c = '/' := (List.cons.inj hrest).1
      exact ⟨_, slashPieces_cons_slash rfl front⟩
  rw [dirNames, hcut, hmore, List.cons_append, List.tail_cons, List.dropLast_concat]

/-- The directory is its names, each behind a slash, and a slash. -/
theorem IsDirectory.toList_eq : dir.toList = ((dirNames dir).flatMap fun s => '/' :: s) ++ ['/'] := by
  obtain ⟨front, hfront, hcut⟩ := h.exists_front
  have hback : '\\' ∉ front := fun hmem => h.not_backslash (by simp [hfront, hmem])
  have hjoin := flatMap_slashPieces hback
  rw [hcut] at hjoin
  rw [hfront, ← List.cons.inj hjoin |>.2]
  rfl

/-- A path below the directory is cut into the names and the pieces behind them. -/
theorem IsDirectory.slashPieces_append (behind : List Char) :
    slashPieces true (dir.toList ++ behind) =
      [] :: (dirNames dir ++ slashPieces true behind) := by
  obtain ⟨front, hfront, hcut⟩ := h.exists_front
  rw [hfront, List.append_assoc, List.singleton_append, slashPieces_append_slash rfl, hcut]
  rfl

/-- Behind other text the names are pieces of their own. -/
theorem IsDirectory.slashPieces_between (front behind : List Char) :
    slashPieces true (front ++ (dir.toList ++ behind)) =
      slashPieces true front ++ (dirNames dir ++ slashPieces true behind) := by
  obtain ⟨rest, hrest, -⟩ := RequestPath.canonical_eq_cons dir.toList
  rw [h.toList_canonical] at hrest
  have hcut := h.slashPieces_append behind
  rw [hrest, List.cons_append, slashPieces_cons_slash rfl] at hcut
  rw [hrest, List.cons_append, slashPieces_append_slash rfl, (List.cons.inj hcut).2]

theorem IsDirectory.isName {s : List Char} (hs : s ∈ dirNames dir) : IsName s := by
  have hmem : s ∈ slashPieces true dir.toList :=
    List.mem_of_mem_tail (List.dropLast_subset _ hs)
  refine isName_of_forall fun c hc => ?_
  obtain ⟨hdir, hslash⟩ := mem_slashPieces hmem c hc
  refine (h.plain c hdir).resolve_left ?_
  rintro rfl
  cases hslash

end

/-- The written path begins with the directory exactly if the segments begin with its names and
    there is one more. -/
theorem directory_prefix_iff {dir : String} (h : IsDirectory dir) {segments : List (List Char)}
    (hsegments : AreSegments segments) :
    dir.toList <+: (segments.flatMap fun s => '/' :: s) ↔
      ∃ name more, segments = dirNames dir ++ name :: more := by
  constructor
  · rintro ⟨behind, hbehind⟩
    have hcut := h.slashPieces_append behind
    rw [hbehind, slashPieces_flatMap fun s hs c hc => (isSegmentChar_iff.mp (hsegments s hs c hc)).2]
      at hcut
    obtain ⟨name, more, hmore⟩ := slashPieces_eq_cons true behind
    exact ⟨name, more, by rw [(List.cons.inj hcut).2, hmore]⟩
  · rintro ⟨name, more, rfl⟩
    rw [h.toList_eq, List.flatMap_append, List.flatMap_cons, List.cons_append]
    exact List.prefix_append_right_inj _ |>.mpr (List.prefix_append ['/'] _)

/-! ## Climbing -/

/-- Whether pieces lead nowhere above the place where they start, `depth` names below it: no
    front of them has more segments for the directory above than there are names. -/
def staysBelow : (depth : Nat) → List (List Char) → Bool
  | _, [] => true
  | depth, s :: rest =>
    if isDoubleDot s then 0 < depth && staysBelow (depth - 1) rest
    else if isSingleDot s then staysBelow depth rest
    else staysBelow (depth + 1) rest

theorem staysBelow_of_resolved {pieces : List (List Char)} (h : AreResolved pieces) (depth : Nat) :
    staysBelow depth pieces = true := by
  induction pieces generalizing depth with
  | nil => rfl
  | cons s rest ih =>
    obtain ⟨hsingle, hdouble⟩ := h s List.mem_cons_self
    have hrest := ih (fun t ht => h t (List.mem_cons_of_mem s ht)) (depth + 1)
    simp [staysBelow, hsingle, hdouble, hrest]

section
variable {scheme : String}

/-- Dropping a segment takes none of the names in front if there is one behind them. -/
theorem exists_shorten_append (scheme : String) (names : List (List Char))
    {below : List (List Char)} (h : below ≠ []) :
    ∃ left, shorten scheme (names ++ below) = names ++ left ∧ below.length ≤ left.length + 1 := by
  rcases List.eq_nil_or_concat below with rfl | ⟨front, last, rfl⟩
  · exact absurd rfl h
  · rw [List.concat_eq_append, ← List.append_assoc]
    unfold shorten
    split
    · next segment hone =>
      have hlength := congrArg List.length hone
      simp only [List.length_append, List.length_cons, List.length_nil] at hlength
      have hnames : names = [] := List.eq_nil_of_length_eq_zero (by omega)
      have hfront : front.length = 0 := by omega
      subst hnames
      split
      · exact ⟨[segment], rfl, by simp [hfront]⟩
      · exact ⟨[], rfl, by simp [hfront]⟩
    · exact ⟨front, by rw [List.dropLast_concat], by simp⟩

/-- One step leaves the names in front, and as many segments behind them as there may be
    segments for the directory above from then on. -/
theorem exists_addPiece_append (scheme : String) (names : List (List Char)) {s : List Char}
    {rest below : List (List Char)} {depth : Nat} (hdepth : depth ≤ below.length)
    (h : staysBelow depth (s :: rest) = true) (isLast : Bool) :
    ∃ left depth', addPiece scheme (names ++ below) s isLast = names ++ left ∧
      depth' ≤ left.length ∧ staysBelow depth' rest = true ∧ (isLast = true → left ≠ []) := by
  unfold addPiece
  rw [staysBelow] at h
  cases hdouble : isDoubleDot s with
  | true =>
    rw [hdouble, if_pos rfl, Bool.and_eq_true, decide_eq_true_eq] at h
    have hbelow : below ≠ [] := List.ne_nil_of_length_pos (by omega)
    obtain ⟨left, hleft, hlength⟩ := exists_shorten_append scheme names hbelow
    cases isLast with
    | true =>
      have habove : endAbove scheme (names ++ below) = names ++ (left ++ [[]]) := by
        simp [endAbove, hbelow, hleft]
      exact ⟨left ++ [[]], depth - 1, habove, by simp; omega, h.2, by simp⟩
    | false => exact ⟨left, depth - 1, hleft, by omega, h.2, by simp⟩
  | false =>
    rw [hdouble, if_neg Bool.false_ne_true] at h
    cases hsingle : isSingleDot s with
    | true =>
      rw [hsingle, if_pos rfl] at h
      cases isLast with
      | true => exact ⟨below ++ [[]], depth, by simp, by simp; omega, h, by simp⟩
      | false => exact ⟨below, depth, rfl, hdepth, h, by simp⟩
    | false =>
      rw [hsingle, if_neg Bool.false_ne_true] at h
      exact ⟨below ++ [keptSegment scheme (names ++ below) s], depth + 1, by simp,
        by simp [hdepth], h, by simp⟩

/-- What stays below leaves the names in front, and one segment more. -/
theorem addPieces_of_staysBelow (names : List (List Char)) {pieces below : List (List Char)}
    {depth : Nat} (hne : pieces ≠ []) (hdepth : depth ≤ below.length)
    (h : staysBelow depth pieces = true) :
    ∃ name more, addPieces scheme (names ++ below) pieces = names ++ name :: more := by
  induction pieces generalizing below depth with
  | nil => exact absurd rfl hne
  | cons s rest ih =>
    obtain ⟨left, depth', hleft, hlength, hstays, hlast⟩ :=
      exists_addPiece_append scheme names hdepth h rest.isEmpty
    rw [addPieces_cons, hleft]
    cases rest with
    | nil =>
      obtain ⟨name, more, rfl⟩ := List.exists_cons_of_ne_nil (hlast rfl)
      exact ⟨name, more, rfl⟩
    | cons t more => exact ih (List.cons_ne_nil t more) hlength hstays

/-- Names are put behind a path as they are. -/
theorem addPieces_names {names : List (List Char)} (h : ∀ s ∈ names, IsName s)
    (path pieces : List (List Char)) :
    addPieces scheme path (names ++ pieces) = addPieces scheme (path ++ names) pieces := by
  induction names generalizing path with
  | nil => rw [List.append_nil]; rfl
  | cons s names ih =>
    have hs := h s List.mem_cons_self
    have hkept : keptSegment scheme path s = s := by
      have hencode : encode inPathSet s = s :=
        encode_of_forall fun c hc => (isSegmentChar_iff.mp (hs.segment c hc)).1
      simp [keptSegment, hs.not_drive, hencode]
    have hstep (isLast : Bool) : addPiece scheme path s isLast = path ++ [s] := by
      simp [addPiece, hs.not_double, hs.not_single, hkept]
    rw [List.cons_append, addPieces_cons, hstep, ih fun t ht => h t (List.mem_cons_of_mem s ht),
      List.append_assoc]
    rfl

end

/-! ## Reading below any base -/

/-- A file below a drive. Every path that is read relative to it lies below the drive too. -/
def IsBelowDrive (u : Url) : Prop :=
  u.scheme = "file" ∧ u.path.list.head?.any startsNormalDrive = true

theorem isSlash_slash (special : Bool) : isSlash special '/' = true := rfl

section
variable {rest : List Char} (htext : IsPathText ('/' :: rest)) (hhead : rest.head? ≠ some '/')
include htext hhead

/-- No authority follows the first slash. -/
theorem head_not_slash {d : Char} {rest' : List Char} (hrest : rest = d :: rest')
    (special : Bool) : isSlash special d = false := by
  have hmem : d ∈ '/' :: rest := by simp [hrest]
  have hback := (htext.isPlain hmem).ne_backslash
  have hslash : d ≠ '/' := by
    rintro rfl
    exact hhead (by rw [hrest]; rfl)
  simp [isSlash, hback, hslash]

theorem readRelative_pathText (base : Url) :
    ∃ a, readRelative base ('/' :: rest) none none =
      some (make base.scheme a (readSegments base.scheme [] rest) none none) := by
  refine ⟨authorityOf base, ?_⟩
  cases rest with
  | nil => rfl
  | cons d rest' =>
    have hd := head_not_slash htext hhead rfl
    have hne : d ≠ '/' := by
      rintro rfl
      exact hhead rfl
    simp [readRelative, hd, hne, isSlash_slash]

theorem readFile_pathText {base : Url} (hfile : base.scheme = "file")
    (hdrive : ¬base.IsBelowDrive) :
    ∃ a, readFile (some base) ('/' :: rest) none none =
      some (make base.scheme a (readSegments base.scheme [] rest) none none) := by
  have hnone : (base.path.list.take 1).filter startsNormalDrive = [] := by
    cases hlist : base.path.list with
    | nil => rfl
    | cons s more =>
      have hs : startsNormalDrive s = false := by
        rw [Bool.eq_false_iff]
        intro hs
        exact hdrive ⟨hfile, by rw [hlist]; exact hs⟩
      simp [hs]
  refine ⟨{ emptyHost with host := base.host }, ?_⟩
  cases rest with
  | nil => simp [readFile, hfile, hnone, isSlash_slash, Option.filter]
  | cons d rest' =>
    have hd := head_not_slash htext hhead rfl
    simp [readFile, hfile, hnone, hd, isSlash_slash, Option.filter]

end

/-- A path text that does not begin with two slashes is read below any base as a path. -/
theorem parse?_below {s : String} {rest : List Char} (hs : s.toList = '/' :: rest)
    (htext : IsPathText s.toList) (hhead : rest.head? ≠ some '/') {base u : Url}
    (hdrive : ¬base.IsBelowDrive) (h : parse? s (some base) = some u) :
    ∃ a, u = make base.scheme a (readSegments base.scheme [] rest) none none := by
  have hread : parse? s (some base) = readWithoutScheme base ⟨s.toList, none, none⟩ := by
    rw [parse?, readClean, htext.parts, hs]
    rfl
  rw [hread, readWithoutScheme, hs] at h
  rw [hs] at htext
  cases hpath : base.path with
  | plain text =>
    rw [hpath] at h
    cases h
  | segments list =>
    rw [hpath] at h
    dsimp only [Option.map_none] at h
    split at h
    · next hfile =>
      obtain ⟨a, ha⟩ := readFile_pathText htext hhead hfile hdrive
      exact ⟨a, Option.some.inj (h.symm.trans ha)⟩
    · obtain ⟨a, ha⟩ := readRelative_pathText htext hhead base
      exact ⟨a, Option.some.inj (h.symm.trans ha)⟩

/-! ## The written path -/

theorem toList_pathname_make (scheme : String) (a : Authority) (path : List (List Char))
    (query fragment : Option String) :
    (make scheme a path query fragment).pathname.toList = path.flatMap fun s => '/' :: s := by
  have hid : String.toList ∘ String.ofList = id := by
    funext t
    exact String.toList_ofList
  by_cases hempty : path = []
  · cases hhost : a.host with
    | none => simp [make, Path.ofSegments, pathname, Path.text, hempty, hhost]
    | some host => simp [make, Path.ofSegments, pathname, Path.text, hempty, hhost]
  · rw [toList_pathname (path_make hempty), List.map_map, hid, List.map_id]

/-- The setter of the query leaves the path of such a URL alone. -/
theorem pathname_withSearch_make (scheme : String) (a : Authority) (path : List (List Char))
    (query fragment : Option String) (search : String) :
    ((make scheme a path query fragment).withSearch search).pathname =
      (make scheme a path query fragment).pathname := by
  by_cases hempty : path = []
  · cases hhost : a.host with
    | none =>
      have hpath : (make scheme a path query fragment).path = .plain "" := by
        simp [make, Path.ofSegments, hempty, hhost]
      unfold withSearch
      split
      · split <;> simp [pathname, hpath, Path.withoutTrailingSpaces]
      · rfl
    | some host =>
      have hpath : (make scheme a path query fragment).path = .segments [] := by
        simp [make, Path.ofSegments, hempty, hhost]
      exact pathname_withSearch hpath search
  · exact pathname_withSearch (path_make hempty) search

theorem slashPieces_of_not_mem {s : List Char} (h : '\\' ∉ s) (special : Bool) :
    slashPieces special s = slashPieces true s := by
  induction s with
  | nil => rfl
  | cons c s ih =>
    have hc : c ≠ '\\' := fun heq => h (heq ▸ List.mem_cons_self)
    have hslash : isSlash special c = isSlash true c := by
      simp [isSlash, beq_eq_false_iff_ne.mpr hc]
    rw [slashPieces, slashPieces, hslash, ih fun hmem => h (List.mem_cons_of_mem c hmem)]

/-- A path text is read as segments, whatever the scheme. -/
theorem IsPathText.areSegments_readSegments {s : List Char} (h : IsPathText s) (scheme : String) :
    AreSegments (readSegments scheme [] s) := by
  have hback : '\\' ∉ s := fun hmem => (h.isPlain hmem).ne_backslash rfl
  unfold readSegments
  rw [slashPieces_of_not_mem hback]
  dsimp only
  split
  · exact h.areSegments
  · exact areSegments_nil.addPieces fun piece hp c hc => (mem_slashPieces hp c hc).2

/-- A path below a directory is written below it if it is kept as it is written, or if the
    pieces behind the directory leave its names in front; and only then. -/
theorem directory_prefix_readSegments_iff {dir : String} (hdir : IsDirectory dir)
    {rest behind : List Char} (hrest : '/' :: rest = dir.toList ++ behind)
    (htext : IsPathText ('/' :: rest)) (scheme : String) :
    dir.toList <+: ((readSegments scheme [] rest).flatMap fun s => '/' :: s) ↔
      isVerbatim scheme rest = true ∨
        ∃ name more, addPieces scheme (dirNames dir) (slashPieces true behind) =
          dirNames dir ++ name :: more := by
  have htail : IsPathText rest := fun c hc => htext c (List.mem_cons_of_mem _ hc)
  have hback : '\\' ∉ rest := fun hmem => (htail.isPlain hmem).ne_backslash rfl
  have hcut : slashPieces true rest = dirNames dir ++ slashPieces true behind := by
    have hpieces := hdir.slashPieces_append behind
    rw [← hrest, slashPieces_cons_slash rfl] at hpieces
    exact (List.cons.inj hpieces).2
  have hread : readSegments scheme [] rest =
      if isVerbatim scheme rest then dirNames dir ++ slashPieces true behind
      else addPieces scheme (dirNames dir) (slashPieces true behind) := by
    rw [← List.nil_append (dirNames dir), ← addPieces_names (fun s hs => hdir.isName hs),
      List.nil_append, ← hcut, readSegments, slashPieces_of_not_mem hback]
    rfl
  rw [directory_prefix_iff hdir (htail.areSegments_readSegments scheme), hread]
  cases isVerbatim scheme rest with
  | true =>
    obtain ⟨name, more, hmore⟩ := slashPieces_eq_cons true behind
    rw [if_pos rfl]
    exact ⟨fun _ => .inl rfl, fun _ => ⟨name, more, by rw [hmore]⟩⟩
  | false => simp

end Gateway.Url
