import Gateway.Proofs.Loading
import Gateway.Proofs.Text.Pieces
import Mathlib.Data.List.Forall2

/- Arguments as a row of complete options. What is read of a list upon settings that are there is
   what is read of it alone, put over them (`parseFrom_eq_map`), so two lists behind one another are
   read as the one over the other. A list is accepted exactly if it falls apart into complete
   options, and it does so in one way only (`parse_folds_options`). -/
namespace Gateway.Arguments

/-! ## One over the other -/

/-- The later settings over the earlier ones. -/
def merge (first second : Arguments) : Arguments where
  help := first.help || second.help
  version := first.version || second.version
  configPath := second.configPath.or first.configPath
  host := second.host.or first.host
  port := second.port.or first.port
  headers := Fields.merge first.headers second.headers

theorem merge_none (options : Arguments) : options.merge none = options := by
  simp [merge, none, Fields.merge]

theorem merge_put (first : Arguments) {second : Arguments} (h : Fields.IsListed second.headers)
    (given : Given) : first.merge (second.put given) = (first.merge second).put given := by
  cases given with
  | header name value => simp [merge, put, h.merge_assign]
  | _ => simp [merge, put]

theorem isListed_foldl_put (given : List Given) {options : Arguments}
    (h : Fields.IsListed options.headers) : Fields.IsListed (given.foldl put options).headers := by
  induction given generalizing options with
  | nil => exact h
  | cons first rest ih =>
    refine ih ?_
    cases first with
    | header name value => exact h.assign name value
    | _ => exact h

/-- Settings that are put on others are put over them. -/
theorem foldl_put_eq_merge (given : List Given) (options : Arguments) :
    given.foldl put options = options.merge (given.foldl put none) := by
  induction given using List.reverseRecOn with
  | nil => exact (merge_none options).symm
  | append_singleton init last ih =>
    have hlisted : Fields.IsListed (init.foldl put none).headers :=
      isListed_foldl_put init Fields.isListed_nil
    rw [List.foldl_append, List.foldl_append, ih]
    exact (merge_put options hlisted last).symm

/-! ## Reading behind what has been read -/

section
variable {options first : Arguments} {flag : Flag} {value : String} {xs : List String}
  {e : ArgumentError}

theorem parseFrom_append {given : List Given} (h : Spelled xs given) (options : Arguments)
    (ys : List String) : parseFrom options (xs ++ ys) = parseFrom (given.foldl put options) ys := by
  induction h generalizing options with
  | nil => rfl
  | alone hflag hneeds hgiven _ ih =>
    rw [List.cons_append, parseFrom_alone hflag hneeds hgiven, ih]
    rfl
  | valued hflag hneeds hvalue hgiven _ ih =>
    rw [List.cons_append, List.cons_append, parseFrom_valued hflag hneeds hvalue hgiven, ih]
    rfl

/-- Whether a flag takes a value does not depend on what has been read. -/
theorem apply_eq_error_iff :
    options.apply flag value = .error e ↔ first.apply flag value = .error e := by
  cases flag with
  | port => by_cases hport : Config.isPort (Number.ofText value) <;> simp [apply, hport]
  | header =>
    cases hread : readHeader value <;> simp [apply, hread, bind, Except.bind, pure, Except.pure]
  | _ => simp [apply]

/-- A failure at a flag does not depend on what has been read; one behind it does not if what
    follows does not. -/
theorem apply_bind_eq_error {f g : Arguments → Except ArgumentError Arguments}
    (hbehind : ∀ given, f (options.put given) = .error e → g (first.put given) = .error e)
    (h : (options.apply flag value >>= f) = .error e) : (first.apply flag value >>= g) = .error e := by
  cases happly : options.apply flag value with
  | error e' =>
    rw [happly] at h
    rw [apply_eq_error_iff.mp happly]
    exact h
  | ok next =>
    obtain ⟨given, hgiven, rfl⟩ := apply_eq_ok_iff.mp happly
    rw [happly] at h
    rw [apply_eq_ok_iff.mpr ⟨given, hgiven, rfl⟩]
    exact hbehind given h

theorem parseFrom_eq_error (h : parseFrom options xs = .error e) :
    parseFrom first xs = .error e := by
  fun_induction parseFrom options xs generalizing first with
  | case1 => cases h
  | case2 options arg rest hflag =>
    rw [parseFrom, hflag]
    exact h
  | case3 options arg rest flag hflag hneeds ih =>
    rw [parseFrom, hflag]
    simp only [hneeds]
    exact apply_bind_eq_error (fun given hrest => ih _ hrest) h
  | case4 options arg flag hflag what hneeds =>
    rw [parseFrom, hflag]
    simp only [hneeds]
    exact h
  | case5 options arg flag hflag what hneeds value rest hvalue ih =>
    rw [parseFrom.eq_def]
    simp only [hflag, hneeds, hvalue, if_true]
    exact apply_bind_eq_error (fun given hrest => ih _ hrest) h
  | case6 options arg flag hflag what hneeds value rest hvalue =>
    rw [parseFrom.eq_def]
    simp only [hflag, hneeds, hvalue]
    exact h

end

/-- What is read upon settings is what is read alone, put over them. -/
theorem parseFrom_eq_map (options : Arguments) (args : List String) :
    parseFrom options args = (parse args).map options.merge := by
  cases hparse : parse args with
  | error e => exact parseFrom_eq_error hparse
  | ok second =>
    obtain ⟨given, hspelled, rfl⟩ := parse_eq_ok_iff.mp hparse
    exact parseFrom_eq_ok_iff.mpr ⟨given, hspelled, foldl_put_eq_merge given options⟩

/-- Behind accepted arguments others are read as if they stood alone, and put over them. -/
theorem parse_append {xs : List String} {first : Arguments} (h : parse xs = .ok first)
    (ys : List String) : parse (xs ++ ys) = (parse ys).map first.merge := by
  obtain ⟨given, hspelled, rfl⟩ := parse_eq_ok_iff.mp h
  rw [parse, parseFrom_append hspelled, parseFrom_eq_map]

/-! ## Complete options -/

/-- A text does not begin like a flag. -/
def IsPlain (value : String) : Prop := value.toList.head? ≠ some '-'

/-- A header with an `=` behind a name that is not blank. -/
def IsHeader (value : String) : Prop :=
  ∃ name text, value.toList = name ++ '=' :: text ∧ '=' ∉ name ∧ ∃ c ∈ name, Text.isBlank c = false

/-- One complete option: a flag that stands alone, or a flag and a value that it takes. -/
inductive IsOption : List String → Prop
  | help {flag : String} (hflag : flag ∈ ["-h", "--help"]) : IsOption [flag]
  | version {flag : String} (hflag : flag ∈ ["-v", "--version"]) : IsOption [flag]
  | config {flag value : String} (hflag : flag ∈ ["-c", "--config"]) (hplain : IsPlain value) :
      IsOption [flag, value]
  | host {flag value : String} (hflag : flag ∈ ["-H", "--host"]) (hplain : IsPlain value) :
      IsOption [flag, value]
  | port {flag value : String} (hflag : flag ∈ ["-p", "--port"]) (hplain : IsPlain value)
      (hport : ∃ n, (Number.ofText value).toNat? = some n ∧ n ≤ 65535) : IsOption [flag, value]
  | header {flag value : String} (hflag : flag ∈ ["--header"]) (hplain : IsPlain value)
      (hheader : IsHeader value) : IsOption [flag, value]

/-- The arguments are these options one after the other. -/
def Splits (args : List String) (pieces : List (List String)) : Prop :=
  pieces.flatten = args ∧ ∀ piece ∈ pieces, IsOption piece

/-- How a flag is written. -/
def Flag.spellings : Flag → List String
  | .help => ["-h", "--help"]
  | .version => ["-v", "--version"]
  | .config => ["-c", "--config"]
  | .host => ["-H", "--host"]
  | .port => ["-p", "--port"]
  | .header => ["--header"]

theorem flag?_eq_some_iff {arg : String} {flag : Flag} :
    flag? arg = some flag ↔ arg ∈ flag.spellings := by
  constructor
  · intro h
    unfold flag? at h
    cases flag <;> grind [Flag.spellings]
  · cases flag with
    | header =>
      intro h
      obtain rfl := List.mem_singleton.mp h
      rfl
    | _ =>
      intro h
      rcases List.mem_pair.mp h with rfl | rfl <;> rfl

theorem isValue_iff {value : String} : isValue value = true ↔ IsPlain value := bne_iff_ne

theorem given?_header_isSome_iff {value : String} :
    (∃ given, Flag.header.given? value = some given) ↔ IsHeader value := by
  have hread : (∃ given, Flag.header.given? value = some given) ↔
      ∃ name text, Text.cutFirst ['='] value.toList = some (name, text) ∧ Text.trim name ≠ [] := by
    rw [Flag.given?, readHeader]
    cases hcut : Text.cutFirst ['='] value.toList with
    | none => simp [Except.toOption]
    | some cut =>
      obtain ⟨name, text⟩ := cut
      by_cases hname : Text.trim name = [] <;> simp [hname, Except.toOption]
  have hblank (name : List Char) : Text.trim name ≠ [] ↔ ∃ c ∈ name, Text.isBlank c = false := by
    rw [ne_eq, Text.trim_eq_nil_iff]
    simp
  rw [hread]
  refine exists₂_congr fun name text => ?_
  rw [Text.cutFirst_singleton_eq_some_iff, hblank, and_assoc]

theorem given?_port_isSome_iff {value : String} :
    (∃ given, Flag.port.given? value = some given) ↔
      ∃ n, (Number.ofText value).toNat? = some n ∧ n ≤ 65535 := by
  rw [← Config.isPort_iff, Flag.given?]
  by_cases hport : Config.isPort (Number.ofText value) = true <;> simp [hport]

theorem isOption_iff {piece : List String} : IsOption piece ↔ ∃ given, Spelled piece [given] := by
  constructor
  · intro h
    have halone (flag : Flag) {arg : String} {given : Given} (harg : arg ∈ flag.spellings)
        (hneeds : flag.needs = Option.none) (hgiven : flag.given? "" = some given) :
        ∃ given, Spelled [arg] [given] :=
      ⟨given, .alone (flag?_eq_some_iff.mpr harg) hneeds hgiven .nil⟩
    have hvalued (flag : Flag) {arg value : String} (harg : arg ∈ flag.spellings)
        (hneeds : flag.needs ≠ Option.none) (hplain : IsPlain value)
        (hgiven : ∃ given, flag.given? value = some given) :
        ∃ given, Spelled [arg, value] [given] := by
      obtain ⟨given, hgiven⟩ := hgiven
      exact ⟨given, .valued (flag?_eq_some_iff.mpr harg) hneeds (isValue_iff.mpr hplain) hgiven .nil⟩
    cases h with
    | help hflag => exact halone .help hflag rfl rfl
    | version hflag => exact halone .version hflag rfl rfl
    | config hflag hplain => exact hvalued .config hflag (by decide) hplain ⟨_, rfl⟩
    | host hflag hplain => exact hvalued .host hflag (by decide) hplain ⟨_, rfl⟩
    | port hflag hplain hport =>
      exact hvalued .port hflag (by decide) hplain (given?_port_isSome_iff.mpr hport)
    | header hflag hplain hheader =>
      exact hvalued .header hflag (by decide) hplain (given?_header_isSome_iff.mpr hheader)
  · rintro ⟨given, h⟩
    cases h with
    | alone hflag hneeds hgiven hrest =>
      cases hrest
      rename_i flag
      have harg := flag?_eq_some_iff.mp hflag
      cases flag with
      | help => exact .help harg
      | version => exact .version harg
      | _ => cases hneeds
    | valued hflag hneeds hvalue hgiven hrest =>
      cases hrest
      rename_i flag
      have harg := flag?_eq_some_iff.mp hflag
      have hplain := isValue_iff.mp hvalue
      cases flag with
      | config => exact .config harg hplain
      | host => exact .host harg hplain
      | port => exact .port harg hplain (given?_port_isSome_iff.mp ⟨_, hgiven⟩)
      | header => exact .header harg hplain (given?_header_isSome_iff.mp ⟨_, hgiven⟩)
      | _ => exact absurd rfl hneeds

/-! ## Splitting arguments into options -/

theorem Spelled.append {args more : List String} {given given' : List Given} (h : Spelled args given)
    (hmore : Spelled more given') : Spelled (args ++ more) (given ++ given') := by
  induction h with
  | nil => exact hmore
  | alone hflag hneeds hgiven _ ih => exact .alone hflag hneeds hgiven ih
  | valued hflag hneeds hvalue hgiven _ ih => exact .valued hflag hneeds hvalue hgiven ih

theorem exists_splits_iff {args : List String} :
    (∃ pieces, Splits args pieces) ↔ ∃ given, Spelled args given := by
  constructor
  · rintro ⟨pieces, rfl, hpieces⟩
    induction pieces with
    | nil => exact ⟨[], .nil⟩
    | cons piece rest ih =>
      obtain ⟨hpiece, hrest⟩ := List.forall_mem_cons.mp hpieces
      obtain ⟨given, hgiven⟩ := isOption_iff.mp hpiece
      obtain ⟨more, hmore⟩ := ih hrest
      exact ⟨given :: more, hgiven.append hmore⟩
  · rintro ⟨given, h⟩
    have hcons {piece args : List String} {given : Given} (hpiece : Spelled piece [given])
        (hrest : ∃ pieces, Splits args pieces) : ∃ pieces, Splits (piece ++ args) pieces := by
      obtain ⟨pieces, rfl, hpieces⟩ := hrest
      exact ⟨piece :: pieces, rfl, List.forall_mem_cons.mpr ⟨isOption_iff.mpr ⟨given, hpiece⟩, hpieces⟩⟩
    induction h with
    | nil => exact ⟨[], rfl, by simp⟩
    | alone hflag hneeds hgiven _ ih => exact hcons (.alone hflag hneeds hgiven .nil) ih
    | valued hflag hneeds hvalue hgiven _ ih =>
      exact hcons (.valued hflag hneeds hvalue hgiven .nil) ih

/-- Arguments are accepted exactly if they are complete options. -/
theorem parse_isOk_iff_splits {args : List String} :
    (∃ options, parse args = .ok options) ↔ ∃ pieces, Splits args pieces := by
  rw [exists_splits_iff]
  constructor
  · rintro ⟨options, h⟩
    obtain ⟨given, hspelled, -⟩ := parse_eq_ok_iff.mp h
    exact ⟨given, hspelled⟩
  · rintro ⟨given, hspelled⟩
    exact ⟨_, parse_eq_ok_iff.mpr ⟨given, hspelled, rfl⟩⟩

/-- The flag in front says whether a value belongs to it. -/
theorem IsOption.exists_eq_cons {piece : List String} (h : IsOption piece) :
    ∃ flag values, piece = flag :: values ∧
      values.length = if flag ∈ ["-h", "--help", "-v", "--version"] then 0 else 1 := by
  have hpair {flag a b : String} (h : flag ∈ [a, b]) : flag = a ∨ flag = b := List.mem_pair.mp h
  cases h with
  | help hflag => rcases hpair hflag with rfl | rfl <;> exact ⟨_, _, rfl, rfl⟩
  | version hflag => rcases hpair hflag with rfl | rfl <;> exact ⟨_, _, rfl, rfl⟩
  | config hflag => rcases hpair hflag with rfl | rfl <;> exact ⟨_, _, rfl, rfl⟩
  | host hflag => rcases hpair hflag with rfl | rfl <;> exact ⟨_, _, rfl, rfl⟩
  | port hflag => rcases hpair hflag with rfl | rfl <;> exact ⟨_, _, rfl, rfl⟩
  | header hflag =>
    obtain rfl := List.mem_singleton.mp hflag
    exact ⟨_, _, rfl, rfl⟩

theorem Splits.unique {args : List String} {pieces other : List (List String)}
    (h : Splits args pieces) (hother : Splits args other) : other = pieces := by
  obtain ⟨rfl, hpieces⟩ := h
  obtain ⟨hflatten, hother⟩ := hother
  induction pieces generalizing other with
  | nil =>
    cases other with
    | nil => rfl
    | cons piece rest =>
      obtain ⟨flag, values, rfl, -⟩ := (hother _ List.mem_cons_self).exists_eq_cons
      cases hflatten
  | cons piece rest ih =>
    obtain ⟨hpiece, hrest⟩ := List.forall_mem_cons.mp hpieces
    obtain ⟨flag, values, rfl, hlength⟩ := hpiece.exists_eq_cons
    cases other with
    | nil => cases hflatten
    | cons piece' rest' =>
      obtain ⟨hpiece', hrest'⟩ := List.forall_mem_cons.mp hother
      obtain ⟨flag', values', rfl, hlength'⟩ := hpiece'.exists_eq_cons
      -- both options begin with the same flag, so they have the same length
      obtain ⟨rfl, hbehind⟩ := List.cons.inj hflatten
      obtain ⟨rfl, hmore⟩ := List.append_inj hbehind (hlength'.trans hlength.symm)
      rw [ih hrest hmore hrest']

/-- Options one after the other are read one by one, and the results put over one another. -/
theorem Splits.parse_eq {args : List String} {pieces : List (List String)} (h : Splits args pieces) :
    ∃ settings, List.Forall₂ (fun piece options => parse piece = .ok options) pieces settings ∧
      parse args = .ok (settings.foldl merge none) := by
  obtain ⟨rfl, hpieces⟩ := h
  induction pieces using List.reverseRecOn with
  | nil => exact ⟨[], .nil, rfl⟩
  | append_singleton init piece ih =>
    obtain ⟨hinit, hlast⟩ := List.forall_mem_append.mp hpieces
    obtain ⟨settings, hsettings, hread⟩ := ih hinit
    have hpiece := isOption_iff.mp (hlast piece (List.mem_singleton_self piece))
    obtain ⟨given, hspelled⟩ := hpiece
    obtain ⟨options, hoptions⟩ : ∃ options, parse piece = .ok options :=
      ⟨_, parse_eq_ok_iff.mpr ⟨_, hspelled, rfl⟩⟩
    refine ⟨settings ++ [options], ?_, ?_⟩
    · exact List.rel_append hsettings (.cons hoptions .nil)
    · rw [List.flatten_append, List.flatten_singleton, parse_append hread, hoptions, List.foldl_append]
      rfl

/-- Reading arguments is a fold over complete options, from the left. Behind accepted arguments others
    fail as they do alone, or their settings are put over those that are there. Arguments are accepted
    exactly if they split into complete options, which they do in one way only, and then the settings
    of the options are put over one another. -/
theorem parse_folds_options :
    (∀ (xs ys : List String) (first : Arguments), parse xs = .ok first →
      (∀ e, parse (xs ++ ys) = .error e ↔ parse ys = .error e) ∧
      ∀ second, parse ys = .ok second → parse (xs ++ ys) = .ok (first.merge second)) ∧
    ∀ args : List String,
      ((∃ options, parse args = .ok options) ↔ ∃ pieces, Splits args pieces) ∧
      ∀ pieces, Splits args pieces →
        (∀ other, Splits args other → other = pieces) ∧
        ∃ settings, List.Forall₂ (fun piece options => parse piece = .ok options) pieces settings ∧
          parse args = .ok (settings.foldl merge none) := by
  refine ⟨fun xs ys first hfirst => ⟨fun e => ?_, fun second hsecond => ?_⟩,
    fun args => ⟨parse_isOk_iff_splits, fun pieces h => ⟨fun other => h.unique, h.parse_eq⟩⟩⟩
  · rw [parse_append hfirst]
    cases parse ys <;> simp [Except.map]
  · rw [parse_append hfirst, hsecond]
    rfl

/-- A later port counts, and a header whose name is an index is listed first. -/
theorem laterPort_folds :
    let first := { none with port := some 80, headers := [("b", "1")] }
    let second := { none with port := some 3000, headers := [("7", "2"), ("b", "3")] }
    parse ["-p", "80", "--header", "b=1"] = .ok first ∧
      parse ["--header", "b=3", "--port", "3000", "--header", "7=2"] = .ok second ∧
      parse (["-p", "80", "--header", "b=1"] ++
        ["--header", "b=3", "--port", "3000", "--header", "7=2"]) = .ok (first.merge second) ∧
      (first.merge second).headers = [("7", "2"), ("b", "3")] ∧
      Splits ["-p", "80", "--header", "b=1"] [["-p", "80"], ["--header", "b=1"]] ∧
      ∀ other, Splits ["-p", "80", "--header", "b=1"] other →
        other = [["-p", "80"], ["--header", "b=1"]] := by
  intro first second
  have hfirst : parse ["-p", "80", "--header", "b=1"] = .ok first := by decide
  have hsecond : parse ["--header", "b=3", "--port", "3000", "--header", "7=2"] = .ok second := by
    decide
  have hsplits : Splits ["-p", "80", "--header", "b=1"] [["-p", "80"], ["--header", "b=1"]] := by
    refine ⟨rfl, List.forall_mem_cons.mpr ⟨?_, List.forall_mem_cons.mpr ⟨?_, by simp⟩⟩⟩
    · exact .port (by decide) (by unfold IsPlain; decide) ⟨80, by decide, by decide⟩
    · exact .header (by decide) (by unfold IsPlain; decide)
        ⟨['b'], ['1'], rfl, by decide, 'b', by decide, by decide⟩
  exact ⟨hfirst, hsecond, (parse_folds_options.1 _ _ first hfirst).2 second hsecond, rfl, hsplits,
    ((parse_folds_options.2 _).2 _ hsplits).1⟩

end Gateway.Arguments
