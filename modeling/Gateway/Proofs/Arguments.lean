import Gateway.Arguments
import Gateway.Proofs.Fields

/- The grammar of the command line. A list of arguments spells settings, one flag after the other
   (`Spelled`), and reading it puts them on one another in that order (`parse_eq_ok_iff`). -/
namespace Gateway.Arguments

/-- What a flag with its value stands for. -/
inductive Given
  | help
  | version
  | config (path : String)
  | host (name : String)
  | port (number : Number)
  | header (name value : String)
deriving Repr, DecidableEq

/-- What a flag stands for with this value, if the value is one that it takes. -/
def Flag.given? : Flag → String → Option Given
  | .help, _ => some .help
  | .version, _ => some .version
  | .config, value => some (.config value)
  | .host, value => some (.host value)
  | .port, value =>
    if Config.isPort (Number.ofText value) then some (.port (Number.ofText value)) else Option.none
  | .header, value => (readHeader value).toOption.map fun pair => .header pair.1 pair.2

/-- Puts a setting on those that are there. -/
def put (options : Arguments) : Given → Arguments
  | .help => { options with help := true }
  | .version => { options with version := true }
  | .config path => { options with configPath := some path }
  | .host name => { options with host := some name }
  | .port number => { options with port := some number }
  | .header name value => { options with headers := Fields.assign name value options.headers }

/-- The arguments spell these settings. -/
inductive Spelled : List String → List Given → Prop
  | nil : Spelled [] []
  /-- A flag that stands alone. -/
  | alone {arg : String} {flag : Flag} {given : Given} {args : List String} {more : List Given}
      (hflag : flag? arg = some flag) (hneeds : flag.needs = Option.none)
      (hgiven : flag.given? "" = some given) (hrest : Spelled args more) :
      Spelled (arg :: args) (given :: more)
  /-- A flag and its value, which does not look like a flag. -/
  | valued {arg value : String} {flag : Flag} {given : Given} {args : List String}
      {more : List Given} (hflag : flag? arg = some flag) (hneeds : flag.needs ≠ Option.none)
      (hvalue : isValue value = true) (hgiven : flag.given? value = some given)
      (hrest : Spelled args more) :
      Spelled (arg :: value :: args) (given :: more)

section
variable {options result : Arguments} {flag : Flag} {value : String}

theorem apply_eq_ok_iff :
    options.apply flag value = .ok result ↔
      ∃ given, flag.given? value = some given ∧ options.put given = result := by
  cases flag with
  | port =>
    by_cases hport : Config.isPort (Number.ofText value) <;> simp [apply, Flag.given?, hport, put]
  | header =>
    rcases hread : readHeader value with e | pair
    · simp [apply, Flag.given?, hread, bind, Except.bind, Except.toOption]
    · simp [apply, Flag.given?, hread, bind, Except.bind, Except.toOption, put, pure, Except.pure]
  | _ => simp [apply, Flag.given?, put]

theorem apply_bind_eq_ok_iff {f : Arguments → Except ArgumentError Arguments} :
    (options.apply flag value >>= f) = .ok result ↔
      ∃ given, flag.given? value = some given ∧ f (options.put given) = .ok result := by
  rcases happly : options.apply flag value with e | next
  · have hnone : ∀ given, flag.given? value ≠ some given := by
      intro given hgiven
      rw [apply_eq_ok_iff.mpr ⟨given, hgiven, rfl⟩] at happly
      cases happly
    simp [hnone, bind, Except.bind]
  · obtain ⟨given, hgiven, rfl⟩ := apply_eq_ok_iff.mp happly
    simp [hgiven, bind, Except.bind]

theorem parseFrom_alone {arg : String} {given : Given} {args : List String}
    (hflag : flag? arg = some flag) (hneeds : flag.needs = Option.none)
    (hgiven : flag.given? "" = some given) :
    parseFrom options (arg :: args) = parseFrom (options.put given) args := by
  have happly : options.apply flag "" = .ok (options.put given) :=
    apply_eq_ok_iff.mpr ⟨given, hgiven, rfl⟩
  rw [parseFrom, hflag]
  simp only [hneeds, happly]
  rfl

theorem parseFrom_valued {arg : String} {given : Given} {args : List String}
    (hflag : flag? arg = some flag) (hneeds : flag.needs ≠ Option.none)
    (hvalue : isValue value = true) (hgiven : flag.given? value = some given) :
    parseFrom options (arg :: value :: args) = parseFrom (options.put given) args := by
  have happly : options.apply flag value = .ok (options.put given) :=
    apply_eq_ok_iff.mpr ⟨given, hgiven, rfl⟩
  obtain ⟨what, hneeds⟩ := Option.ne_none_iff_exists'.mp hneeds
  rw [parseFrom.eq_def]
  simp only [hflag, hneeds, hvalue, happly, if_true]
  rfl

end

theorem parseFrom_eq_ok_iff {options result : Arguments} {args : List String} :
    parseFrom options args = .ok result ↔
      ∃ given, Spelled args given ∧ given.foldl put options = result := by
  constructor
  · intro h
    fun_induction parseFrom options args with
    | case1 options =>
      cases h
      exact ⟨[], .nil, rfl⟩
    | case2 options arg rest hflag => cases h
    | case3 options arg rest flag hflag hneeds ih =>
      obtain ⟨given, hgiven, h⟩ := apply_bind_eq_ok_iff.mp h
      obtain ⟨more, hspelled, hresult⟩ := ih _ h
      exact ⟨given :: more, .alone hflag hneeds hgiven hspelled, hresult⟩
    | case4 options arg flag hflag what hneeds => cases h
    | case5 options arg flag hflag what hneeds value rest hvalue ih =>
      obtain ⟨given, hgiven, h⟩ := apply_bind_eq_ok_iff.mp h
      obtain ⟨more, hspelled, hresult⟩ := ih _ h
      refine ⟨given :: more, .valued hflag ?_ hvalue hgiven hspelled, hresult⟩
      rw [hneeds]
      exact Option.some_ne_none what
    | case6 options arg flag hflag what hneeds value rest hvalue => cases h
  · rintro ⟨given, hspelled, rfl⟩
    induction hspelled generalizing options with
    | nil => rfl
    | alone hflag hneeds hgiven _ ih =>
      rw [parseFrom_alone hflag hneeds hgiven]
      exact ih
    | valued hflag hneeds hvalue hgiven _ ih =>
      rw [parseFrom_valued hflag hneeds hvalue hgiven]
      exact ih

/-- Arguments are accepted exactly if they spell settings, and the later ones count. -/
theorem parse_eq_ok_iff {args : List String} {result : Arguments} :
    parse args = .ok result ↔ ∃ given, Spelled args given ∧ given.foldl put none = result :=
  parseFrom_eq_ok_iff

/-- Arguments spell their settings in one way only. -/
theorem Spelled.unique {args : List String} {given other : List Given} (h : Spelled args given)
    (hother : Spelled args other) : given = other := by
  induction h generalizing other with
  | nil =>
    cases hother
    rfl
  | alone hflag hneeds hgiven _ ih =>
    cases hother with
    | alone hflag' _ hgiven' hrest' =>
      obtain rfl := Option.some.inj (hflag.symm.trans hflag')
      rw [Option.some.inj (hgiven.symm.trans hgiven'), ih hrest']
    | valued hflag' hneeds' =>
      obtain rfl := Option.some.inj (hflag.symm.trans hflag')
      exact absurd hneeds hneeds'
  | valued hflag hneeds _ hgiven _ ih =>
    cases hother with
    | alone hflag' hneeds' =>
      obtain rfl := Option.some.inj (hflag.symm.trans hflag')
      exact absurd hneeds' hneeds
    | valued hflag' _ _ hgiven' hrest' =>
      obtain rfl := Option.some.inj (hflag.symm.trans hflag')
      rw [Option.some.inj (hgiven.symm.trans hgiven'), ih hrest']

/-! ## What the settings come to -/

theorem help_foldl_put (given : List Given) (options : Arguments) :
    (given.foldl put options).help = true ↔ options.help = true ∨ .help ∈ given := by
  induction given generalizing options with
  | nil => simp
  | cons first rest ih =>
    rw [List.foldl_cons, ih]
    cases first <;> simp [put]

theorem version_foldl_put (given : List Given) (options : Arguments) :
    (given.foldl put options).version = true ↔ options.version = true ∨ .version ∈ given := by
  induction given generalizing options with
  | nil => simp
  | cons first rest ih =>
    rw [List.foldl_cons, ih]
    cases first <;> simp [put]

/-- The number of a setting is one that a port can have. -/
theorem Spelled.isPort {args : List String} {given : List Given} (h : Spelled args given)
    {n : Number} (hm : .port n ∈ given) : Config.isPort n = true := by
  have hport {flag : Flag} {value : String} (hgiven : flag.given? value = some (.port n)) :
      Config.isPort n = true := by
    cases flag with
    | port =>
      rw [Flag.given?] at hgiven
      split at hgiven
      · next hvalue =>
        cases hgiven
        exact hvalue
      · cases hgiven
    | _ => simp [Flag.given?] at hgiven
  induction h with
  | nil => cases hm
  | alone _ _ hgiven _ ih =>
    rcases List.mem_cons.mp hm with rfl | hm
    · exact hport hgiven
    · exact ih hm
  | valued _ _ _ hgiven _ ih =>
    rcases List.mem_cons.mp hm with rfl | hm
    · exact hport hgiven
    · exact ih hm

theorem mem_port_foldl_put {given : List Given} {options : Arguments} {n : Number}
    (h : n ∈ (given.foldl put options).port) : n ∈ options.port ∨ .port n ∈ given := by
  induction given generalizing options with
  | nil => exact .inl h
  | cons first rest ih =>
    rcases ih h with h | h
    · cases first with
      | port number =>
        cases h
        exact .inr List.mem_cons_self
      | _ => exact .inl h
    · exact .inr (List.mem_cons_of_mem first h)

theorem isPort_of_parse {args : List String} {options : Arguments} (h : parse args = .ok options) :
    ∀ n ∈ options.port, Config.isPort n = true := by
  obtain ⟨given, hspelled, rfl⟩ := parse_eq_ok_iff.mp h
  intro n hn
  rcases mem_port_foldl_put hn with hn | hn
  · cases hn
  · exact hspelled.isPort hn

end Gateway.Arguments
