import Gateway.CommandLine
import Gateway.Proofs.Loading
import Gateway.Proofs.RuleSet

/- Whole runs of the program. What a run is given decides on one of four ways (`Takes`): help,
   version, a start of the server, or a refusal. `run_takes_one_way` says for each way all that the
   run does, so that a refusal has no effect but its one report, and that the signals after a start
   close the server once. -/
namespace Gateway

theorem Server.exists_create (headers : Fields String) (entries : List RuleEntry) :
    ∃ server log, Server.create headers entries = (.ok server, log) := by
  obtain ⟨rules, hrules, -⟩ := RuleSet.exists_ofEntries entries
  refine ⟨⟨rules, headers⟩, entries.flatMap RuleEntry.warnings, ?_⟩
  rw [create, hrules]
  rfl

namespace CommandLine

/-! ## What a run has done -/

namespace Session

/-- Whether the program does something itself, other than being sent a signal. -/
def isDeed : Action → Bool
  | .signalled _ _ _ _ => false
  | _ => true

/-- What the program has done itself, in order. -/
def deeds (s : Session) : List Action := s.actions.filter isDeed

/-- The run has done this and nothing else. It has no server to close, and signals do not matter. -/
structure Ended (s : Session) (deeds : List Action) (exits : List Nat) : Prop where
  deeds : s.deeds = deeds
  exits : s.exits = exits
  closes : s.closes = 0
  timers : s.timers = []
  unhandled : s.handlesSignals = false

/-- The run has read its file, made one server and told it once where to listen. Beside this it has
    only printed. The server has been closed as often as this says, and each time a timer has been
    set. -/
structure Serving (s : Session) (path : String) (config : Config) (times : Nat) : Prop where
  deeds : ∃ before after : List Printed, s.deeds =
    .read path :: before.map .printed ++ [.created, .listened config.host config.port] ++
      after.map .printed
  closes : s.closes = times
  timers : s.timers = List.replicate times graceTime
  handled : s.handlesSignals = true

end Session

/-! ## Signals -/

section
variable (drains : Bool) (s : Session)

theorem shutDown_actions : (shutDown s drains).actions = s.actions := by
  rw [shutDown]
  split
  · cases drains <;> rfl
  · rfl

theorem shutDown_handlesSignals : (shutDown s drains).handlesSignals = s.handlesSignals := by
  rw [shutDown]
  split
  · cases drains <;> rfl
  · rfl

/-- However often a server is shut down, it is closed once and one timer is set. -/
theorem shutDown_once {times : Nat} (htimes : times ≤ 1) (hcloses : s.closes = times)
    (htimers : s.timers = List.replicate times graceTime) :
    (shutDown s drains).closes = 1 ∧ (shutDown s drains).timers = [graceTime] := by
  rw [shutDown]
  obtain rfl | rfl := Nat.le_one_iff_eq_zero_or_eq_one.mp htimes
  · rw [if_pos hcloses]
    cases drains <;> exact ⟨rfl, congrArg (· ++ [graceTime]) htimers⟩
  · rw [if_neg (by rw [hcloses]; exact Nat.one_ne_zero)]
    exact ⟨hcloses, htimers⟩

/-- What a signal changes, before it is noted. -/
def heed (name : String) : Session :=
  if s.handlesSignals && endingSignals.contains name then shutDown s drains else s

theorem signal_eq (name : String) : signal drains s name = (heed drains s name).act
    (.signalled name (heed drains s name).closes (heed drains s name).timers
      (heed drains s name).exit) := rfl

theorem signal_deeds (name : String) : (signal drains s name).deeds = s.deeds := by
  have hactions : (heed drains s name).actions = s.actions := by
    rw [heed]
    split
    · exact shutDown_actions drains s
    · rfl
  rw [signal_eq, Session.act, Session.deeds, Session.deeds, List.filter_append, hactions]
  exact List.append_nil _

end

section
variable {s : Session} {deeds : List Action} {exits : List Nat} {path : String} {config : Config}
  {times : Nat} (drains : Bool)

theorem signal_ended (h : s.Ended deeds exits) (name : String) :
    (signal drains s name).Ended deeds exits := by
  have hdeeds := (signal_deeds drains s name).trans h.deeds
  have hheed : heed drains s name = s := by
    rw [heed, h.unhandled]
    rfl
  rw [signal_eq, hheed] at hdeeds ⊢
  exact ⟨hdeeds, h.exits, h.closes, h.timers, h.unhandled⟩

theorem foldl_signal_ended (h : s.Ended deeds exits) (signals : List String) :
    (signals.foldl (signal drains) s).Ended deeds exits := by
  induction signals generalizing s with
  | nil => exact h
  | cons name rest ih => exact ih (signal_ended drains h name)

theorem expire_ended (h : s.Ended deeds exits) : (expire s).Ended deeds exits := by
  rw [expire, h.timers]
  exact h

/-- The first signal that ends a program closes the server and sets a timer; no other one does. -/
theorem signal_serving (h : s.Serving path config times) (htimes : times ≤ 1) (name : String) :
    (signal drains s name).Serving path config (if endingSignals.contains name then 1 else times) := by
  obtain ⟨before, after, hdeeds⟩ := h.deeds
  have hdeeds' := (signal_deeds drains s name).trans hdeeds
  by_cases hending : endingSignals.contains name = true
  · obtain ⟨hcloses, htimers⟩ := shutDown_once drains s htimes h.closes h.timers
    have hhandled := (shutDown_handlesSignals drains s).trans h.handled
    have hheed : heed drains s name = shutDown s drains := by
      rw [heed, h.handled, hending]
      rfl
    rw [if_pos hending]
    rw [signal_eq, hheed] at hdeeds' ⊢
    exact ⟨⟨before, after, hdeeds'⟩, hcloses, htimers, hhandled⟩
  · have hheed : heed drains s name = s := by
      rw [heed, h.handled, Bool.true_and, if_neg hending]
    rw [if_neg hending]
    rw [signal_eq, hheed] at hdeeds' ⊢
    exact ⟨⟨before, after, hdeeds'⟩, h.closes, h.timers, h.handled⟩

theorem foldl_signal_serving (h : s.Serving path config times) (htimes : times ≤ 1)
    (signals : List String) :
    (signals.foldl (signal drains) s).Serving path config
      (if signals.any endingSignals.contains then 1 else times) := by
  induction signals generalizing s times with
  | nil => exact h
  | cons name rest ih =>
    have hnext := ih (signal_serving drains h htimes name) (by split <;> omega)
    have hcount : (if (name :: rest).any endingSignals.contains then 1 else times) =
        if rest.any endingSignals.contains then 1
        else if endingSignals.contains name then 1 else times := by
      rw [List.any_cons]
      cases endingSignals.contains name <;> cases rest.any endingSignals.contains <;> rfl
    rw [hcount]
    exact hnext

theorem expire_serving (h : s.Serving path config times) : (expire s).Serving path config times := by
  rw [expire]
  split
  · exact h
  · exact ⟨h.deeds, h.closes, h.timers, h.handled⟩

end

/-! ## The ways of a run -/

/-- A way that a run can take. -/
inductive Way
  | help
  | version (text : String)
  /-- The server is started with what the file at this path gives. -/
  | start (path : String) (config : Config)
  /-- The run is refused with one report. The file at the path, if there is one, was read. -/
  | refuse (path : Option String) (label message : String)

/-- The configuration that a run loads with these settings. -/
def Setting.load (setting : Setting) (given : List Arguments.Given) : Reported ConfigError Config :=
  Config.load (given.foldl Arguments.put .none).overrides setting.cwd setting.environment setting.read

/-- The path of its file. -/
def Setting.path (setting : Setting) (given : List Arguments.Given) : String :=
  Config.pathOf (given.foldl Arguments.put .none).overrides setting.cwd setting.environment

/-- Why a manifest has no version, if it has none. -/
def manifestFault? : Except String String → Option String
  | .error reason => some reason
  | .ok text => if versionOf text = none then some invalidJsonMessage else none

theorem manifestFault?_eq_none_iff {manifest : Except String String} :
    manifestFault? manifest = none ↔
      ∃ text version, manifest = .ok text ∧ versionOf text = some version := by
  cases manifest with
  | error reason => simp [manifestFault?]
  | ok text => cases h : versionOf text <;> simp [manifestFault?, h]

theorem bind_versionOf_eq_none {manifest : Except String String} {reason : String}
    (h : manifestFault? manifest = some reason) : manifest.toOption.bind versionOf = none := by
  cases manifest with
  | error cause => rfl
  | ok text =>
    rw [manifestFault?] at h
    split at h
    · next hnone => exact hnone
    · cases h

open Arguments (Spelled) in
/-- The way that a run takes with what it is given. -/
inductive Takes (setting : Setting) : Way → Prop
  /-- The arguments ask for help, whatever else they ask for. -/
  | help {given : List Arguments.Given} (hargs : Spelled setting.args given)
      (hhelp : .help ∈ given) : Takes setting .help
  /-- They ask for the version, and the manifest has one. -/
  | version {given : List Arguments.Given} {manifest text : String}
      (hargs : Spelled setting.args given) (hhelp : .help ∉ given) (hversion : .version ∈ given)
      (hmanifest : setting.manifest = .ok manifest) (htext : versionOf manifest = some text) :
      Takes setting (.version text)
  /-- They ask for neither, and the configuration can be loaded. -/
  | start {given : List Arguments.Given} {config : Config} (hargs : Spelled setting.args given)
      (hhelp : .help ∉ given) (hversion : .version ∉ given)
      (hload : (setting.load given).result = .ok config) :
      Takes setting (.start (setting.path given) config)
  /-- The arguments are not valid, wherever this shows. -/
  | badArguments {e : ArgumentError} (hargs : ∀ given, ¬ Spelled setting.args given)
      (herror : Arguments.parse setting.args = .error e) :
      Takes setting (.refuse none "Error:" e.message)
  /-- The manifest has no version to show. -/
  | badManifest {given : List Arguments.Given} {reason : String}
      (hargs : Spelled setting.args given) (hhelp : .help ∉ given) (hversion : .version ∈ given)
      (hmanifest : manifestFault? setting.manifest = some reason) :
      Takes setting (.refuse none "Error:" reason)
  /-- The configuration cannot be loaded. -/
  | badFile {given : List Arguments.Given} {e : ConfigError} (hargs : Spelled setting.args given)
      (hhelp : .help ∉ given) (hversion : .version ∉ given)
      (hload : (setting.load given).result = .error e) :
      Takes setting (.refuse (some (setting.path given)) "Config error:" e.message)

theorem exists_takes (setting : Setting) : ∃ way, Takes setting way := by
  cases hparse : Arguments.parse setting.args with
  | error e =>
    refine ⟨_, .badArguments (fun given hargs => ?_) hparse⟩
    rw [Arguments.parse_eq_ok_iff.mpr ⟨given, hargs, rfl⟩] at hparse
    cases hparse
  | ok options =>
    obtain ⟨given, hargs, -⟩ := Arguments.parse_eq_ok_iff.mp hparse
    by_cases hhelp : .help ∈ given
    · exact ⟨_, .help hargs hhelp⟩
    · by_cases hversion : .version ∈ given
      · cases hfault : manifestFault? setting.manifest with
        | some reason => exact ⟨_, .badManifest hargs hhelp hversion hfault⟩
        | none =>
          obtain ⟨manifest, text, hmanifest, htext⟩ := manifestFault?_eq_none_iff.mp hfault
          exact ⟨_, .version hargs hhelp hversion hmanifest htext⟩
      · cases hload : (setting.load given).result with
        | error e => exact ⟨_, .badFile hargs hhelp hversion hload⟩
        | ok config => exact ⟨_, .start hargs hhelp hversion hload⟩

/-- The way of a run whose arguments spell these settings. -/
def wayOf (setting : Setting) (given : List Arguments.Given) : Way :=
  if .help ∈ given then .help
  else if .version ∈ given then
    match setting.manifest.toOption.bind versionOf with
    | some text => .version text
    | none => .refuse none "Error:" ((manifestFault? setting.manifest).getD "")
  else
    match (setting.load given).result with
    | .ok config => .start (setting.path given) config
    | .error e => .refuse (some (setting.path given)) "Config error:" e.message

theorem Takes.eq_wayOf {setting : Setting} {way : Way} {given : List Arguments.Given}
    (h : Takes setting way) (hargs : Arguments.Spelled setting.args given) :
    way = wayOf setting given := by
  cases h with
  | badArguments hnone => exact absurd hargs (hnone given)
  | help hspelled hhelp =>
    obtain rfl := hargs.unique hspelled
    rw [wayOf, if_pos hhelp]
  | version hspelled hhelp hversion hmanifest htext =>
    obtain rfl := hargs.unique hspelled
    rw [wayOf, if_neg hhelp, if_pos hversion, hmanifest]
    simp [Except.toOption, htext]
  | start hspelled hhelp hversion hload =>
    obtain rfl := hargs.unique hspelled
    rw [wayOf, if_neg hhelp, if_neg hversion, hload]
  | badManifest hspelled hhelp hversion hmanifest =>
    obtain rfl := hargs.unique hspelled
    rw [wayOf, if_neg hhelp, if_pos hversion, bind_versionOf_eq_none hmanifest, hmanifest]
    rfl
  | badFile hspelled hhelp hversion hload =>
    obtain rfl := hargs.unique hspelled
    rw [wayOf, if_neg hhelp, if_neg hversion, hload]

theorem Takes.unique {setting : Setting} {way other : Way} (h : Takes setting way)
    (hother : Takes setting other) : way = other := by
  by_cases hspelled : ∃ given, Arguments.Spelled setting.args given
  · obtain ⟨given, hargs⟩ := hspelled
    rw [h.eq_wayOf hargs, hother.eq_wayOf hargs]
  · rw [not_exists] at hspelled
    cases h with
    | badArguments _ herror =>
      cases hother with
      | badArguments _ herror' => rw [Except.error.inj (herror.symm.trans herror')]
      | _ => exact absurd ‹_› (hspelled _)
    | _ => exact absurd ‹_› (hspelled _)

/-- All that a run does on this way, the signals included. -/
def Way.Describes (paint : Painter) (signals : List String) (s : Session) : Way → Prop
  | .help => s.Ended [.printed (.line .out (helpText paint))] []
  | .version text => s.Ended [.printed (.line .out text)] []
  | .start path config =>
    s.Serving path config (if signals.any endingSignals.contains then 1 else 0)
  | .refuse path label message =>
    s.Ended (path.toList.map .read ++
      [.printed (.line .err (paint [.red] label ++ " " ++ message))]) [1]

/-! ## The start of a run -/

section
variable {setting : Setting} {given : List Arguments.Given}

theorem launch_of_error {e : ArgumentError} (h : Arguments.parse setting.args = .error e)
    (l : Listening) : launch setting l = stopWith .start setting.paint "Error:" e.message := by
  rw [launch, h]

theorem begin_of_error {e : ConfigError} (h : (setting.load given).result = .error e) (l : Listening) :
    begin setting (given.foldl Arguments.put .none) l =
      stopWith (Session.start.act (.read (setting.path given))) setting.paint "Config error:"
        e.message := by
  have hquiet : (setting.load given).log = [] := Config.quiet_load _ _ _ _ e h
  rw [Setting.load] at h hquiet
  rw [begin, h, hquiet]
  rfl

theorem begin_of_ok {config : Config} (h : (setting.load given).result = .ok config) (l : Listening) :
    begin setting (given.foldl Arguments.put .none) l =
      serve ((Session.start.act (.read (setting.path given))).print
        ((Logger.console setting.paint).print (setting.load given).log)) setting.paint config l := by
  rw [Setting.load] at h ⊢
  rw [begin, h]
  rfl

theorem launch_of_spelled (h : Arguments.Spelled setting.args given) (l : Listening) :
    launch setting l =
      if .help ∈ given then Session.start.print [.line .out (helpText setting.paint)]
      else if .version ∈ given then
        match setting.manifest.toOption.bind versionOf with
        | some text => Session.start.print [.line .out text]
        | none => stopWith .start setting.paint "Error:" ((manifestFault? setting.manifest).getD "")
      else begin setting (given.foldl Arguments.put .none) l := by
  have hhelp : (given.foldl Arguments.put .none).help = true ↔ .help ∈ given := by
    rw [Arguments.help_foldl_put]
    exact or_iff_right Bool.false_ne_true
  have hversion : (given.foldl Arguments.put .none).version = true ↔ .version ∈ given := by
    rw [Arguments.version_foldl_put]
    exact or_iff_right Bool.false_ne_true
  rw [launch, Arguments.parse_eq_ok_iff.mpr ⟨given, h, rfl⟩]
  dsimp only
  rw [if_congr hhelp rfl rfl, if_congr hversion rfl rfl]
  congr 2
  cases setting.manifest with
  | error reason => rfl
  | ok text =>
    simp only [Except.toOption, Option.bind_some, manifestFault?]
    cases versionOf text <;> simp

end

theorem Session.print_deeds (s : Session) (prints : List Printed) :
    (s.print prints).deeds = s.deeds ++ prints.map .printed := by
  rw [print, deeds, deeds, List.filter_append]
  congr 1
  exact List.filter_eq_self.mpr fun action haction => by
    obtain ⟨printed, -, rfl⟩ := List.mem_map.mp haction
    rfl

theorem Session.print_append (s : Session) (prints more : List Printed) :
    s.print (prints ++ more) = (s.print prints).print more := by
  simp only [print, List.map_append, List.append_assoc]

/-- A refusal is one report and one call for the end of the program. -/
theorem stopWith_ended {s : Session} {deeds : List Action} (h : s.Ended deeds []) (paint : Painter)
    (label message : String) :
    (stopWith s paint label message).Ended
      (deeds ++ [.printed (.line .err (paint [.red] label ++ " " ++ message))]) [1] where
  deeds := by
    rw [← h.deeds]
    exact s.print_deeds _
  exits := congrArg (· ++ [1]) h.exits
  closes := h.closes
  timers := h.timers
  unhandled := h.unhandled

theorem print_ended (prints : List Printed) :
    (Session.start.print prints).Ended (prints.map .printed) [] :=
  ⟨Session.print_deeds .start prints, rfl, rfl, rfl, rfl⟩

theorem read_ended (path : String) : (Session.start.act (.read path)).Ended [.read path] [] :=
  ⟨rfl, rfl, rfl, rfl, rfl⟩

/-- After the server has been told to listen, the run only prints. -/
theorem afterListen_serving {s : Session} {path : String} {config : Config}
    (h : s.Serving path config 0) (paint : Painter) (l : Listening) :
    (afterListen s paint config l).Serving path config 0 := by
  obtain ⟨before, after, hdeeds⟩ := h.deeds
  have hprint (prints : List Printed) : (s.print prints).Serving path config 0 := by
    refine ⟨⟨before, after ++ prints, ?_⟩, h.closes, h.timers, h.handled⟩
    rw [Session.print_deeds, hdeeds, List.map_append, List.append_assoc]
  rw [afterListen]
  cases l.failure with
  | none => exact hprint _
  | some e => exact ⟨(hprint _).deeds, h.closes, h.timers, h.handled⟩

/-- A run whose server has been told to listen. -/
def listening (s : Session) (config : Config) : Session :=
  { (s.act .created).act (.listened config.host config.port) with handlesSignals := true }

theorem listening_serving (path : String) (prints : List Printed) (config : Config) :
    (listening ((Session.start.act (.read path)).print prints) config).Serving path config 0 := by
  refine ⟨⟨prints, [], ?_⟩, rfl, rfl, rfl⟩
  have hprinted : ((Session.start.act (.read path)).print prints).deeds =
      .read path :: prints.map .printed := Session.print_deeds _ prints
  change List.filter _ (_ ++ [Action.created] ++ [Action.listened config.host config.port]) = _
  rw [List.filter_append, List.filter_append, List.map_nil, List.append_nil, ← hprinted,
    List.append_assoc]
  rfl

/-- Rules can always be made, so the server is told to listen, after what is printed before. -/
theorem exists_serve_eq (s : Session) (paint : Painter) (config : Config) (l : Listening) :
    ∃ prints, serve s paint config l =
      afterListen (listening (s.print prints) config) paint config l := by
  obtain ⟨server, log, hserver⟩ := Server.exists_create config.headers config.proxy
  refine ⟨[.line .out (paint [.blue, .bold] "\ndevroute\n"),
    .line .out (paint [.gray] config.describe)] ++
      (Logger.console paint).print log, ?_⟩
  rw [serve, hserver, Session.print_append]
  rfl

theorem begin_serving {setting : Setting} {given : List Arguments.Given} {config : Config}
    (h : (setting.load given).result = .ok config) (l : Listening) :
    (begin setting (given.foldl Arguments.put .none) l).Serving (setting.path given) config 0 := by
  rw [begin_of_ok h]
  obtain ⟨prints, hserve⟩ := exists_serve_eq _ setting.paint config l
  rw [hserve, ← Session.print_append]
  exact afterListen_serving (listening_serving _ _ config) setting.paint l

/-- A run takes one way, and does what the way says. -/
theorem run_takes_one_way (setting : Setting) (l : Listening) (signals : List String) :
    ∃ way, Takes setting way ∧ (∀ other, Takes setting other → other = way) ∧
      way.Describes setting.paint signals (run setting l signals) := by
  obtain ⟨way, hway⟩ := exists_takes setting
  refine ⟨way, hway, fun other hother => hother.unique hway, ?_⟩
  rw [run]
  cases hway with
  | help hargs hhelp =>
    rw [launch_of_spelled hargs, if_pos hhelp]
    exact expire_ended (foldl_signal_ended l.drains (print_ended _) signals)
  | version hargs hhelp hversion hmanifest htext =>
    rw [launch_of_spelled hargs, if_neg hhelp, if_pos hversion, hmanifest]
    simp only [Except.toOption, Option.bind_some, htext]
    exact expire_ended (foldl_signal_ended l.drains (print_ended _) signals)
  | start hargs hhelp hversion hload =>
    rw [launch_of_spelled hargs, if_neg hhelp, if_neg hversion]
    exact expire_serving
      (foldl_signal_serving l.drains (begin_serving hload l) (Nat.zero_le 1) signals)
  | badArguments hargs herror =>
    rw [launch_of_error herror]
    exact expire_ended (foldl_signal_ended l.drains (stopWith_ended (print_ended []) _ _ _) signals)
  | badManifest hargs hhelp hversion hmanifest =>
    rw [launch_of_spelled hargs, if_neg hhelp, if_pos hversion, bind_versionOf_eq_none hmanifest,
      hmanifest]
    exact expire_ended (foldl_signal_ended l.drains (stopWith_ended (print_ended []) _ _ _) signals)
  | badFile hargs hhelp hversion hload =>
    rw [launch_of_spelled hargs, if_neg hhelp, if_neg hversion, begin_of_error hload]
    exact expire_ended (foldl_signal_ended l.drains (stopWith_ended (read_ended _) _ _ _) signals)

end CommandLine

end Gateway
