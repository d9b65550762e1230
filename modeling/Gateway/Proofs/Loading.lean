import Gateway.Proofs.Arguments

/- Loading the configuration. Reading a file reports nothing before it fails (`FileConfig.quiet_ofText`),
   and what it gives are the members of the object `server` (`FileConfig.Reads`). So loading either
   fails with an error about the file that was asked for, or gives a configuration that is well
   formed and drawn from its four sources (`Config.loads_of_parse`). -/
namespace Gateway

/-! ## Steps that report -/

namespace Reported
variable {ε δ α β : Type}

theorem bind_result_eq_ok_iff {x : Reported ε α} {f : α → Reported ε β} {b : β} :
    (x >>= f).result = .ok b ↔ ∃ a, x.result = .ok a ∧ (f a).result = .ok b := by
  change (bind x f).result = .ok b ↔ _
  rw [bind]
  cases x.result <;> simp

/-- If the step fails it has reported nothing. -/
def Quiet (x : Reported ε α) : Prop := ∀ e, x.result = .error e → x.log = []

theorem quiet_of_log_eq_nil {x : Reported ε α} (h : x.log = []) : Quiet x := fun _ _ => h

theorem Quiet.bind_of_log_eq_nil {x : Reported ε α} {f : α → Reported ε β} (hx : x.log = [])
    (hf : ∀ a, Quiet (f a)) : Quiet (x >>= f) := by
  change Quiet (bind x f)
  rw [bind]
  cases x.result with
  | error e => exact quiet_of_log_eq_nil hx
  | ok a =>
    intro e he
    change x.log ++ (f a).log = []
    rw [hx, List.nil_append]
    exact hf a e he

theorem Quiet.bind_pure {x : Reported ε α} (hx : Quiet x) (g : α → β) :
    Quiet (x >>= fun a => pure (g a)) := by
  change Quiet (bind x fun a => pure (g a))
  rw [bind]
  cases hresult : x.result with
  | error e => exact quiet_of_log_eq_nil (hx e hresult)
  | ok a =>
    intro e he
    cases he

end Reported

/-! ## Reading a file -/

namespace RuleEntry

/-- The key ends with a slash, and there is a target. -/
def IsComplete (entry : RuleEntry) : Prop :=
  entry.key.toList.getLast? = some '/' ∧ entry.target ≠ ""

/-- What a member gives: its entry, if there is one, and what is reported about it. -/
inductive Gives (key : String) : Json → Option RuleEntry × Log → Prop
  | other {value : Json} (hvalue : ∀ members, value ≠ .object members) : Gives key value (none, [])
  | badKey (members : Fields Json) (hkey : key.toList.getLast? ≠ some '/') :
      Gives key (.object members) (none, [badKey key])
  | noTarget (members : Fields Json) (hkey : key.toList.getLast? = some '/')
      (htarget : ∀ target, Json.member? members "target" = some (.text target) → target = "") :
      Gives key (.object members) (none, [noTarget key])
  | entry (members : Fields Json) (target : String) (hkey : key.toList.getLast? = some '/')
      (htarget : Json.member? members "target" = some (.text target)) (hne : target ≠ "") :
      Gives key (.object members)
        (some ⟨key, target, (readRewrite key (Json.member? members "rewrite")).1⟩,
          (readRewrite key (Json.member? members "rewrite")).2)

theorem gives_ofMember (key : String) (value : Json) : Gives key value (ofMember key value) := by
  unfold ofMember
  split
  · next members =>
    split
    · next hkey => exact .badKey members hkey
    · next hkey =>
      split
      · next target htarget =>
        split
        · next hempty =>
          refine .noTarget members (not_not.mp hkey) fun other hother => ?_
          rw [htarget] at hother
          cases hother
          exact hempty
        · next hne => exact .entry members target (not_not.mp hkey) htarget hne
      · next hnone =>
        exact .noTarget members (not_not.mp hkey) fun target htarget => absurd htarget (hnone target)
  · next hvalue => exact .other hvalue

theorem isComplete_of_ofMember {key : String} {value : Json} {entry : RuleEntry}
    (h : (ofMember key value).1 = some entry) : entry.IsComplete := by
  have hgives := gives_ofMember key value
  generalize ofMember key value = read at h hgives
  cases hgives with
  | entry members target hkey htarget hne =>
    cases h
    exact ⟨hkey, hne⟩
  | _ => cases h

theorem isComplete_of_mem_ofMembers {members : Fields Json} {entry : RuleEntry}
    (h : entry ∈ (ofMembers members).1) : entry.IsComplete := by
  obtain ⟨read, hread, hentry⟩ := List.mem_filterMap.mp h
  obtain ⟨member, -, rfl⟩ := List.mem_map.mp hread
  exact isComplete_of_ofMember hentry

end RuleEntry

namespace FileConfig

/-- The fields are what the members of the object `server` give. -/
structure Reads (server : Fields Json) (file : FileConfig) : Prop where
  host : Json.member? server "host" = file.host.map .text
  port : Json.member? server "port" = file.port.map .number
  isPort : ∀ port ∈ file.port, Config.isPort port = true
  headersListed : Fields.IsListed (file.headers.getD [])
  /-- Every header is a member that is a text. -/
  headers : ∀ header ∈ file.headers.getD [], ∃ members,
    Json.member? server "headers" = some (.object members) ∧
      (header.1, .text header.2) ∈ members
  proxy : ∀ entry ∈ file.proxy.getD [], entry.IsComplete

section
variable {member : Option Json}

theorem readHost_eq_ok {host : Option String} (h : readHost member = .ok host) :
    member = host.map .text := by
  unfold readHost at h
  split at h <;> cases h
  all_goals rfl

theorem readPort_eq_ok {port : Option Number} (h : readPort member = .ok port) :
    member = port.map .number ∧ ∀ n ∈ port, Config.isPort n = true := by
  unfold readPort at h
  split at h
  · cases h
    exact ⟨rfl, by simp⟩
  · split at h
    · next hport =>
      cases h
      exact ⟨rfl, by simpa using hport⟩
    · cases h
  · cases h

theorem readHeaderPairs_eq_ok {members : List (String × Json)} {pairs : List (String × String)}
    (h : readHeaderPairs members = .ok pairs) :
    members = pairs.map fun pair => (pair.1, .text pair.2) := by
  fun_induction readHeaderPairs members generalizing pairs with
  | case1 => cases h; rfl
  | case2 name value rest ih =>
    cases hrest : readHeaderPairs rest with
    | error e =>
      rw [hrest] at h
      cases h
    | ok more =>
      rw [hrest] at h
      cases h
      rw [List.map_cons, ih hrest]
  | case3 => cases h

theorem readHeaders_eq_ok {headers : Option (Fields String)} (h : readHeaders member = .ok headers) :
    Fields.IsListed (headers.getD []) ∧ ∀ header ∈ headers.getD [], ∃ members,
      member = some (.object members) ∧ (header.1, .text header.2) ∈ members := by
  unfold readHeaders at h
  split at h
  · cases h
    exact ⟨Fields.isListed_nil, by simp⟩
  · next members =>
    cases hpairs : readHeaderPairs members with
    | error e =>
      rw [hpairs] at h
      cases h
    | ok pairs =>
      rw [hpairs] at h
      cases h
      refine ⟨Fields.isListed_nil.foldl_assign pairs, fun header hm => ⟨members, rfl, ?_⟩⟩
      rw [readHeaderPairs_eq_ok hpairs]
      exact List.mem_map_of_mem
        ((Fields.isListed_nil.mem_of_mem_foldl_assign hm).resolve_left List.not_mem_nil)
  · cases h

theorem readProxy_eq_ok {proxy : Option (List RuleEntry)} (h : (readProxy member).result = .ok proxy) :
    ∀ entry ∈ proxy.getD [], entry.IsComplete := by
  unfold readProxy at h
  split at h
  · cases h
    simp
  · cases h
    exact fun entry hm => RuleEntry.isComplete_of_mem_ofMembers hm
  · cases h

theorem quiet_readProxy (member : Option Json) : (readProxy member).Quiet := by
  unfold readProxy
  split
  · exact Reported.quiet_of_log_eq_nil rfl
  · intro e he
    cases he
  · exact Reported.quiet_of_log_eq_nil rfl

end

theorem reads_of_ofServer {server : Fields Json} {file : FileConfig}
    (h : (ofServer server).result = .ok file) : Reads server file := by
  obtain ⟨host, hhost, h⟩ := Reported.bind_result_eq_ok_iff.mp h
  obtain ⟨port, hport, h⟩ := Reported.bind_result_eq_ok_iff.mp h
  obtain ⟨headers, hheaders, h⟩ := Reported.bind_result_eq_ok_iff.mp h
  obtain ⟨proxy, hproxy, h⟩ := Reported.bind_result_eq_ok_iff.mp h
  cases h
  obtain ⟨hport, hisPort⟩ := readPort_eq_ok hport
  obtain ⟨hlisted, hheaders⟩ := readHeaders_eq_ok hheaders
  exact ⟨readHost_eq_ok hhost, hport, hisPort, hlisted, hheaders, readProxy_eq_ok hproxy⟩

/-- Only the last step reports anything, and it does not fail after that. -/
theorem quiet_ofServer (server : Fields Json) : (ofServer server).Quiet :=
  .bind_of_log_eq_nil rfl fun _ => .bind_of_log_eq_nil rfl fun _ => .bind_of_log_eq_nil rfl fun _ =>
    (quiet_readProxy _).bind_pure _

theorem quiet_ofJson (raw : Json) : (ofJson raw).Quiet := by
  unfold ofJson
  split
  · split
    · exact quiet_ofServer _
    · exact Reported.quiet_of_log_eq_nil rfl
  · exact Reported.quiet_of_log_eq_nil rfl

theorem quiet_ofText (text : String) : (ofText text).Quiet := by
  unfold ofText
  split
  · exact quiet_ofJson _
  · exact Reported.quiet_of_log_eq_nil rfl

/-- What is read is an object with an object `server`. -/
theorem ofJson_of_ok {raw : Json} {file : FileConfig} (h : (ofJson raw).result = .ok file) :
    ∃ root server, raw = .object root ∧ Json.member? root "server" = some (.object server) ∧
      ofJson raw = ofServer server := by
  unfold ofJson at h ⊢
  split at h
  · next root =>
    split at h
    · next server hserver => exact ⟨root, server, rfl, hserver, rfl⟩
    · cases h
  · cases h

theorem reads_of_ofText {text : String} {file : FileConfig} (h : (ofText text).result = .ok file) :
    ∃ root server, Json.parse? text = some (.object root) ∧
      Json.member? root "server" = some (.object server) ∧ Reads server file := by
  unfold ofText at h
  split at h
  · next json hparse =>
    obtain ⟨root, server, rfl, hserver, heq⟩ := ofJson_of_ok h
    rw [heq] at h
    exact ⟨root, server, hparse, hserver, reads_of_ofServer h⟩
  · cases h

end FileConfig

/-! ## Resolving -/

namespace Config

/-- The server can be started with the configuration. -/
structure IsWellFormed (config : Config) : Prop where
  host : config.host ≠ ""
  port : ∃ n, config.port.toNat? = some n ∧ n ≤ 65535
  proxy : ∀ entry ∈ config.proxy, entry.IsComplete

/-- The configuration is drawn from the arguments, the environment, the file and the defaults: the
    first host that is not empty, the first port that is one, and headers of both kinds. -/
structure ResolvedFrom (options : Arguments) (env : Environment) (file : FileConfig)
    (config : Config) : Prop where
  host : [options.host, env.host, file.host, some defaultHost].findSome? nonEmpty = some config.host
  port : [options.port, (nonEmpty env.port).map Number.ofText, file.port,
    some defaultPort].findSome? (Option.filter isPort) = some config.port
  headers : ∀ header ∈ config.headers, header ∈ options.headers ∨ header ∈ file.headers.getD []
  proxy : config.proxy = file.proxy.getD []

theorem ne_of_findSome?_nonEmpty {candidates : List (Option String)} {text : String}
    (h : candidates.findSome? nonEmpty = some text) : text ≠ "" := by
  obtain ⟨candidate, -, hfilter⟩ := List.exists_of_findSome?_eq_some h
  simpa using (Option.filter_eq_some_iff.mp hfilter).2

theorem isPort_iff {n : Number} : isPort n = true ↔ ∃ k, n.toNat? = some k ∧ k ≤ 65535 := by
  rw [isPort]
  cases n.toNat? with
  | none => simp
  | some k => exact decide_eq_true_iff.trans (by simp [maxPort])

theorem filter_isPort {n : Option Number} (h : ∀ k ∈ n, isPort k = true) : n.filter isPort = n := by
  cases n with
  | none => rfl
  | some k => rw [Option.filter_some_pos (h k rfl)]

/-- Of four candidates the first that counts, if the last one does in any case. -/
theorem findSome?_of_last_eq_some {α β : Type} {f : α → Option β} {a b c d : α} {last : β}
    (h : f d = some last) :
    [a, b, c, d].findSome? f = some ((((f a).or (f b)).or (f c)).getD last) := by
  cases ha : f a <;> cases hb : f b <;> cases hc : f c <;> simp [ha, hb, hc, h]

variable {options : Arguments} {env : Environment} {file : FileConfig}

theorem resolvedFrom_resolve (hport : ∀ n ∈ options.port, isPort n = true)
    (hfile : ∀ n ∈ file.port, isPort n = true) (hlisted : Fields.IsListed (file.headers.getD [])) :
    ResolvedFrom options env file (resolve options.overrides env file) where
  host := by
    have hdefault : nonEmpty (some defaultHost) = some defaultHost := by decide
    exact findSome?_of_last_eq_some hdefault
  port := by
    have hdefault : (some defaultPort).filter isPort = some defaultPort := by decide
    rw [findSome?_of_last_eq_some hdefault, filter_isPort hport, filter_isPort hfile]
    rfl
  headers := by
    intro header hm
    rw [resolve, hlisted.merge_nil] at hm
    exact hlisted.mem_of_mem_merge hm
  proxy := rfl

theorem isWellFormed_of_resolvedFrom {config : Config} (h : ResolvedFrom options env file config)
    (hproxy : ∀ entry ∈ file.proxy.getD [], entry.IsComplete) : config.IsWellFormed where
  host := ne_of_findSome?_nonEmpty h.host
  port := by
    obtain ⟨candidate, -, hfilter⟩ := List.exists_of_findSome?_eq_some h.port
    exact isPort_iff.mp (Option.filter_eq_some_iff.mp hfilter).2
  proxy := by rwa [h.proxy]

/-! ## Loading -/

theorem explicitPath_eq (options : Arguments) (env : Environment) :
    explicitPath options.overrides env = [options.configPath, env.config].findSome? nonEmpty := by
  rw [explicitPath, Arguments.overrides]
  cases h : nonEmpty options.configPath <;> cases h' : nonEmpty env.config <;> simp [h, h']

/-- The name of the file to read, from the command line, the environment or by default. -/
theorem findSome?_fileName (options : Arguments) (env : Environment) :
    [options.configPath, env.config, some fileName].findSome? nonEmpty =
      some ((explicitPath options.overrides env).getD fileName) := by
  have hdefault : nonEmpty (some fileName) = some fileName := by decide
  rw [explicitPath, Arguments.overrides]
  cases h : nonEmpty options.configPath <;> cases h' : nonEmpty env.config <;>
    simp [h, h', hdefault]

/-- How a configuration is loaded: with which result, and with which log. -/
inductive Loads (options : Arguments) (cwd : String) (env : Environment)
    (read : String → Except SystemError String) : Reported ConfigError Config → Prop
  /-- The file cannot be read. -/
  | unreadable (name : String) (e : SystemError)
      (hname : [options.configPath, env.config, some fileName].findSome? nonEmpty = some name)
      (hread : read (FilePath.resolve cwd name) = .error e)
      (hneeded : e.code ≠ some "ENOENT" ∨
        [options.configPath, env.config].findSome? nonEmpty ≠ none) :
      Loads options cwd env read
        ⟨.error ⟨FilePath.resolve cwd name, .unreadable e.message⟩, []⟩
  /-- The contents of the file are no configuration. -/
  | rejected (name text : String) (fault : ConfigFault)
      (hname : [options.configPath, env.config, some fileName].findSome? nonEmpty = some name)
      (hread : read (FilePath.resolve cwd name) = .ok text)
      (hfault : (FileConfig.ofText text).result = .error fault) :
      Loads options cwd env read ⟨.error ⟨FilePath.resolve cwd name, fault⟩, []⟩
  /-- There is no file, and none was asked for. -/
  | missing (e : SystemError) (config : Config)
      (hdefault : [options.configPath, env.config].findSome? nonEmpty = none)
      (hread : read (FilePath.resolve cwd fileName) = .error e)
      (hcode : e.code = some "ENOENT")
      (hresolved : ResolvedFrom options env .empty config) (hwell : config.IsWellFormed) :
      Loads options cwd env read ⟨.ok config, [fileMissing]⟩
  /-- The file gives what it can. -/
  | loaded (name text : String) (root server : Fields Json) (file : FileConfig) (config : Config)
      (log : Log)
      (hname : [options.configPath, env.config, some fileName].findSome? nonEmpty = some name)
      (hread : read (FilePath.resolve cwd name) = .ok text)
      (hparse : Json.parse? text = some (.object root))
      (hserver : Json.member? root "server" = some (.object server))
      (hreads : file.Reads server) (hresolved : ResolvedFrom options env file config)
      (hwell : config.IsWellFormed) :
      Loads options cwd env read ⟨.ok config, log⟩

variable {cwd : String} {read : String → Except SystemError String}

theorem load_of_missing {e : SystemError}
    (hread : read (pathOf options.overrides cwd env) = .error e)
    (hcode : e.code = some "ENOENT") (hdefault : explicitPath options.overrides env = none) :
    load options.overrides cwd env read = ⟨.ok (resolve options.overrides env .empty), [fileMissing]⟩ := by
  rw [load]
  simp only [hread, readFile, hcode, hdefault]
  rfl

theorem load_of_error {e : SystemError}
    (hread : read (pathOf options.overrides cwd env) = .error e)
    (hneeded : e.code ≠ some "ENOENT" ∨ explicitPath options.overrides env ≠ none) :
    load options.overrides cwd env read =
      ⟨.error ⟨pathOf options.overrides cwd env, .unreadable e.message⟩, []⟩ := by
  have hfails : (decide (e.code = some "ENOENT") &&
      !(explicitPath options.overrides env).isSome) = false := by
    rcases hneeded with h | h
    · simp [h]
    · simp [Option.isSome_iff_ne_none.mpr h]
  rw [load]
  simp only [hread, readFile, hfails]
  rfl

theorem load_of_ok {text : String} (hread : read (pathOf options.overrides cwd env) = .ok text) :
    load options.overrides cwd env read =
      ⟨match (FileConfig.ofText text).result with
        | .error fault => .error ⟨pathOf options.overrides cwd env, fault⟩
        | .ok file => .ok (resolve options.overrides env file), (FileConfig.ofText text).log⟩ := by
  rw [load]
  simp only [hread, readFile, Reported.mapError, Reported.map]
  cases (FileConfig.ofText text).result <;> rfl

/-- Loading reports nothing if it fails. -/
theorem quiet_load (options : Arguments) (cwd : String) (env : Environment)
    (read : String → Except SystemError String) : (load options.overrides cwd env read).Quiet := by
  intro e he
  rcases hread : read (pathOf options.overrides cwd env) with reason | text
  · by_cases hneeded : reason.code ≠ some "ENOENT" ∨ explicitPath options.overrides env ≠ none
    · rw [load_of_error hread hneeded]
    · obtain ⟨hcode, hdefault⟩ := not_or.mp hneeded
      rw [load_of_missing hread (not_not.mp hcode) (not_not.mp hdefault)] at he
      cases he
  · rw [load_of_ok hread] at he ⊢
    cases hfile : (FileConfig.ofText text).result with
    | error fault => exact FileConfig.quiet_ofText text fault hfile
    | ok file =>
      rw [hfile] at he
      cases he

/-- Loading with accepted arguments goes one of these ways, whatever the environment and the file. -/
theorem loads_of_parse {args : List String} (hargs : Arguments.parse args = .ok options)
    (cwd : String) (env : Environment) (read : String → Except SystemError String) :
    Loads options cwd env read (load options.overrides cwd env read) := by
  have hname := findSome?_fileName options env
  have hexplicit := explicitPath_eq options env
  have hport := Arguments.isPort_of_parse hargs
  rcases hread : read (pathOf options.overrides cwd env) with e | text
  · by_cases hneeded : e.code ≠ some "ENOENT" ∨ explicitPath options.overrides env ≠ none
    · rw [load_of_error hread hneeded]
      exact .unreadable _ e hname hread (by rwa [← hexplicit])
    · obtain ⟨hcode, hdefault⟩ := not_or.mp hneeded
      rw [not_not] at hcode hdefault
      rw [load_of_missing hread hcode hdefault]
      have hpath : pathOf options.overrides cwd env = FilePath.resolve cwd fileName := by
        rw [pathOf, hdefault]
        rfl
      have hresolved : ResolvedFrom options env .empty (resolve options.overrides env .empty) :=
        resolvedFrom_resolve hport (by simp [FileConfig.empty]) Fields.isListed_nil
      exact .missing e _ (by rw [← hexplicit, hdefault]) (hpath ▸ hread) hcode hresolved
        (isWellFormed_of_resolvedFrom hresolved (by simp [FileConfig.empty]))
  · rw [load_of_ok hread]
    cases hfile : (FileConfig.ofText text).result with
    | error fault =>
      rw [FileConfig.quiet_ofText text fault hfile]
      exact .rejected _ text fault hname hread hfile
    | ok file =>
      obtain ⟨root, server, hparse, hserver, hreads⟩ := FileConfig.reads_of_ofText hfile
      have hresolved : ResolvedFrom options env file (resolve options.overrides env file) :=
        resolvedFrom_resolve hport hreads.isPort hreads.headersListed
      exact .loaded _ text root server file _ _ hname hread hparse hserver hreads hresolved
        (isWellFormed_of_resolvedFrom hresolved hreads.proxy)

/-- An environment that gives nothing. -/
def bareEnvironment : Environment := ⟨none, none, none⟩

/-- One file, next to the working directory. -/
def ownFile (text : String) (path : String) : Except SystemError String :=
  if path = "/work/devroute.json" then .ok text else .error (.noSuchFile path)

/-- A file with an empty host and a port that the command line overrides. -/
theorem ownFile_loads :
    let options := { Arguments.none with port := some 3000 }
    let read := ownFile "\x7b\"server\": \x7b\"host\": \"\", \"port\": 80\x7d\x7d"
    Arguments.parse ["-p", "3000"] = .ok options ∧
      Loads options "/work" bareEnvironment read
        (load options.overrides "/work" bareEnvironment read) := by
  intro options read
  have hargs : Arguments.parse ["-p", "3000"] = .ok options := by decide
  exact ⟨hargs, loads_of_parse hargs _ _ _⟩

end Config

end Gateway
