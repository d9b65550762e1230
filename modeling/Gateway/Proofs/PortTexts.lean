import Gateway.Proofs.Arguments
import Gateway.Proofs.Integers
import Gateway.Proofs.Loading
import Gateway.Proofs.Text.Letters

/- Texts that stand for a port, behind a flag and in the environment. Both read the number that the
   text spells and take it if it is one that a port can have (`Arguments.takesPort_iff`,
   `Config.takesPort_iff`). They differ in what they pass over: no text that looks like a flag is
   the value of one, so a zero with a minus sign is a port in the environment only, and an empty
   variable counts as none (`portTexts_agree`). A number is only read from a text with a digit,
   unless the text is blank (`Number.exists_digit`). -/
namespace Gateway

/-! ## The digits of a number -/

namespace Number

theorem isDigit_of_digitValue {c : Char} {d : Nat} (h : digitValue c = some d) (hd : d < 10) :
    c.isDigit = true := by
  by_contra hother
  rw [digitValue, if_neg hother] at h
  -- letters are worth ten at least
  split at h
  · next hlower =>
    have hcode : 'a'.toNat ≤ c.toNat := hlower.1
    have hvalue := Option.some.inj h
    have ha : 'a'.toNat = 97 := rfl
    omega
  · split at h
    · next hupper =>
      have hcode : 'A'.toNat ≤ c.toNat := hupper.1
      have hvalue := Option.some.inj h
      have hA : 'A'.toNat = 65 := rfl
      omega
    · cases h

theorem readDigits_append_singleton (base : Nat) (s : List Char) (c : Char) :
    readDigits base (s ++ [c]) = (readDigits base s).bind fun n => (digitValue c).bind fun d =>
      if d < base then some (n * base + d) else none := by
  rw [readDigits, List.foldl_append]
  rfl

/-- A decimal text that is read consists of digits. -/
theorem isDigit_of_readDigits {s : List Char} {n : Nat} (h : readDigits 10 s = some n) :
    ∀ c ∈ s, c.isDigit = true := by
  induction s using List.reverseRecOn generalizing n with
  | nil =>
    intro c hc
    cases hc
  | append_singleton s c ih =>
    rw [readDigits_append_singleton] at h
    obtain ⟨m, hm, h⟩ := Option.bind_eq_some_iff.mp h
    obtain ⟨d, hd, h⟩ := Option.bind_eq_some_iff.mp h
    split at h
    · next hlt =>
      intro a ha
      rcases List.mem_append.mp ha with ha | ha
      · exact ih hm a ha
      · obtain rfl := List.mem_singleton.mp ha
        exact isDigit_of_digitValue hd hlt
    · cases h

theorem mem_of_mem_cutAt {p : Char → Bool} {s before : List Char} {after : Option (List Char)}
    (h : cutAt p s = (before, after)) :
    (∀ c ∈ before, c ∈ s) ∧ ∀ rest ∈ after, ∀ c ∈ rest, c ∈ s := by
  unfold cutAt at h
  split at h
  · cases h
    exact ⟨fun _ hc => hc, fun rest hrest => by cases hrest⟩
  · next a rest hdrop =>
    cases h
    refine ⟨fun c hc => (List.takeWhile_sublist _).mem hc, ?_⟩
    intro more hmore c hc
    cases hmore
    have hmem : c ∈ s.dropWhile fun c => !p c := by
      rw [hdrop]
      exact List.mem_cons_of_mem a hc
    exact (List.dropWhile_sublist _).mem hmem

/-- A decimal that is read has a digit. -/
theorem readDecimal_eq_some {negative : Bool} {s : List Char} {n : Number}
    (h : readDecimal negative s = some n) :
    (∃ c ∈ s, c.isDigit = true) ∧ ∃ digits e, n = ofDecimal negative digits e := by
  unfold readDecimal at h
  rcases hmantissa : cutAt (fun c => c == 'e' || c == 'E') s with ⟨mantissa, exponent⟩
  rcases hpoint : cutAt (· == '.') mantissa with ⟨whole, fraction⟩
  simp only [hmantissa, hpoint] at h
  split at h
  · cases h
  · next hsome =>
    obtain ⟨digits, hdigits, h⟩ := Option.bind_eq_some_iff.mp h
    constructor
    · have hne : whole ++ fraction.getD [] ≠ [] := fun hnil => hsome (List.isEmpty_iff.mpr hnil)
      obtain ⟨c, rest, hcons⟩ := List.exists_cons_of_ne_nil hne
      have hc : c ∈ whole ++ fraction.getD [] := by
        rw [hcons]
        exact List.mem_cons_self
      refine ⟨c, ?_, isDigit_of_readDigits hdigits c hc⟩
      apply (mem_of_mem_cutAt hmantissa).1
      rcases List.mem_append.mp hc with hc | hc
      · exact (mem_of_mem_cutAt hpoint).1 c hc
      · cases fraction with
        | none => cases hc
        | some fraction => exact (mem_of_mem_cutAt hpoint).2 fraction rfl c hc
    · cases exponent with
      | none => exact ⟨digits, _, (Option.some.inj h).symm⟩
      | some exponent =>
        obtain ⟨e, -, h⟩ := Option.bind_eq_some_iff.mp h
        exact ⟨digits, _, (Option.some.inj h).symm⟩

theorem exists_digit_of_readUnsigned {negative : Bool} {s : List Char} {k : Nat}
    (h : (readUnsigned negative s).toNat? = some k) : ∃ c ∈ s, c.isDigit = true := by
  unfold readUnsigned at h
  split at h
  · cases h
  · cases hread : readDecimal negative s with
    | none =>
      rw [hread] at h
      cases h
    | some n => exact (readDecimal_eq_some hread).1

theorem exists_digit_of_readTrimmed {s : List Char} {k : Nat} (hne : s ≠ [])
    (h : (readTrimmed s).toNat? = some k) : ∃ c ∈ s, c.isDigit = true := by
  have hmark {rest : List Char} : ∃ c ∈ '0' :: rest, c.isDigit = true :=
    ⟨'0', List.mem_cons_self, rfl⟩
  have hsigned {sign : Char} {rest : List Char} (h : ∃ c ∈ rest, c.isDigit = true) :
      ∃ c ∈ sign :: rest, c.isDigit = true := by
    obtain ⟨c, hc, hdigit⟩ := h
    exact ⟨c, List.mem_cons_of_mem sign hc, hdigit⟩
  unfold readTrimmed at h
  split at h
  · exact absurd rfl hne
  · exact hmark
  · exact hmark
  · exact hmark
  · exact hmark
  · exact hmark
  · exact hmark
  · exact hsigned (exists_digit_of_readUnsigned h)
  · exact hsigned (exists_digit_of_readUnsigned h)
  · exact exists_digit_of_readUnsigned h

/-- An integer is only read from a text with a digit, unless the text is blank. -/
theorem exists_digit {s : String} {k : Nat} (hblank : ∃ c ∈ s.toList, Text.isBlank c = false)
    (h : (ofText s).toNat? = some k) : ∃ c ∈ s.toList, c.isDigit = true := by
  have hne : Text.trim s.toList ≠ [] := by
    intro hnil
    obtain ⟨c, hc, hother⟩ := hblank
    rw [Text.trim_eq_nil_iff.mp hnil c hc] at hother
    cases hother
  obtain ⟨c, hc, hdigit⟩ := exists_digit_of_readTrimmed hne h
  exact ⟨c, Text.mem_of_mem_trim hc, hdigit⟩

end Number

/-! ## Numbers behind a minus sign -/

namespace Text

theorem trim_cons {c : Char} (hc : isBlank c = false) (s : List Char) :
    ∃ rest, trim (c :: s) = c :: rest := by
  have hstart : (c :: s).dropWhile isBlank = c :: s := List.dropWhile_cons_of_neg (by simp [hc])
  have hlast : [c].dropWhile isBlank = [c] := List.dropWhile_cons_of_neg (by simp [hc])
  refine ⟨(s.reverse.dropWhile isBlank).reverse, ?_⟩
  rw [trim, hstart, dropTrailing, List.reverse_cons, List.dropWhile_append, hlast]
  split
  · next hempty => rw [List.isEmpty_iff.mp hempty]; rfl
  · rw [List.reverse_append]
    rfl

end Text

namespace Number

theorem ofRatio_cases (negative : Bool) (num den : Nat) :
    ofRatio negative num den = zero ∨ ofRatio negative num den = .infinity negative ∨
      ∃ m e, m ≠ 0 ∧ ofRatio negative num den = .finite negative m e := by
  unfold ofRatio
  split
  · exact .inl rfl
  · dsimp only
    generalize (if scaled num den (exponentOf num den) = Nat.pow 2 53 then
      (Nat.pow 2 52, exponentOf num den + 1)
      else (scaled num den (exponentOf num den), exponentOf num den)) = rounded
    split
    · exact .inl rfl
    · next hm =>
      split
      · exact .inr (.inl rfl)
      · exact .inr (.inr ⟨_, _, hm, rfl⟩)

theorem ofDecimal_cases (negative : Bool) (digits : Nat) (e : Int) :
    ofDecimal negative digits e = zero ∨ ofDecimal negative digits e = .infinity negative ∨
      ∃ m e', m ≠ 0 ∧ ofDecimal negative digits e = .finite negative m e' := by
  unfold ofDecimal
  dsimp only
  split
  · exact .inl rfl
  · split
    · exact .inr (.inl rfl)
    · split
      · exact ofRatio_cases negative _ _
      · exact ofRatio_cases negative _ _

/-- No number with a minus sign is a port, but for zero. -/
theorem eq_zero_of_minus {s : String} {k : Nat} (hminus : s.toList.head? = some '-')
    (h : (ofText s).toNat? = some k) : ofText s = 0 := by
  obtain ⟨rest, hrest⟩ := List.head?_eq_some_iff.mp hminus
  obtain ⟨digits, htrim⟩ := Text.trim_cons (show Text.isBlank '-' = false from rfl) rest
  have hread : ofText s = readUnsigned true digits := by
    rw [ofText, hrest, htrim]
    rfl
  rw [hread, readUnsigned] at h ⊢
  split at h
  · cases h
  · next hfinite =>
    rw [if_neg hfinite]
    cases hdecimal : readDecimal true digits with
    | none =>
      rw [hdecimal] at h
      cases h
    | some n =>
      obtain ⟨-, value, e, rfl⟩ := readDecimal_eq_some hdecimal
      rw [hdecimal] at h
      rcases ofDecimal_cases true value e with hn | hn | ⟨m, e', hm, hn⟩
      · exact hn
      · rw [Option.getD_some, hn] at h
        cases h
      · rw [Option.getD_some, hn] at h
        simp [toNat?, hm] at h

end Number

/-! ## Behind a flag -/

namespace Arguments

/-- Behind a flag for the port, wherever that stands, the text gives this port. -/
def TakesPort (text : String) (port : Number) : Prop :=
  ∀ flag options rest, flag? flag = some .port →
    parseFrom options (flag :: text :: rest) = parseFrom { options with port := some port } rest

/-- Behind a flag for the port the text is an error. -/
def RefusesPort (text : String) : Prop :=
  ∀ flag options rest, flag? flag = some .port →
    ∃ e, parseFrom options (flag :: text :: rest) = .error e

theorem not_takesPort_of_refusesPort {text : String} (h : RefusesPort text) (port : Number) :
    ¬TakesPort text port := by
  intro htakes
  obtain ⟨e, herror⟩ := h "-p" .none [] rfl
  rw [htakes "-p" .none [] rfl] at herror
  cases herror

theorem refusesPort_of_flag {text : String} (h : text.toList.head? = some '-') :
    RefusesPort text := by
  intro flag options rest hflag
  have hvalue : isValue text = false := by simp [isValue, h]
  refine ⟨.missingValue flag "a port number", ?_⟩
  rw [parseFrom.eq_def]
  simp [hflag, Flag.needs, hvalue]

theorem refusesPort_of_number {text : String} (h : Config.isPort (Number.ofText text) = false) :
    RefusesPort text := by
  intro flag options rest hflag
  by_cases hvalue : isValue text = true
  · refine ⟨.badPort text, ?_⟩
    rw [parseFrom.eq_def]
    simp [hflag, Flag.needs, hvalue, apply, h]
    rfl
  · refine ⟨.missingValue flag "a port number", ?_⟩
    rw [parseFrom.eq_def]
    simp [hflag, Flag.needs, hvalue]

theorem takesPort_of_number {text : String} (hvalue : text.toList.head? ≠ some '-')
    (h : Config.isPort (Number.ofText text) = true) : TakesPort text (Number.ofText text) := by
  intro flag options rest hflag
  have hgiven : Flag.port.given? text = some (.port (Number.ofText text)) := by
    rw [Flag.given?, if_pos h]
  exact parseFrom_valued hflag (by simp [Flag.needs]) (by simp [isValue, hvalue]) hgiven

end Arguments

/-! ## In the environment -/

namespace Config

/-- In the environment the text gives this port, whatever the file says, unless the command line
    gives one. -/
def TakesPort (text : String) (port : Number) : Prop :=
  ∀ (overrides : Overrides) (cwd : String) (env : Environment)
    (read : String → Except SystemError String), overrides.port = none →
    load overrides cwd { env with port := some text } read =
      (load overrides cwd { env with port := none } read).map fun config => { config with port }

/-- In the environment the text counts as none. -/
def IgnoresPort (text : String) : Prop :=
  ∀ (overrides : Overrides) (cwd : String) (env : Environment)
    (read : String → Except SystemError String),
    load overrides cwd { env with port := some text } read =
      load overrides cwd { env with port := none } read

/-- The file is read without the port of the environment. -/
theorem load_withPort (overrides : Overrides) (cwd : String) (env : Environment)
    (read : String → Except SystemError String) :
    ∃ file : Reported ConfigError FileConfig, ∀ port,
      load overrides cwd { env with port } read = file.map (resolve overrides { env with port }) :=
  ⟨readFile (pathOf overrides cwd env) (explicitPath overrides env).isSome
    (read (pathOf overrides cwd env)), fun _ => rfl⟩

theorem takesPort_of_number {text : String} (hne : text ≠ "")
    (h : isPort (Number.ofText text) = true) : TakesPort text (Number.ofText text) := by
  intro overrides cwd env read hoverrides
  have hport : portOfEnvironment { env with port := some text } = some (Number.ofText text) := by
    simp [portOfEnvironment, nonEmpty, hne, h]
  have hresolve (file : FileConfig) : resolve overrides { env with port := some text } file =
      { resolve overrides { env with port := none } file with port := Number.ofText text } := by
    simp only [resolve, hoverrides, hport]
    rfl
  obtain ⟨file, hload⟩ := load_withPort overrides cwd env read
  rw [hload, hload]
  cases hfile : file.result with
  | error e => simp [Reported.map, hfile, Except.map]
  | ok config => simp [Reported.map, hfile, Except.map, hresolve]

theorem ignoresPort_of_number {text : String}
    (h : text = "" ∨ isPort (Number.ofText text) = false) : IgnoresPort text := by
  intro overrides cwd env read
  have hport : portOfEnvironment { env with port := some text } = none := by
    rcases h with rfl | h
    · rfl
    · by_cases hempty : text = ""
      · simp [portOfEnvironment, nonEmpty, hempty]
      · simp [portOfEnvironment, nonEmpty, hempty, h]
  have hresolve : resolve overrides { env with port := some text } =
      resolve overrides { env with port := none } := by
    funext file
    simp only [resolve, hport]
    rfl
  obtain ⟨file, hload⟩ := load_withPort overrides cwd env read
  rw [hload, hload, hresolve]

/-- Nothing from the command line. -/
def noOverrides : Overrides := ⟨none, none, none, none⟩

/-- The port that is loaded with a text in the environment, from what `read` gives. -/
def loadedPort (text : Option String) (read : String → Except SystemError String) : Option Number :=
  (load noOverrides "/work" { bareEnvironment with port := text } read).result.toOption.map (·.port)

theorem loadedPort_of_takesPort {text : String} {port n : Number} (h : TakesPort text port)
    {read : String → Except SystemError String} (hn : loadedPort none read = some n) :
    loadedPort (some text) read = some port := by
  rw [loadedPort, h noOverrides "/work" bareEnvironment read rfl]
  cases hload : (load noOverrides "/work" { bareEnvironment with port := none } read).result with
  | error e =>
    rw [loadedPort, hload] at hn
    cases hn
  | ok config =>
    rw [Reported.map, hload]
    rfl

theorem loadedPort_of_missing :
    loadedPort none (fun path => .error (.noSuchFile path)) = some defaultPort := rfl

/-- A text that is ignored gives no port: that of the file would count. -/
theorem not_takesPort_of_ignoresPort {text : String} (h : IgnoresPort text) (port : Number) :
    ¬TakesPort text port := by
  intro htakes
  have hgiven {read : String → Except SystemError String} {n : Number}
      (hn : loadedPort none read = some n) : n = port := by
    have hport := loadedPort_of_takesPort htakes hn
    rw [loadedPort, h noOverrides "/work" bareEnvironment read] at hport
    exact Option.some.inj (hn.symm.trans hport)
  have hfile : loadedPort none (ownFile "\x7b\"server\": \x7b\"port\": 1\x7d\x7d") = some 1 := by
    decide +kernel
  have hports : 1 = defaultPort := (hgiven hfile).trans (hgiven loadedPort_of_missing).symm
  exact absurd hports (by decide)

end Config

/-! ## Both -/

section
variable {text : String} {port : Number}

theorem Arguments.takesPort_iff :
    TakesPort text port ↔ text.toList.head? ≠ some '-' ∧
      Config.isPort (Number.ofText text) = true ∧ port = Number.ofText text := by
  constructor
  · intro h
    have hvalue : text.toList.head? ≠ some '-' := fun hflag =>
      not_takesPort_of_refusesPort (refusesPort_of_flag hflag) port h
    have hport : Config.isPort (Number.ofText text) = true := by
      rw [← Bool.not_eq_false]
      exact fun hother => not_takesPort_of_refusesPort (refusesPort_of_number hother) port h
    -- both are what is given behind the flag on its own
    have hsame := (h "-p" .none [] rfl).symm.trans
      (takesPort_of_number hvalue hport "-p" .none [] rfl)
    rw [parseFrom, parseFrom] at hsame
    injection hsame with hsame
    injection hsame with _ _ _ _ hsame
    exact ⟨hvalue, hport, Option.some.inj hsame⟩
  · intro h
    obtain ⟨hvalue, hport, rfl⟩ := h
    exact takesPort_of_number hvalue hport

theorem Config.takesPort_iff :
    TakesPort text port ↔ text ≠ "" ∧
      isPort (Number.ofText text) = true ∧ port = Number.ofText text := by
  constructor
  · intro h
    have hne : text ≠ "" := fun hempty =>
      not_takesPort_of_ignoresPort (ignoresPort_of_number (.inl hempty)) port h
    have hport : isPort (Number.ofText text) = true := by
      rw [← Bool.not_eq_false]
      exact fun hother =>
        not_takesPort_of_ignoresPort (ignoresPort_of_number (.inr hother)) port h
    -- both are what is loaded without a file
    have hgiven := loadedPort_of_takesPort h loadedPort_of_missing
    have hnumber := loadedPort_of_takesPort (takesPort_of_number hne hport) loadedPort_of_missing
    exact ⟨hne, hport, Option.some.inj (hgiven.symm.trans hnumber)⟩
  · intro h
    obtain ⟨hne, hport, rfl⟩ := h
    exact takesPort_of_number hne hport

end

/-- A text is read as a port alike behind a flag and in the environment, unless it is empty or a
    zero with a minus sign. Behind a flag no text with a minus sign in front is taken. A text that is
    not blank gives the number that it spells, if that is one of a port, and neither takes a port
    from such a text without a digit. -/
theorem portTexts_agree (text : String) :
    (Arguments.RefusesPort text ∨ ∃ port, Arguments.TakesPort text port) ∧
    (Config.IgnoresPort text ∨ ∃ port, Config.TakesPort text port) ∧
    (text ≠ "" → (text.toList.head? = some '-' → Number.ofText text ≠ 0) →
      ∀ port, Arguments.TakesPort text port ↔ Config.TakesPort text port) ∧
    (text.toList.head? = some '-' → Arguments.RefusesPort text) ∧
    ((∃ c ∈ text.toList, Text.isBlank c = false) →
      (∀ port, Config.TakesPort text port ↔
        Config.isPort (Number.ofText text) = true ∧ port = Number.ofText text) ∧
      ((∀ c ∈ text.toList, c.isDigit = false) →
        Arguments.RefusesPort text ∧ Config.IgnoresPort text)) := by
  refine ⟨?_, ?_, ?_, Arguments.refusesPort_of_flag, ?_⟩
  · by_cases hport : Config.isPort (Number.ofText text) = true
    · by_cases hflag : text.toList.head? = some '-'
      · exact .inl (Arguments.refusesPort_of_flag hflag)
      · exact .inr ⟨_, Arguments.takesPort_of_number hflag hport⟩
    · exact .inl (Arguments.refusesPort_of_number (Bool.eq_false_iff.mpr hport))
  · by_cases hport : Config.isPort (Number.ofText text) = true
    · by_cases hempty : text = ""
      · exact .inl (Config.ignoresPort_of_number (.inl hempty))
      · exact .inr ⟨_, Config.takesPort_of_number hempty hport⟩
    · exact .inl (Config.ignoresPort_of_number (.inr (Bool.eq_false_iff.mpr hport)))
  · intro hne hzero port
    rw [Arguments.takesPort_iff, Config.takesPort_iff]
    constructor
    · intro h
      exact ⟨hne, h.2⟩
    · intro h
      refine ⟨?_, h.2⟩
      intro hminus
      obtain ⟨k, hk, -⟩ := Config.isPort_iff.mp h.2.1
      exact hzero hminus (Number.eq_zero_of_minus hminus hk)
  · intro hblank
    have hne : text ≠ "" := by
      intro hempty
      obtain ⟨c, hc, -⟩ := hblank
      rw [hempty] at hc
      cases hc
    refine ⟨fun port => Config.takesPort_iff.trans (and_iff_right hne), ?_⟩
    intro hdigits
    have hport : Config.isPort (Number.ofText text) = false := by
      rw [← Bool.not_eq_true]
      intro hport
      obtain ⟨k, hk, -⟩ := Config.isPort_iff.mp hport
      obtain ⟨c, hc, hdigit⟩ := Number.exists_digit hblank hk
      rw [hdigits c hc] at hdigit
      cases hdigit
    exact ⟨Arguments.refusesPort_of_number hport, Config.ignoresPort_of_number (.inr hport)⟩

/-- A port in hexadecimal digits, with a blank in front of it, and two texts that are none. -/
theorem hexadecimal_agrees :
    Arguments.TakesPort " 0x50" 80 ∧ Config.TakesPort " 0x50" 80 ∧
      Arguments.RefusesPort "http" ∧ Config.IgnoresPort "http" ∧ Arguments.RefusesPort "-1" := by
  have htaken : Arguments.TakesPort " 0x50" 80 :=
    Arguments.takesPort_iff.mpr ⟨by decide, by decide, by decide⟩
  obtain ⟨-, -, hagree, -, -⟩ := portTexts_agree " 0x50"
  obtain ⟨-, -, -, -, hspelled⟩ := portTexts_agree "http"
  have hgiven : Config.TakesPort " 0x50" 80 :=
    (hagree (by decide) (fun h => absurd h (by decide)) 80).mp htaken
  obtain ⟨-, hnone⟩ := hspelled ⟨'h', by decide, by decide⟩
  obtain ⟨hrefused, hignored⟩ := hnone (by simp)
  obtain ⟨-, -, -, hflag, -⟩ := portTexts_agree "-1"
  exact ⟨htaken, hgiven, hrefused, hignored, hflag (by decide)⟩

/-- A zero with a minus sign is a port in the environment only. -/
theorem minusZero_does_not_agree :
    Config.TakesPort "-0" 0 ∧ Arguments.RefusesPort "-0" ∧
      ¬∀ text, (∃ port, Arguments.TakesPort text port) ↔ ∃ port, Config.TakesPort text port := by
  have hzero : Number.ofText "-0" = 0 := by decide
  have hport : Config.isPort (Number.ofText "-0") = true := by
    rw [hzero]
    exact Config.isPort_iff.mpr ⟨0, Number.toNat?_zero, Nat.zero_le _⟩
  have htaken : Config.TakesPort "-0" 0 :=
    Config.takesPort_iff.mpr ⟨by decide, hport, hzero.symm⟩
  have hrefused : Arguments.RefusesPort "-0" := Arguments.refusesPort_of_flag (by decide)
  refine ⟨htaken, hrefused, ?_⟩
  intro h
  obtain ⟨port, hport⟩ := (h "-0").mpr ⟨0, htaken⟩
  exact Arguments.not_takesPort_of_refusesPort hrefused port hport

end Gateway
