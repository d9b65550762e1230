import Gateway.Proofs.ConfiguredHeaders
import Gateway.Proofs.Loading

/- Headers of the command line and of the file under one name. The two are merged by the exact
   spelling of their names, while a response gets a header for all spellings of its name, with the
   value that is listed last. `header_wins_iff` says when that value comes from the command line:
   if it brings a spelling that the file does not have, or the file's last one. -/
namespace Gateway

namespace Headers
variable {own : Headers} {extra : Fields String} {name : String}

/-- A name that a response does not have gets the one value that is listed last for it. -/
theorem mem_fill_iff_of_not_sets (h : Fields.IsListed own) (hunset : ¬ own.Sets name)
    {header : String × HeaderValue} (hname : lowercase header.1 = lowercase name) :
    header ∈ own.fill extra ↔ lowercase name ≠ Fields.reserved ∧
      ∃ field, extra.lastFor name = some field ∧ header = (lowercase name, .text field.2) := by
  have hunset' : ¬ own.Sets header.1 := mt (Sets.congr hname).mp hunset
  rw [mem_fill_iff h, or_iff_right fun hown => hunset' ⟨header, hown, rfl⟩]
  constructor
  · rintro ⟨-, hreserved, hlower, field, hlast, hvalue⟩
    have hfirst : header.1 = lowercase name := hlower.symm.trans hname
    exact ⟨hfirst ▸ hreserved, field, Fields.lastFor_congr hname ▸ hlast, Prod.ext hfirst hvalue⟩
  · rintro ⟨hreserved, field, hlast, rfl⟩
    exact ⟨hunset', hreserved, hname, field, (Fields.lastFor_congr hname).trans hlast, rfl⟩

end Headers

namespace Arguments

/-- The name and the value of a setting that is a header. -/
def Given.header? : Given → Option (String × String)
  | .header name value => some (name, value)
  | _ => Option.none

theorem mem_filterMap_header? {given : List Given} {name value : String} :
    (name, value) ∈ given.filterMap Given.header? ↔ .header name value ∈ given := by
  rw [List.mem_filterMap]
  constructor
  · rintro ⟨setting, hm, heq⟩
    cases setting with
    | header n v =>
      cases heq
      exact hm
    | _ => cases heq
  · exact fun hm => ⟨_, hm, rfl⟩

theorem headers_foldl_put (given : List Given) (options : Arguments) :
    (given.foldl put options).headers = (given.filterMap Given.header?).foldl
      (fun fields pair => Fields.assign pair.1 pair.2 fields) options.headers := by
  induction given generalizing options with
  | nil => rfl
  | cons first rest ih =>
    rw [List.foldl_cons, ih]
    cases first <;> rfl

variable {args : List String} {given : List Given} {options : Arguments}

theorem headers_eq (hargs : parse args = .ok options) (hspelled : Spelled args given) :
    options.headers = (given.filterMap Given.header?).foldl
      (fun fields pair => Fields.assign pair.1 pair.2 fields) [] := by
  have hparsed := parse_eq_ok_iff.mpr ⟨given, hspelled, rfl⟩
  rw [← Except.ok.inj (hparsed.symm.trans hargs), headers_foldl_put]
  rfl

theorem isListed_headers (hargs : parse args = .ok options) (hspelled : Spelled args given) :
    Fields.IsListed options.headers := by
  rw [headers_eq hargs hspelled]
  exact Fields.isListed_nil.foldl_assign _

theorem given_of_mem_headers (hargs : parse args = .ok options) (hspelled : Spelled args given)
    {header : String × String} (hm : header ∈ options.headers) : .header header.1 header.2 ∈ given := by
  rw [headers_eq hargs hspelled] at hm
  exact mem_filterMap_header?.mp
    ((Fields.isListed_nil.mem_of_mem_foldl_assign hm).resolve_left List.not_mem_nil)

theorem mem_names_headers_iff (hargs : parse args = .ok options) (hspelled : Spelled args given)
    {name : String} :
    name ∈ Fields.names options.headers ↔
      name ≠ Fields.reserved ∧ ∃ value, .header name value ∈ given := by
  have hnames : name ∈ Fields.names (given.filterMap Given.header?) ↔
      ∃ value, .header name value ∈ given := by
    constructor
    · intro hm
      obtain ⟨pair, hpair, rfl⟩ := List.mem_map.mp hm
      exact ⟨pair.2, mem_filterMap_header?.mp hpair⟩
    · rintro ⟨value, hm⟩
      exact List.mem_map.mpr ⟨(name, value), mem_filterMap_header?.mpr hm, rfl⟩
  rw [headers_eq hargs hspelled, Fields.isListed_nil.mem_names_foldl_assign_iff, hnames]
  exact or_iff_right List.not_mem_nil

/-- The settings give a header of this name, in any letter case, with this value. -/
def GivesHeader (given : List Given) (name value : String) : Prop :=
  ∃ spelling, .header spelling value ∈ given ∧ lowercase spelling = lowercase name

/-- A head has a header of this name, and every one of this name has a value that was given. -/
def Wins (given : List Given) (name : String) (head : Headers) : Prop :=
  head.Sets name ∧ ∀ header ∈ head, lowercase header.1 = lowercase name →
    ∃ value, header.2 = .text value ∧ GivesHeader given name value

/-- The settings have the last word on a name over the headers of a file: they give a spelling of it
    that the file does not have, or the one that is last in the file, or its value. -/
def HasLastWord (given : List Given) (name : String) (file : Fields String) : Prop :=
  (∃ spelling value, .header spelling value ∈ given ∧ lowercase spelling = lowercase name ∧
    spelling ∉ Fields.names file) ∨
  ∃ last, file.lastFor name = some last ∧
    ((∃ value, .header last.1 value ∈ given) ∨ GivesHeader given name last.2)

theorem ne_reserved_of_lowercase {name : String} (h : lowercase name ≠ Fields.reserved) :
    name ≠ Fields.reserved := by
  rintro rfl
  exact h (by decide)

/-- The value that is listed last for a name after a merge is one of the settings, exactly if they
    have the last word. -/
theorem lastFor_merge_gives_iff (hargs : parse args = .ok options) (hspelled : Spelled args given)
    {file : Fields String} (hfile : Fields.IsListed file) {name : String}
    (hreserved : lowercase name ≠ Fields.reserved) :
    (∃ field, (Fields.merge file options.headers).lastFor name = some field ∧
      GivesHeader given name field.2) ↔ HasLastWord given name file := by
  have hlisted := isListed_headers hargs hspelled
  have hnames {spelling : String} (hsame : lowercase spelling = lowercase name) :
      spelling ∈ Fields.names options.headers ↔ ∃ value, .header spelling value ∈ given := by
    rw [mem_names_headers_iff hargs hspelled, and_iff_right (ne_reserved_of_lowercase (hsame ▸ hreserved))]
  rw [hfile.lastFor_merge hlisted, Fields.lastMerged]
  cases hnew : Fields.lastFor (options.headers.filter fun field => field.1 ∉ Fields.names file) name with
  | some field =>
    -- a spelling that the file does not have
    obtain ⟨hm, hsame⟩ := Fields.mem_of_lastFor hnew
    obtain ⟨hm, hold⟩ := List.mem_filter.mp hm
    have hmGiven := given_of_mem_headers hargs hspelled hm
    refine iff_of_true ⟨field, rfl, field.1, hmGiven, hsame⟩ (.inl ⟨field.1, field.2, hmGiven, hsame, ?_⟩)
    simpa using hold
  | none =>
    have hnone := Fields.lastFor_eq_none_iff.mp hnew
    have hknown {spelling other : String} (hm : .header spelling other ∈ given)
        (hsame : lowercase spelling = lowercase name) : spelling ∈ Fields.names file := by
      obtain ⟨field, hfield, rfl⟩ := List.mem_map.mp ((hnames hsame).mpr ⟨other, hm⟩)
      by_contra hold
      exact hnone field (List.mem_filter.mpr ⟨hfield, by simpa using hold⟩) hsame
    have hfirst : ¬ ∃ spelling value, .header spelling value ∈ given ∧
        lowercase spelling = lowercase name ∧ spelling ∉ Fields.names file := by
      rintro ⟨_, _, hm, hsame, hold⟩
      exact hold (hknown hm hsame)
    rw [HasLastWord, or_iff_right hfirst, Option.none_or]
    cases hlast : file.lastFor name with
    | none => simp
    | some last =>
      have hsame : lowercase last.1 = lowercase name := (Fields.mem_of_lastFor hlast).2
      simp only [Option.map_some, Option.some.injEq, exists_eq_left']
      cases hlookup : options.headers.lookup last.1 with
      | some other =>
        have hm : .header last.1 other ∈ given :=
          given_of_mem_headers hargs hspelled (Fields.mem_of_lookup hlookup)
        exact iff_of_true ⟨last.1, hm, hsame⟩ (.inl ⟨other, hm⟩)
      | none =>
        have hnot : ¬ ∃ value, .header last.1 value ∈ given :=
          mt (hnames hsame).mpr (Fields.lookup_eq_none_iff.mp hlookup)
        rw [or_iff_right hnot]
        rfl

theorem wins_fill_iff {own : Headers} {extra : Fields String} {name : String}
    (h : Fields.IsListed own) (hunset : ¬ own.Sets name) :
    Wins given name (own.fill extra) ↔ lowercase name ≠ Fields.reserved ∧
      ∃ field, extra.lastFor name = some field ∧ GivesHeader given name field.2 := by
  constructor
  · rintro ⟨⟨header, hm, hname⟩, hall⟩
    obtain ⟨hreserved, field, hlast, rfl⟩ := (Headers.mem_fill_iff_of_not_sets h hunset hname).mp hm
    obtain ⟨value, hvalue, hgives⟩ := hall _ hm hname
    obtain rfl := HeaderValue.text.inj hvalue
    exact ⟨hreserved, field, hlast, hgives⟩
  · rintro ⟨hreserved, field, hlast, hgives⟩
    have hlower : lowercase (lowercase name) = lowercase name := lowercase_lowercase name
    have hmem : (lowercase name, HeaderValue.text field.2) ∈ own.fill extra := by
      refine (Headers.mem_fill_iff_of_not_sets h hunset ?_).mpr ⟨hreserved, field, hlast, rfl⟩
      exact hlower
    refine ⟨⟨_, hmem, hlower⟩, fun header hm hname => ?_⟩
    obtain ⟨-, other, hother, rfl⟩ := (Headers.mem_fill_iff_of_not_sets h hunset hname).mp hm
    obtain rfl := Option.some.inj (hlast.symm.trans hother)
    exact ⟨field.2, rfl, hgives⟩

/-- A header of the command line wins over those of the file, whatever their spelling, exactly if
    its name is not the reserved one and the command line has the last word on it. -/
theorem header_wins_iff (hargs : parse args = .ok options) (hspelled : Spelled args given)
    {cwd text : String} {env : Environment} {read : String → Except SystemError String}
    (hread : read (Config.pathOf options.overrides cwd env) = .ok text) {file : FileConfig}
    (hfile : (FileConfig.ofText text).result = .ok file) {r : Response}
    (hobject : Fields.IsListed r.headers) {name : String} (hunset : ¬ r.headers.Sets name) :
    ∃ config, (Config.load options.overrides cwd env read).result = .ok config ∧
      (Wins given name (Middleware.fillHeaders config.headers r).headers ↔
        lowercase name ≠ Fields.reserved ∧ HasLastWord given name (file.headers.getD [])) := by
  obtain ⟨_, _, _, _, hreads⟩ := FileConfig.reads_of_ofText hfile
  refine ⟨Config.resolve options.overrides env file, ?_, ?_⟩
  · rw [Config.load_of_ok hread, hfile]
  · rw [Middleware.fillHeaders_headers, wins_fill_iff hobject hunset, Config.resolve,
      hreads.headersListed.merge_nil]
    exact and_congr_right fun hreserved =>
      lastFor_merge_gives_iff hargs hspelled hreads.headersListed hreserved

/-- Arguments that set one header. -/
def labelArguments : List String := ["--header", "x-a=cli"]

def labelOptions : Arguments := { none with headers := [("x-a", "cli")] }

theorem labelArguments_parse : parse labelArguments = .ok labelOptions := by decide

theorem labelArguments_spelled : Spelled labelArguments [.header "x-a" "cli"] := by
  have hflag : flag? "--header" = some .header := by decide
  have hgiven : Flag.given? .header "x-a=cli" = some (.header "x-a" "cli") := by decide
  exact .valued hflag (by decide) (by decide) hgiven .nil

def oneSpelling : String := "\x7b\"server\": \x7b\"headers\": \x7b\"X-A\": \"file\"\x7d\x7d\x7d"

theorem eq_ok_of_toOption {ε α : Type} {result : Except ε α} {a : α}
    (h : result.toOption = some a) : result = .ok a := by
  cases result <;> cases h
  rfl

/-- A spelling of the file's header that the file does not have wins. -/
theorem oneSpelling_wins :
    Config.ownFile oneSpelling (Config.pathOf labelOptions.overrides "/work" Config.bareEnvironment) =
        .ok oneSpelling ∧
      (FileConfig.ofText oneSpelling).result = .ok ⟨.none, .none, some [("X-A", "file")], .none⟩ ∧
      ∃ config, (Config.load labelOptions.overrides "/work" Config.bareEnvironment
          (Config.ownFile oneSpelling)).result = .ok config ∧
        Wins [.header "x-a" "cli"] "x-a" (Middleware.fillHeaders config.headers ⟨200, [], .none⟩).headers := by
  have hread : Config.ownFile oneSpelling
      (Config.pathOf labelOptions.overrides "/work" Config.bareEnvironment) = .ok oneSpelling :=
    eq_ok_of_toOption (by decide)
  have hfile : (FileConfig.ofText oneSpelling).result =
      .ok ⟨.none, .none, some [("X-A", "file")], .none⟩ :=
    eq_ok_of_toOption (by decide +kernel)
  have hunset : ¬ Headers.Sets [] "x-a" := by rintro ⟨_, hm, -⟩; cases hm
  obtain ⟨config, hload, hwins⟩ := header_wins_iff labelArguments_parse labelArguments_spelled hread
    hfile (r := ⟨200, [], .none⟩) List.Pairwise.nil hunset
  refine ⟨hread, hfile, config, hload, hwins.mpr ⟨by decide, .inl ?_⟩⟩
  exact ⟨"x-a", "cli", List.mem_singleton_self _, rfl, by decide⟩

def twoSpellings : String :=
  "\x7b\"server\": \x7b\"headers\": \x7b\"x-a\": \"f1\", \"X-A\": \"f2\"\x7d\x7d\x7d"

/-- If the file has two spellings of a name, its last one wins over the first one from the command
    line. -/
theorem twoSpellings_do_not_win :
    parse labelArguments = .ok labelOptions ∧ Spelled labelArguments [.header "x-a" "cli"] ∧
    ∃ config, (Config.load labelOptions.overrides "/work" Config.bareEnvironment
        (Config.ownFile twoSpellings)).result = .ok config ∧
      ¬ Wins [.header "x-a" "cli"] "x-a" (Middleware.fillHeaders config.headers ⟨200, [], .none⟩).headers := by
  refine ⟨labelArguments_parse, labelArguments_spelled,
    ⟨"localhost", 8080, [("x-a", "cli"), ("X-A", "f2")], []⟩,
    eq_ok_of_toOption (by decide +kernel), ?_⟩
  have hfilled : (Middleware.fillHeaders [("x-a", "cli"), ("X-A", "f2")] ⟨200, [], .none⟩).headers =
      [("x-a", .text "f2")] := by decide
  rintro ⟨-, hall⟩
  obtain ⟨value, hvalue, spelling, hm, -⟩ := hall ("x-a", .text "f2")
    (by rw [hfilled]; exact List.mem_singleton_self _) rfl
  obtain rfl := HeaderValue.text.inj hvalue
  simp at hm

end Arguments

end Gateway
