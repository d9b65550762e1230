import Gateway.Proofs.Expansion
import Gateway.Proofs.Pattern.Numbering
import Gateway.Proofs.Replacement

/- The count of the groups of a template. It is read off a match of the empty text by the pattern
   with an empty alternative behind it, which always succeeds and has a place for each group and for
   the match itself (`exists_empty_match`). A function that makes a replacement is handed more than
   these: the position of the match, the whole text and the groups by name stand behind them. As the
   count is exact, the rounds of a template stop before all of that (`countGroups_exact`). -/
namespace Gateway

open Gateway.Text (CodeUnit)

namespace Pattern

/-- An alternative that is reached is not lost among others. -/
theorem ends_choice_ne_nil {x : Subject} {last : Node} {behind : Bool} {s : State}
    (h : x.ends last behind s ≠ []) (closed : List Node) :
    x.ends (Level.choice last closed) behind s ≠ [] := by
  induction closed generalizing last with
  | nil => exact h
  | cons a rest ih =>
    have hboth : x.ends (.alt a last) behind s ≠ [] := List.append_ne_nil_of_right_ne_nil _ h
    exact ih hboth

/-- A pattern with an empty alternative behind all others matches everywhere. -/
theorem exists_matchAt_of_empty_last {q : Compiled} (closed : List Node)
    (h : q.node = Level.choice .empty closed) (input : Array CodeUnit) (pos : Nat) :
    ∃ m, q.matchAt input pos = some m := by
  have hempty : (q.subject input).ends .empty false ⟨pos, List.replicate q.groups none⟩ ≠ [] :=
    List.cons_ne_nil _ _
  obtain ⟨t, rest, hends⟩ := List.exists_cons_of_ne_nil (ends_choice_ne_nil hempty closed)
  rw [Compiled.matchAt_eq_head?, h, hends]
  exact ⟨_, rfl⟩

/-- With an empty alternative behind it, a pattern keeps its groups and matches the empty text, with
    a place for each of them. -/
theorem exists_empty_match {source : List CodeUnit} {p : Compiled} (h : compile source = .ok p) :
    ∃ q m, compile (source ++ [bar]) = .ok q ∧ q.groups = p.groups ∧ q.names = p.names ∧
      q.search #[] 0 = some m ∧ m.start = 0 ∧ m.stop = 0 ∧ m.captures.length = p.groups := by
  obtain ⟨b, -, rfl, hbar⟩ := compile_append_bar h
  obtain ⟨m, hm⟩ := exists_matchAt_of_empty_last
    (q := ⟨b.level.nextAlternative.node, b.groups, b.names⟩)
    (Level.sequence b.level.allTerms :: b.level.closed) rfl #[] 0
  have hstart := Compiled.start_of_matchAt hm
  have hstop : m.stop ≤ 0 := (Compiled.matchAt_bounds hm (Nat.zero_le _)).2
  have hlength := length_captures_of_matchAt (numbered_of_compile hbar).1 hm
  refine ⟨_, m, hbar, rfl, rfl, ?_, hstart, Nat.le_zero.mp hstop, hlength⟩
  simp [Compiled.search, Compiled.searchFrom, hm]

theorem Match.length_groups (m : Match) (input : Array CodeUnit) :
    (m.groups input).length = m.captures.length + 1 := by
  simp [Match.groups]

theorem length_groupNumbers {source : List CodeUnit} {p : Compiled} (h : compile source = .ok p) :
    p.node.groupNumbers.length = p.groups := by
  rw [(numbered_of_compile h).1.groupNumbers, List.length_range', Nat.sub_zero]

theorem replaceFrom_congr {input : Array CodeUnit} {new new' : Match → List CodeUnit}
    {ms : List Match} (h : ∀ m ∈ ms, new m = new' m) (pos : Nat) :
    replaceFrom input new pos ms = replaceFrom input new' pos ms := by
  induction ms generalizing pos with
  | nil => rfl
  | cons m rest ih =>
    obtain ⟨hm, hrest⟩ := List.forall_mem_cons.mp h
    rw [replaceFrom, replaceFrom, hm, ih hrest]

end Pattern

namespace Rewrite

open Pattern

/-! ## What a replacement is made of -/

/-- What a function that makes a replacement is handed. -/
inductive Argument
  | text (units : List CodeUnit)
  /-- A group that took no part. -/
  | missing
  | position (n : Nat)
  | named (groups : List (GroupName × Option (List CodeUnit)))
deriving Repr, DecidableEq

def Argument.ofGroup : Option (List CodeUnit) → Argument
  | some units => .text units
  | Option.none => .missing

/-- What is put in for an argument: a text, and nothing for anything else. -/
def Argument.written : Argument → List CodeUnit
  | .text units => units
  | _ => []

/-- All arguments for a match: the match and its groups, where it stands, the text in which it was
    found, and the groups that have names, if there are any. -/
def arguments (pattern : Compiled) (input : Array CodeUnit) (m : Match) : List Argument :=
  (m.groups input).map .ofGroup ++ ([.position m.start, .text input.toList] ++
    if pattern.names = [] then []
    else [.named (pattern.names.map fun (name, i) => (name, ((m.groups input)[i]?).join))])

/-- Puts arguments into a replacement, the lowest number first. -/
def expandArguments (replacement : List CodeUnit) (arguments : List Argument) (groupCount : Nat) :
    List CodeUnit :=
  (List.range (groupCount + 1)).foldl
    (fun text i => Text.replaceAll (token i) ((arguments[i]?).elim [] Argument.written) text)
    replacement

theorem written_ofGroup (group : Option (List CodeUnit)) :
    (Argument.ofGroup group).written = group.getD [] := by
  cases group <;> rfl

/-- Where there are as many groups as rounds, whatever stands behind the groups is not read. -/
theorem expandArguments_append {groups : List (Option (List CodeUnit))} {groupCount : Nat}
    (h : groups.length = groupCount + 1) (replacement : List CodeUnit) (others : List Argument) :
    expandArguments replacement (groups.map .ofGroup ++ others) groupCount =
      expand replacement groups groupCount := by
  refine List.foldl_ext _ _ _ fun text i hi => ?_
  have hlt : i < groups.length := by rw [h]; exact List.mem_range.mp hi
  have hargument : (groups.map Argument.ofGroup ++ others)[i]? = some (.ofGroup groups[i]) := by
    rw [List.getElem?_append_left (by simpa using hlt), List.getElem?_map,
      List.getElem?_eq_getElem hlt]
    rfl
  rw [hargument, List.getElem?_eq_getElem hlt, Option.elim_some, written_ofGroup]
  rfl

/-- With two rounds too many, the whole text would be put in. -/
example : expandArguments (Text.toUnits "$2".toList)
    [.text (Text.toUnits "a".toList), .position 1, .text (Text.toUnits "/a".toList)] 2 =
      Text.toUnits "/a".toList := by decide

/-! ## The count -/

/-- The groups of the pattern that a text spells are counted exactly. -/
structure CountsGroups (source : List CodeUnit) (p : Compiled) : Prop where
  /-- The groups are numbered from one on, in order and each once. -/
  numbers : p.node.groupNumbers = List.range' 1 p.groups
  opened : (tokens source).countP Token.opensGroup = p.node.groupNumbers.length
  /-- With a bar behind it, the text spells a pattern with the same groups that matches the empty
      text, with one place more than there are groups. -/
  matched : ∃ q m, compile (source ++ [bar]) = .ok q ∧
    q.node.groupNumbers = p.node.groupNumbers ∧ q.names = p.names ∧
    q.search #[] 0 = some m ∧ m.start = 0 ∧ m.stop = 0 ∧
    (m.groups #[]).length = p.node.groupNumbers.length + 1
  counted : countGroups source = .ok p.node.groupNumbers.length

theorem countsGroups_of_compile {source : List CodeUnit} {p : Compiled}
    (h : compile source = .ok p) : CountsGroups source p := by
  obtain ⟨hnumbered, hopened⟩ := numbered_of_compile h
  have hlength := length_groupNumbers h
  obtain ⟨q, m, hbar, hgroups, hnames, hsearch, hstart, hstop, hcaptures⟩ := exists_empty_match h
  have hcount : countGroups source = .ok m.captures.length := by
    refine map_eq_ok_iff.mpr ⟨q, hbar, ?_⟩
    rw [hsearch]
  constructor
  · exact hnumbered.groupNumbers
  · rw [hlength, hopened]
  · refine ⟨q, m, hbar, ?_, hnames, hsearch, hstart, hstop, ?_⟩
    · rw [(numbered_of_compile hbar).1.groupNumbers, hgroups, hnumbered.groupNumbers]
    · rw [Match.length_groups, hcaptures, hlength]
  · rw [hcount, hcaptures, hlength]

theorem exists_source_of_ofHalves {spec text : String} {before after : List Char}
    {pattern : Compiled} {count : Nat}
    (h : ofHalves spec before after = .ok (.template pattern text count)) :
    ∃ source, compile source = .ok pattern ∧ countGroups source = .ok count := by
  unfold ofHalves at h
  dsimp only at h
  split at h
  · cases h
  · next compiled hcompile =>
    split at h
    · cases h
    · next n hcount =>
      obtain ⟨rfl, -, rfl⟩ := Rewrite.template.inj (Except.ok.inj h)
      exact ⟨_, hcompile, hcount⟩

/-- A template comes from a text that spells its pattern, and its count from the same text. -/
theorem exists_source_of_ofSetting {key text : String} {setting : Option RewriteSetting}
    {pattern : Compiled} {count : Nat} {log : Log}
    (h : ofSetting key setting = (.ok (.template pattern text count), log)) :
    ∃ source, compile source = .ok pattern ∧ countGroups source = .ok count := by
  have hfirst := congrArg Prod.fst h
  unfold ofSetting at hfirst
  split at hfirst
  · cases hfirst
  · next on =>
    cases on <;> cases hfirst
  · split at hfirst
    · cases hfirst
    · split at hfirst
      · exact exists_source_of_ofHalves hfirst
      · cases hfirst

/-- For every match in the path, the template reads the match and its groups and nothing behind
    them. -/
structure ReadsGroups (pattern : Compiled) (text : String) (count : Nat) (path : String) : Prop where
  places : ∀ m ∈ pattern.matchAll (pathInput path), (m.groups (pathInput path)).length = count + 1
  only : ∀ m ∈ pattern.matchAll (pathInput path), ∀ others,
    expandArguments (Text.toUnits text.toList)
        ((m.groups (pathInput path)).map .ofGroup ++ others) count =
      expand (Text.toUnits text.toList) (m.groups (pathInput path)) count
  /-- So the rewritten path is the one for which all arguments are handed over. -/
  applied : (Rewrite.template pattern text count).apply path =
    String.ofList (Text.ofUnits (pattern.replaceAll (pathInput path) fun m =>
      expandArguments (Text.toUnits text.toList) (arguments pattern (pathInput path) m) count))

theorem readsGroups_of_compile {source : List CodeUnit} {pattern : Compiled}
    (h : compile source = .ok pattern) (text path : String) :
    ReadsGroups pattern text pattern.node.groupNumbers.length path := by
  have hplaces : ∀ m ∈ pattern.matchAll (pathInput path),
      (m.groups (pathInput path)).length = pattern.node.groupNumbers.length + 1 := by
    intro m hm
    rw [Match.length_groups, length_captures_of_mem_matchAll (numbered_of_compile h).1 hm,
      length_groupNumbers h]
  refine ⟨hplaces, fun m hm others => expandArguments_append (hplaces m hm) _ others, ?_⟩
  have hsame : ∀ m ∈ pattern.matchAll (pathInput path),
      expand (Text.toUnits text.toList) (m.groups (pathInput path))
          pattern.node.groupNumbers.length =
        expandArguments (Text.toUnits text.toList) (arguments pattern (pathInput path) m)
          pattern.node.groupNumbers.length := by
    intro m hm
    exact (expandArguments_append (hplaces m hm) _ _).symm
  exact congrArg (fun units => String.ofList (Text.ofUnits units)) (replaceFrom_congr hsame 0)

/-- The groups of every text that compiles are counted exactly, and so every template that is built
    has the count of the groups of its pattern and reads only them. -/
theorem countGroups_exact :
    (∀ source p, compile source = .ok p → CountsGroups source p) ∧
    ∀ key setting pattern text count log,
      ofSetting key setting = (.ok (.template pattern text count), log) →
      count = pattern.node.groupNumbers.length ∧ ∀ path, ReadsGroups pattern text count path := by
  refine ⟨fun source p => countsGroups_of_compile, ?_⟩
  intro key setting pattern text count log h
  obtain ⟨source, hcompile, hcount⟩ := exists_source_of_ofSetting h
  rw [(countsGroups_of_compile hcompile).counted] at hcount
  obtain rfl := Except.ok.inj hcount
  exact ⟨rfl, readsGroups_of_compile hcompile text⟩

/-- A pattern with a group that has a name and one in a loop; the parenthesis and the bars in it open
    and part nothing. -/
def userPattern : String := "^/(?<user>[^/(|]+)(?:/(x))*\\|?"

/-- The text of a rewrite with that pattern. -/
def userSpec : String := userPattern ++ " -> /$1$2"

theorem userPattern_counted :
    ∃ pattern, compile (Text.toUnits userPattern.toList) = .ok pattern ∧
      CountsGroups (Text.toUnits userPattern.toList) pattern ∧ pattern.node.groupNumbers = [1, 2] ∧
      ofSetting "/" (some (.text userSpec)) = (.ok (.template pattern "/$1$2" 2), []) ∧
      ReadsGroups pattern "/$1$2" 2 "/u|" := by
  obtain ⟨hcounts, htemplates⟩ := countGroups_exact
  have hcompile : compile (Text.toUnits userPattern.toList) = .ok _ := rfl
  have hread : ofSetting "/" (some (.text userSpec)) = (.ok (.template _ "/$1$2" 2), []) := rfl
  have hcount := hcounts _ _ hcompile
  obtain ⟨-, hreads⟩ := htemplates _ _ _ _ _ _ hread
  exact ⟨_, hcompile, hcount, rfl, hread, hreads "/u|"⟩

end Rewrite

end Gateway
