import Gateway.RequestPath
import Gateway.Rewrite

/- Rules that send requests to a target, and ordered sets of them. The first rule
   that matches a path decides. -/
namespace Gateway

/-- Which paths a rule is for. -/
inductive Selector
  /-- Paths that start with a text. -/
  | literal (text : String)
  /-- Paths with a match of `matcher` anywhere; `whole` is the pattern as configured. -/
  | pattern (source : String) (whole matcher : Pattern.Compiled)
deriving Repr, DecidableEq

structure Rule where
  selector : Selector
  target : String
  rewrite : Rewrite
deriving Repr, DecidableEq

/-- A rule as it is configured. -/
structure RuleEntry where
  /-- A text that paths start with, or a pattern if it begins with a caret. -/
  key : String
  target : String
  rewrite : Option RewriteSetting
deriving Repr, DecidableEq

namespace Selector

/-- The pattern to match with: without a final slash, if it compiles without it. -/
def matcherOf (source : List Char) (whole : Pattern.Compiled) : Pattern.Compiled :=
  if source.getLast? = some '/' then
    match Pattern.compile (Text.toUnits source.dropLast) with
    | .ok shorter => shorter
    | .error _ => whole
  else whole

/-- The warning about a key that begins like a pattern and is none. -/
def notPattern (key : String) (fault : Pattern.Fault) : LogEntry :=
  .warn ("Invalid regex pattern \"" ++ key ++ "\". Treating as string prefix: " ++
    fault.message key "")

/-- Reads the key of a rule. -/
def ofKey (key : String) : Selector × Log :=
  if key.toList.head? = some '^' then
    match Pattern.compile (Text.toUnits key.toList) with
    | .ok whole => (.pattern key whole (matcherOf key.toList whole), [])
    | .error fault => (.literal key, [notPattern key fault])
  else (.literal key, [])

/-- Whether the rule is for this path. -/
def selects : Selector → String → Bool
  | .literal text, path => text.toList.isPrefixOf path.toList
  | .pattern _ _ matcher, path => matcher.isMatch (Text.toUnits path.toList).toArray

def describe : Selector → String
  | .literal text => "prefix: " ++ text
  | .pattern source _ _ => "pattern: " ++ source

end Selector

namespace Rule

/-- Builds the rule of an entry. -/
def ofEntry (entry : RuleEntry) : Except RewriteError Rule × Log :=
  match Rewrite.ofSetting entry.key entry.rewrite with
  | (.error e, log) => (.error e, log)
  | (.ok rewrite, log) =>
    let (selector, more) := Selector.ofKey entry.key
    (.ok ⟨selector, entry.target, rewrite⟩, log ++ more)

/-- Whether the rule is for this path. -/
def selects (r : Rule) (path : String) : Bool := r.selector.selects path

/-- The path that the target is asked for, in canonical form. -/
def rewritten (r : Rule) (path : String) : String := RequestPath.normalize (r.rewrite.apply path)

/-- The rule in one line. -/
def describe (r : Rule) : String :=
  let rewrite := if r.rewrite = .none then "no" else "yes"
  "\x7b" ++ r.selector.describe ++ ", target: " ++ r.target ++ ", rewrite: " ++ rewrite ++ "\x7d"

end Rule

/-- Rules in the order in which they are tried. -/
abbrev RuleSet := List Rule

namespace RuleSet

/-- The warning about an entry whose rewrite has no valid pattern. -/
def dropped (entry : RuleEntry) (e : RewriteError) : LogEntry :=
  .warn s!"{e.message}. Ignoring proxy rule \"{entry.key}\"."

/-- Builds the rules of all entries. An entry whose rewrite has no valid pattern is
    left out with a warning. -/
def ofEntries : List RuleEntry → Except RewriteError RuleSet × Log
  | [] => (.ok [], [])
  | entry :: rest =>
    match Rule.ofEntry entry with
    | (.ok rule, log) =>
      let (rules, more) := ofEntries rest
      (rules.map (rule :: ·), log ++ more)
    | (.error (.badPattern spec source fault), log) =>
      let (rules, more) := ofEntries rest
      (rules, log ++ dropped entry (.badPattern spec source fault) :: more)
    | (.error e, log) => (.error e, log)

/-- The first rule for a path. -/
def resolve (rules : RuleSet) (path : String) : Option Rule := rules.find? fun r => r.selects path

end RuleSet

end Gateway
