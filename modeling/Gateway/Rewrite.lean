import Gateway.Log
import Gateway.Pattern.Match
import Gateway.Text.Pieces

/- Rewrites of request paths. A rewrite is given as `true`, which strips the key of
   its rule, or as a text `pattern -> replacement`, where the replacement may hold
   the match and its groups as `$0`, `$1` and so on. -/
namespace Gateway

open Gateway.Text (CodeUnit)

/-- The rewrite of a rule as it is configured. -/
inductive RewriteSetting
  | flag (on : Bool)
  | text (spec : String)
deriving Repr, DecidableEq

/-- A rewrite that can be applied. -/
inductive Rewrite
  | none
  /-- Removes the first occurrence of the key. -/
  | stripKey (key : String)
  /-- Replaces every match of the pattern. -/
  | template (pattern : Pattern.Compiled) (replacement : String) (groupCount : Nat)
deriving Repr, DecidableEq

/-- Why a rewrite cannot be built. -/
inductive RewriteError
  /-- What stands before the arrow is no pattern. -/
  | badPattern (spec source : String) (fault : Pattern.Fault)
  /-- The groups of a pattern could not be counted. -/
  | uncounted (source : String) (fault : Pattern.Fault)
deriving Repr, DecidableEq

def RewriteError.message : RewriteError → String
  | .badPattern spec source fault =>
    "Invalid rewrite pattern in \"" ++ spec ++ "\": " ++ fault.message source "g"
  | .uncounted source fault => fault.message (source ++ "|") ""

namespace Rewrite

/-- What separates pattern and replacement. -/
def arrow : List Char := ['-', '>']

/-- The number of groups of a pattern, read off a match that always succeeds: that
    of the empty alternative behind it. -/
def countGroups (source : List CodeUnit) : Except Pattern.Fault Nat :=
  (Pattern.compile (source ++ [Pattern.unit '|'])).map fun p =>
    match p.search #[] 0 with
    | some m => m.captures.length
    | Option.none => 0

/-- The warning about a text without exactly one arrow. -/
def malformed (spec key : String) : LogEntry :=
  .warn s!"Invalid rewrite rule format \"{spec}\" for \"{key}\". Expected 'regex -> replacement'. Ignoring rewrite."

/-- Compiles both halves of a text, which are trimmed. -/
def ofHalves (spec : String) (pattern replacement : List Char) : Except RewriteError Rewrite :=
  let source := Text.trim pattern
  let units := Text.toUnits source
  match Pattern.compile units with
  | .error fault => .error (.badPattern spec (String.ofList source) fault)
  | .ok compiled =>
    match countGroups units with
    | .error fault => .error (.uncounted (String.ofList source) fault)
    | .ok n => .ok (.template compiled (String.ofList (Text.trim replacement)) n)

/-- Builds the rewrite of the rule with this key. -/
def ofSetting (key : String) : Option RewriteSetting → Except RewriteError Rewrite × Log
  | Option.none => (.ok .none, [])
  | some (.flag on) => (.ok (if on then .stripKey key else .none), [])
  | some (.text spec) =>
    if spec = "" then (.ok .none, [])
    else
      match Text.pieces arrow spec.toList with
      | [pattern, replacement] => (ofHalves spec pattern replacement, [])
      | _ => (.ok .none, [malformed spec key])

/-- How a group is written in a replacement. -/
def token (i : Nat) : List CodeUnit := Text.toUnits ('$' :: Nat.toDigits 10 i)

/-- Puts the match and its groups into a replacement, the lowest number first. Each
    round sees what the rounds before have inserted. -/
def expand (replacement : List CodeUnit) (groups : List (Option (List CodeUnit)))
    (groupCount : Nat) : List CodeUnit :=
  (List.range (groupCount + 1)).foldl
    (fun text i => Text.replaceAll (token i) ((groups[i]?).join.getD []) text) replacement

/-- Applies a template to the units of a path. -/
def applyTemplate (pattern : Pattern.Compiled) (replacement : List CodeUnit) (groupCount : Nat)
    (path : List CodeUnit) : List CodeUnit :=
  let input := path.toArray
  pattern.replaceAll input fun m => expand replacement (m.groups input) groupCount

/-- Applies a rewrite to a path. The result need not be in canonical form. -/
def apply : Rewrite → String → String
  | .none, path => path
  | .stripKey key, path => String.ofList (Text.removeFirst key.toList path.toList)
  | .template pattern replacement groupCount, path =>
    String.ofList (Text.ofUnits (applyTemplate pattern (Text.toUnits replacement.toList) groupCount
      (Text.toUnits path.toList)))

end Rewrite

end Gateway
