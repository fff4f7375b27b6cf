import Newsdesk.Failure.Basic
import Newsdesk.Text.Blank

/-!
# Feed groups

A config map names the feeds of each group, separated by commas. Groups are resolved to feed
names in order, each name once; a group that is not defined is skipped, and a name that no feed
has is an error.
-/

namespace Newsdesk

open Text

/-- What separates the names in a list. -/
def listSeparator : Char := ','

/-- The names in a list: trimmed, without empty ones. -/
def splitNames (value : String) : List String :=
  ((splitAt listSeparator value.toList).map trimList).filter (· ≠ []) |>.map String.ofList

/-- Adds a name unless it is there. -/
def addOnce (name : String) (names : List String) : List String :=
  if names.contains name then names else names ++ [name]

/-- Adds the names of one group; each must be known. -/
def addGroup (group : String) (known : List String) :
    List String → List String → Except QueryError (List String)
  | resolved, [] => .ok resolved
  | resolved, name :: rest =>
    if known.contains name then addGroup group known (addOnce name resolved) rest
    else .error (.unknownFeed group name)

/-- The feed names that groups stand for, after those in `resolved`. -/
def resolveGroupsFrom (data : List (String × String)) (known : List String) :
    List String → List String → Except QueryError (List String)
  | resolved, [] => .ok resolved
  | resolved, group :: rest =>
    match data.lookup (trim group) with
    | none => resolveGroupsFrom data known resolved rest
    | some value =>
      match addGroup group known resolved (splitNames value) with
      | .ok resolved => resolveGroupsFrom data known resolved rest
      | .error e => .error e

/-- The feed names that groups stand for. -/
def resolveGroups (groups : List String) (data : List (String × String)) (known : List String) :
    Except QueryError (List String) :=
  resolveGroupsFrom data known [] groups

end Newsdesk
