import ValueTypes.Constant

/-!
Lookups that several callers make of names in one state. A lookup of the legacy name takes two steps: it
sets the flag and learns in the same step whether it was set, and then gives the notice if it was not.
Steps of other lookups may come between them.
-/
namespace ValueTypes.Deprecations

/-- How far a lookup has come. -/
inductive Call where
  | asked (name : String)
  | swapped (before : Bool)
  | answered (kind : Option Kind)
deriving DecidableEq, Inhabited

/-- The next step of a lookup: how far it comes, the state that it leaves and what it logs. -/
def Call.step (d : Deprecations) : Call → Call × Deprecations × List Log
  | .asked name =>
    if name = legacyName then (.swapped d.warned, ⟨true⟩, [])
    else (.answered (Kind.named? name), d, [])
  | .swapped before => (.answered (some .nominal), d, if before then [] else [notice])
  | .answered kind => (.answered kind, d, [])

/-- Lookups under way in one state. Each log entry stands with the number of the lookup it came from. -/
structure Run where
  state : Deprecations
  calls : List Call
  log : List (Nat × Log)
deriving DecidableEq, Inhabited

namespace Run

def start (names : List String) : Run := ⟨{}, names.map .asked, []⟩

/-- The lookup with the given number takes its next step, if there is one. -/
def step (r : Run) (i : Nat) : Run :=
  match r.calls[i]? with
  | some c =>
    let (next, state, logs) := c.step r.state
    ⟨state, r.calls.set i next, r.log ++ logs.map (i, ·)⟩
  | none => r

/-- The steps are taken in the given order, each by the lookup that the schedule names. -/
def steps (r : Run) (schedule : List Nat) : Run := schedule.foldl step r

end Run

end ValueTypes.Deprecations
