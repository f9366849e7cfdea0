import RandomC.Random.Source

/-!
# The written decision trace

Each recorded decision is one line: its number, counted from 1, the kind of draw (`U` for a bounded
value, `F` for a coin) with its parameter, and the outcome. A detailed trace adds the redraws and the
raw value.
-/

namespace RandomC.Random

namespace Decision

/-- The decision without its number and without details. -/
def summary : Decision → String
  | bounded bound value _ _ => s!"U {bound} -> {value}"
  | coin percent heads _ => s!"F {percent} -> {if heads then 1 else 0}"

/-- What a detailed trace adds to the summary. -/
def details : Decision → String
  | bounded _ _ tries raw => s!" tries={tries} raw={raw}"
  | coin _ _ raw => s!" raw={raw}"

/-- The line of the decision that was recorded after `index` others. -/
def line (detailed : Bool) (index : Nat) (decision : Decision) : String :=
  s!"{index + 1} " ++ decision.summary ++ (if detailed then decision.details else "")

end Decision

namespace Source

/-- The trace, one line for each recorded decision. -/
def traceLines (detailed : Bool) (source : Source) : List String :=
  source.decisions.toList.mapIdx (Decision.line detailed)

/-- The trace as it is written into a file, below a comment that names the seed. -/
def traceText (detailed : Bool) (source : Source) : String :=
  s!"# seed={source.seed}\n" ++ String.join ((source.traceLines detailed).map (· ++ "\n"))

end Source

end RandomC.Random
