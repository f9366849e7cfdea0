import RandomC.Generation.Step

/-!
# Queries

A query asks the source for a value through one of its primitives. A source that records its decisions has
to write each of them down: a query with a bound that has too many digits is left unanswered and is not
recorded, though what was drawn for it stays drawn.
-/

namespace RandomC.Random

/-- What a source can be asked for. -/
inductive Query where
  | next
  | below (bound : Int)
  | coin (percent : Int)
  | belowUnless (bound : Int) (reject : Nat → Bool)

/-- What a source answers. -/
inductive Answer where
  | value (value : Nat)
  | heads (heads : Bool)
  deriving DecidableEq, Repr

/-- The decision can be written. -/
def Decision.isWritable : Decision → Bool
  | bounded bound .. => Text.hasDecimalText bound
  | coin .. => true

namespace Query

/-- Draws the answer. -/
def draw : Query → StateM Source (Except Failure Answer)
  | next => return .ok (.value (← Source.next))
  | below bound => return .ok (.value (← Source.below bound))
  | coin percent => return .ok (.heads (← Source.coin percent))
  | belowUnless bound reject => do
    match ← Source.belowUnless bound reject with
    | .ok value => return .ok (.value value)
    | .error tries => return .error (.noneAccepted bound tries)

/-- Draws the answer, and withholds it where a decision was recorded that cannot be written. -/
def answer (query : Query) : StateM Source (Except Failure Answer) := fun source =>
  let (answer, after) := query.draw source
  if (after.decisions.toList.drop source.decisions.size).all Decision.isWritable then (answer, after)
  else (.error .unwritable, { after with decisions := source.decisions })

end Query

end RandomC.Random
