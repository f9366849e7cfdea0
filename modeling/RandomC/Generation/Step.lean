import RandomC.Random.Stream
import RandomC.Text.Integer
import RandomC.Text.Sheet

/-!
# Generation steps

A step works on a state of some type that holds the random source. It may fail, and a failure keeps the
state that was reached: what was drawn stays drawn.
-/

namespace RandomC

/-- Why generation ends without a result. -/
inductive Failure where
  /-- No value below `bound` was accepted in `tries` redraws. -/
  | noneAccepted (bound : Int) (tries : Nat)
  /-- A list was asked for an element it does not have. -/
  | noSuchElement
  /-- An element was to be replaced that a list does not have. -/
  | nothingToReplace
  /-- A level of a sheet was refused. -/
  | level (error : Text.LevelError)
  /-- A number has too many digits to be written. -/
  | unwritable
  deriving DecidableEq, Repr

/-- What is reported about a failure. -/
def Failure.message : Failure → String
  | noneAccepted bound tries => s!"filtered draw exceeded its retry limit (n={bound}, tries={tries})"
  | noSuchElement => "list index out of range"
  | nothingToReplace => "list assignment index out of range"
  | level error => error.message
  | unwritable => Text.unwritableMessage

/-- A state that holds the random source, with the record of what was drawn from it. -/
class Drawing (σ : Type) where
  stream : σ → Random.Stream
  withStream : Random.Stream → σ → σ

/-- A step that works on a state and gives a value or fails. -/
abbrev Step (σ : Type) := ExceptT Failure (StateM σ)

namespace Step

open RandomC.Random

variable {σ α : Type} [Drawing σ]

/-- Draws from the source of the state. -/
def draw (action : StateM Source α) : Step σ α := fun state =>
  let drawn := (Drawing.stream state).draw action
  (.ok drawn.1, Drawing.withStream drawn.2 state)

/-- Draws a value below a bound. -/
def below (bound : Int) : Step σ Nat := draw (Source.below bound)

/-- Draws a value below a bound and tells whether it is less than `limit`. -/
def belowLimit (bound : Int) (limit : Nat) : Step σ Bool := do return decide ((← below bound) < limit)

/-- Decides by a draw below a bound; one value in `bound` says yes. -/
def oneIn (bound : Int) : Step σ Bool := belowLimit bound 1

/-- Flips a coin. -/
def coin (percent : Int) : Step σ Bool := draw (Source.coin percent)

/-- Draws values below a bound until one is not rejected. -/
def belowUnless (bound : Int) (reject : Nat → Bool) : Step σ Nat := do
  match ← draw (Source.belowUnless bound reject) with
  | .ok value => return value
  | .error tries => throw (.noneAccepted bound tries)

/-- Makes a decision where it is open; else the answer is no, without a draw. -/
def decideIf (isOpen : Bool) (decision : Step σ Bool) : Step σ Bool :=
  if isOpen then decision else return false

/-- The element at an index; an index below zero counts from the end. -/
def element (list : List α) (index : Int) : Step σ α :=
  let position := if index < 0 then index + list.length else index
  match if position < 0 then none else list[position.toNat]? with
  | some value => return value
  | none => throw .noSuchElement

/-- The list with another element at an index; an index below zero counts from the end. -/
def replace (list : List α) (index : Int) (value : α) : Step σ (List α) :=
  let position := if index < 0 then index + list.length else index
  if position < 0 || list.length ≤ position then throw .nothingToReplace
  else return list.set position.toNat value

/-- Draws an element of a list. -/
def choose (list : List α) : Step σ α := do element list (← below list.length)

end Step

end RandomC
