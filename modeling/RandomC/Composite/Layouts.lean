import RandomC.Code.Item
import RandomC.Generation.Step

/-!
# Layouts of composite types

The structs and unions of a program in the order of their declarations. Together with the scalars they
form the types among which a program's entry function and its comma expressions select, numbered with the
scalars first, then the structs, then the unions.
-/

namespace RandomC

/-- The fields of each struct and each union. -/
structure Layouts where
  structs : List (Array Field)
  unions : List (Array Field)
  deriving Repr

namespace Layouts

/-- No composite types. -/
def empty : Layouts := ⟨[], []⟩

/-- The number of types when the scalars are counted in. -/
def typeCount (scalars : List CType) (layouts : Layouts) : Nat :=
  scalars.length + layouts.structs.length + layouts.unions.length

/-- The type with a number; a number below zero counts the scalars from the last. -/
def typeAt {σ : Type} (scalars : List CType) (layouts : Layouts) (number : Int) : Step σ CType :=
  let composite := number - scalars.length
  if composite < 0 then Step.element scalars number
  else if composite < layouts.structs.length then return CType.struct composite
  else return CType.union (composite - layouts.structs.length)

/-- Draws one of all types, or gives the fallback, without a draw, when there is none. -/
def chooseType {σ : Type} [Drawing σ] (scalars : List CType) (layouts : Layouts) (fallback : CType) :
    Step σ CType := do
  let count := layouts.typeCount scalars
  if count = 0 then
    return fallback
  layouts.typeAt scalars (← Step.below count)

end Layouts

end RandomC
