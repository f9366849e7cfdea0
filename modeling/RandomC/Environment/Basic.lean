import RandomC.Code.Item
import RandomC.Generation.Step
import RandomC.Settings.Basic

/-!
# The environment of a program

The environment holds the global variables, arrays, pointers and chains of pointers that exist before
any function has a body. All of them share one numbering.
-/

namespace RandomC

/-- The global variables of a program, each kind in the order of its declarations. -/
structure Environment where
  globals : List GlobalVar
  arrays : List ArrayVar
  pointers : List PointerVar
  /-- The links of pointer chains, by name. -/
  chains : List String
  /-- The number of the next variable. -/
  nextId : Int
  deriving Repr

namespace Environment

/-- No variables. -/
def empty : Environment := ⟨[], [], [], [], 0⟩

/-- The scalars that are not const. -/
def writable (env : Environment) : List GlobalVar := env.globals.filter (! ·.isConst)

end Environment

/-- The name of the global variable with a number. -/
def globalName (number : Int) : String := s!"g_{number}"

/-- Draws a qualifier that a variable has with `percent` chances in a hundred if it is in use at all. -/
def drawQualifier {σ : Type} [Drawing σ] (inUse : Bool) (percent : Nat) : Step σ Bool :=
  Step.decideIf inUse (Step.belowLimit 100 percent)

/-- Draws the qualifiers of a scalar global, const and volatile in this order. A variable that would be
both loses the const in half of the cases. -/
def drawQualifiers {σ : Type} [Drawing σ] (settings : Settings) : Step σ (Bool × Bool) := do
  let isConst ← drawQualifier settings.consts 10
  let isVolatile ← drawQualifier settings.volatiles 50
  if isConst && isVolatile then
    if ← Step.oneIn 2 then
      return (false, true)
  return (isConst, isVolatile)

end RandomC
