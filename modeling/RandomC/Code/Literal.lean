import RandomC.Code.CType
import RandomC.Random.Source
import RandomC.Text.Hex

/-!
# Literals

A random constant is a hexadecimal literal of a width that goes with its type. Widths beyond 32 bits are
put together from two raw values, the upper half drawn first.
-/

namespace RandomC

/-- A hexadecimal literal of fixed width. -/
structure Literal where
  digits : Nat
  value : Nat
  suffix : String
  deriving DecidableEq, Repr

namespace Literal

/-- The literal as it is written. -/
def text (literal : Literal) : String := "0x" ++ Text.hex literal.digits literal.value ++ literal.suffix

open RandomC.Random in
/-- Draws a constant of a type. The suffix of a wide constant needs the type `long long`. -/
def draw (type : CType) (longLong : Bool) : StateM Source Literal := do
  let raw ← Source.next
  if type.bits ≤ 8 then
    return ⟨2, raw % 0x100, ""⟩
  if type.bits ≤ 16 then
    return ⟨4, raw % 0x10000, ""⟩
  if type.bits ≤ 32 then
    return ⟨8, raw, if type.signed then "L" else "U"⟩
  let low ← Source.next
  return ⟨16, raw * 0x100000000 + low, if longLong then (if type.signed then "LL" else "ULL") else ""⟩

open RandomC.Random in
/-- Draws the initial value of a global variable. -/
def drawInitial : StateM Source Literal := do
  return ⟨8, ← Source.next, "u"⟩

end Literal

end RandomC
