import RandomC.Code.Literal

/-!
# Variables and places

The variables of a generated program, and the places an expression can read or assign.
-/

namespace RandomC

/-- A parameter or local variable. -/
structure Variable where
  name : String
  type : CType
  deriving DecidableEq, Repr

/-- A scalar global variable. -/
structure GlobalVar where
  name : String
  type : CType
  isConst : Bool
  isVolatile : Bool
  deriving DecidableEq, Repr

/-- A global array. -/
structure ArrayVar where
  name : String
  type : CType
  length : Int
  deriving DecidableEq, Repr

/-- A global pointer to a scalar global. -/
structure PointerVar where
  name : String
  target : String
  targetType : CType
  isVolatile : Bool
  volatileTarget : Bool
  constTarget : Bool
  deriving DecidableEq, Repr

/-- The pointer or its target has a qualifier. -/
def PointerVar.qualified (pointer : PointerVar) : Bool :=
  pointer.isVolatile || pointer.volatileTarget || pointer.constTarget

/-- Qualifiers as they stand in front of a type. -/
def qualifierText (isConst isVolatile : Bool) : String :=
  (if isConst then "const " else "") ++ (if isVolatile then "volatile " else "")

/-- What can be read, and assigned unless it is const. -/
inductive Place where
  /-- A variable. -/
  | named (name : String)
  /-- The target of a pointer. -/
  | target (pointer : String)
  /-- An array element at a fixed index. -/
  | element (array : String) (index : Nat)
  /-- An array element at the accumulator's value under a mask. -/
  | masked (array : String) (mask : Int)
  deriving DecidableEq, Repr

/-- The variable that carries data from statement to statement of a function body. -/
def accumulator : String := "x"

/-- A place as it is written. -/
def Place.text : Place → String
  | named name => name
  | target pointer => "*" ++ pointer
  | element array index => s!"{array}[{index}]"
  | masked array mask => s!"{array}[x & {mask}u]"

/-- A place that is on offer for an expression of some type. -/
structure Candidate where
  place : Place
  type : CType
  assignable : Bool
  deriving DecidableEq, Repr

/-- The candidate that a global variable is. -/
def GlobalVar.candidate (v : GlobalVar) : Candidate :=
  ⟨.named v.name, v.type, ! v.isConst⟩

/-- The candidate that a parameter or local variable is. -/
def Variable.candidate (v : Variable) : Candidate := ⟨.named v.name, v.type, true⟩

/-- The candidate that the target of a pointer is. -/
def PointerVar.candidate (pointer : PointerVar) : Candidate :=
  ⟨.target pointer.name, pointer.targetType, ! pointer.constTarget⟩

end RandomC
