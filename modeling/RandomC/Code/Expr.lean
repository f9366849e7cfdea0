import RandomC.Code.Variable

/-!
# Expressions

An expression of a generated program is a tree of terms. Each term carries the type it is cast to.
-/

namespace RandomC

/-- An expression: one term, cast to `type`. -/
inductive Expr where
  /-- A constant. -/
  | literal (type : CType) (value : Literal)
  /-- The value of a place. -/
  | read (type : CType) (place : Place)
  /-- A call of the function with the given number. -/
  | call (type : CType) (callee : Int) (arguments : List Expr)
  /-- An assignment used as a value. -/
  | assign (type : CType) (place : Place) (value : Expr)
  /-- Two expressions, the first for nothing. -/
  | comma (type : CType) (left right : Expr)
  /-- The complement of an expression. -/
  | complement (type : CType) (operand : Expr)
  /-- The exclusive or of two expressions. -/
  | xor (type : CType) (left right : Expr)
  deriving Repr

/-- The name of the function with a number. -/
def functionName (number : Int) : String := s!"func_{number}"

namespace Expr

/-- The type that the expression is cast to. -/
def type : Expr → CType
  | literal type _ | read type _ | call type _ _ | assign type _ _ | comma type _ _
  | complement type _ | xor type _ _ => type

mutual

/-- An expression as it is written. -/
def text : Expr → String
  | literal type value => type.castText value.text
  | read type place => type.castText place.text
  | call type callee arguments =>
    type.castText (functionName callee ++ "(" ++ ", ".intercalate (texts arguments) ++ ")")
  | assign type place value => type.castText s!"({place.text} = {value.text})"
  | comma type left right => type.castText s!"(({left.text}), ({right.text}))"
  | complement type operand => type.castText s!"(~({operand.text}))"
  | xor type left right => type.castText s!"(({left.text}) ^ ({right.text}))"

/-- Expressions as they are written. -/
def texts : List Expr → List String
  | [] => []
  | expr :: rest => expr.text :: texts rest

end

end Expr

end RandomC
