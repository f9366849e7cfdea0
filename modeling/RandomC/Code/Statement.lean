import RandomC.Code.Expr

/-!
# Statements

Statements form blocks. Every statement is written one level deep, however deep its block is nested.
-/

namespace RandomC

/-- A line of code at an indentation level. -/
structure Line where
  level : Nat
  text : String
  deriving DecidableEq, Repr

/-- The condition of a branch. -/
inductive Condition where
  /-- Some bit of the accumulator under the mask is set. -/
  | bits (mask : Nat)
  /-- The constant is not zero. -/
  | constant (value : Literal)
  /-- The expression is not zero. -/
  | nonzero (value : Expr)
  deriving Repr

/-- A condition as it is written. -/
def Condition.text : Condition → String
  | bits mask => s!"((x & {mask}u) != 0u)"
  | constant value => s!"({CType.uint32.castText value.text} != 0u)"
  | nonzero value => s!"((uint32_t){value.text} != 0u)"

/-- How an array element is incremented. -/
inductive Addition where
  /-- By the operator. -/
  | operator
  /-- By the function that checks for overflow. -/
  | checked
  deriving DecidableEq, Repr

/-- The sum of two operands of a type, as it is written. The checking function of a type without one of
its own is that of 32 bits. -/
def Addition.text (type : CType) (left right : String) : Addition → String
  | operator => s!"(({left}) + ({right}))"
  | checked =>
    let bits : Int := if [8, 16, 32, 64].contains type.bits then type.bits else 32
    if type.signed then s!"safe_add_func_int{bits}_t_s_s({left}, {right})"
    else s!"safe_add_func_uint{bits}_t_u_u({left}, {right})"

/-- A statement. -/
inductive Statement where
  /-- An assignment, possibly to a local variable that is declared with `initial` just before, and
  possibly by addition. -/
  | assign (place : Place) (initial : Option Literal) (compound : Bool) (value : Expr)
  /-- A branch. -/
  | ifElse (condition : Condition) (yes no : List Statement)
  /-- A loop that runs `bound` times. -/
  | loop (bound : Nat) (body : List Statement)
  /-- The end of the function, with the value of a variable. -/
  | leave (result : String)
  /-- The next round of the loop. -/
  | nextRound
  /-- The end of the loop. -/
  | leaveLoop
  /-- An update of an array element, which may then be incremented. -/
  | updateElement (array : String) (type : CType) (mask : Int) (value : Expr) (increment : Option Addition)
  /-- A statement that does nothing. -/
  | filler
  deriving Repr

/-- A block of statements. -/
abbrev Block := List Statement

mutual

/-- The lines of a statement. -/
def Statement.lines : Statement → List Line
  | .assign place initial compound value =>
    (match initial with
      | some literal => [⟨1, s!"uint32_t {place.text} = {CType.uint32.castText literal.text};"⟩]
      | none => []) ++
    [⟨1, place.text ++ (if compound then " += " else " = ") ++ value.text ++ ";"⟩,
     ⟨1, s!"x ^= (uint32_t){place.text};"⟩]
  | .ifElse condition yes no =>
    ⟨1, s!"if {condition.text} \x7b"⟩ :: linesOf yes ++
      ⟨1, "\x7d else \x7b"⟩ :: linesOf no ++ [⟨1, "\x7d"⟩]
  | .loop bound body =>
    ⟨1, s!"for (uint32_t i = 0; i < {bound}u; ++i) \x7b"⟩ ::
      ⟨2, "x += (i ^ 0x00000000u);"⟩ :: linesOf body ++ [⟨1, "\x7d"⟩]
  | .leave result => [⟨1, s!"{result} ^= (uint32_t)x;"⟩, ⟨1, s!"return {result};"⟩]
  | .nextRound => [⟨1, "continue;"⟩]
  | .leaveLoop => [⟨1, "break;"⟩]
  | .updateElement array type mask value increment =>
    let element := (Place.masked array mask).text
    ⟨1, s!"{element} ^= {value.text};"⟩ ::
      (match increment with
        | some addition => [⟨1, "x = (" ++ element ++ " = " ++ addition.text type element (type.castText "1u") ++ ");"⟩]
        | none => [])
  | .filler => [⟨1, "x ^= 0u;"⟩]

/-- The lines of a block. -/
def linesOf : List Statement → List Line
  | [] => []
  | statement :: rest => statement.lines ++ linesOf rest

end

end RandomC
