import RandomC.Code.Statement

/-!
# Functions

A function is known by its signature before it has a body. Its body is a frame around one block: the
return local and the accumulator are declared, the parameters are mixed into the accumulator, and after
the block the accumulator is mixed into the result.
-/

namespace RandomC

/-- The number, result type and parameters of a function. -/
structure Signature where
  number : Int
  result : CType
  params : List Variable
  deriving DecidableEq, Repr

/-- Parameters as they are written between the parentheses. -/
def paramText (params : List Variable) : String :=
  if params.isEmpty then "void"
  else ", ".intercalate (params.map fun param => s!"{param.type.name} {param.name}")

/-- The prototype of a function with a result type, a name and parameters. -/
def prototypeText (result : CType) (name : String) (params : List Variable) : String :=
  s!"static {result.name} {name}({paramText params})"

namespace Signature

/-- The name of the function. -/
def name (signature : Signature) : String := functionName signature.number

/-- The prototype of the function. -/
def prototype (signature : Signature) : String :=
  prototypeText signature.result signature.name signature.params

end Signature

/-- A function with its body. -/
structure Definition where
  signature : Signature
  /-- The name of the local variable that is returned. -/
  returnLocal : String
  /-- Two globals whose sum the accumulator starts with; it starts with zero without them. -/
  seeds : Option (String × String)
  body : Block
  /-- A global into which an expression is mixed after the block. -/
  mix : Option (String × Expr)
  deriving Repr

namespace Definition

variable (definition : Definition)

/-- The declaration of the local variable that is returned. -/
def resultLine : Line :=
  let type := definition.signature.result
  ⟨1, type.name ++ " " ++ definition.returnLocal ++ " = " ++ type.castText "0u" ++ ";"⟩

/-- The declaration of the accumulator. -/
def accumulatorLine : Line :=
  ⟨1, match definition.seeds with
    | some (first, second) => s!"uint32_t x = ((uint32_t){first}) + ((uint32_t){second});"
    | none => "uint32_t x = 0u;"⟩

/-- What is mixed into a global after the block. -/
def mixLines : List Line :=
  match definition.mix with
  | some (name, expr) => [⟨1, s!"{name} ^= {expr.text};"⟩]
  | none => []

/-- What comes after the declarations: the parameters, the block and the result. -/
def bodyLines : List Line :=
  definition.signature.params.map (fun param => ⟨1, s!"x ^= (uint32_t){param.name};"⟩) ++
  linesOf definition.body ++
  definition.mixLines ++
  [⟨1, definition.returnLocal ++ " ^= " ++ definition.signature.result.castText accumulator ++ ";"⟩,
   ⟨1, s!"return {definition.returnLocal};"⟩,
   ⟨0, "\x7d"⟩]

/-- The lines of a definition, the empty line after it left out. -/
def lines : List Line :=
  ⟨0, definition.signature.prototype ++ " \x7b"⟩ :: definition.resultLine ::
    definition.accumulatorLine :: definition.bodyLines

end Definition

end RandomC
