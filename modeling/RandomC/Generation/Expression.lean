import RandomC.Generation.CallGraph
import RandomC.Generation.Place
import RandomC.Generation.Term

/-!
# Generating expressions

An expression is one term, chosen by weight, over expressions one level deeper. A term that cannot be
completed is taken back and another one is chosen; after six attempts the expression is a constant.

The generator is built in layers. Each kind of term is a step that is given how to make the expressions it
contains. `leaf` ties these steps together by recursion on the number of levels that may still be opened,
and is itself given how to build the body of a function that a call creates.
-/

namespace RandomC

/-- What is asked of an expression. -/
structure Request where
  type : CType
  /-- It is an argument of a call. -/
  argument : Bool
  /-- It may not be a call. -/
  noCall : Bool
  /-- It may not be chosen to be a constant. -/
  noConstant : Bool
  deriving DecidableEq, Repr

/-- Asks for an expression of a type. -/
def Request.plain (type : CType) : Request := ⟨type, false, false, false⟩

/-- Asks for an argument of a type. -/
def Request.forArgument (type : CType) : Request := ⟨type, true, false, false⟩

/-- Where an expression is generated. -/
structure Site where
  setup : Setup
  scope : Scope
  /-- Builds the body of the function at an index. It is absent where no function can be created. -/
  build : Option (Int → Gen Unit)

namespace Site

/-- The settings in force. -/
def settings (site : Site) : Settings := site.setup.settings

/-- How the expressions inside a term are made. -/
abbrev Inner := Request → Gen Expr

/-- An expression has at most so many levels. -/
def maxLevels (settings : Settings) : Int := max 1 settings.maxExprComplexity

/-- The number of levels that may still be opened below an expression at a depth. -/
def levelsBelow (settings : Settings) (depth : Int) : Nat := (maxLevels settings - 1 - depth).toNat

section

variable (site : Site)

/-- A constant. -/
def constant (type : CType) : Gen Expr := return .literal type (← drawConstant site.setup type)

/-- Draws the type of a local variable of the enclosing block; it is a scalar unless there are none or
the type that is wanted has no bits. -/
def localType (type : CType) : Gen CType := do
  let scalars := site.setup.scalars
  if 0 < type.bits && ! scalars.isEmpty then
    Step.element scalars ((← Step.below 14) % scalars.length)
  else
    return type

/-- Draws the many properties of a local variable of the enclosing block. -/
def drawProperties : Gen Unit := do
  discard <| ([50, 10, 20, 50, 50] : List Int).mapM fun percent => (Step.coin percent : Gen Bool)
  discard <| Step.below 20

/-- In an exact replay, a local variable of the enclosing block is wanted where there is none: its type
and properties are drawn, and a global that starts with zero takes its place. -/
def parentLocal (type : CType) : Gen (Option Candidate) := do
  if ! site.settings.exactReplay then
    return none
  let chosen ← site.localType type
  drawProperties
  return some (← createZeroGlobal chosen)

/-- In an exact replay, a block is drawn before a local variable is looked for. -/
def beforeLocals : Gen Unit := do
  if site.settings.exactReplay then
    discard <| Step.below 1

/-- In an exact replay, an operator is drawn before an assignment. -/
def beforeAssignment : Gen Unit := do
  if site.settings.exactReplay then
    discard <| Step.coin 50
    discard <| Step.below 120

/-- The type of the first expression of a comma: any type in an exact replay, else that of the second. -/
def commaType (type : CType) : Gen CType :=
  if site.settings.exactReplay then site.setup.layouts.chooseType site.setup.scalars type
  else return type

/-- Decides whether a call takes an existing function where there is one. -/
def reuseCallee : Gen Bool := do
  if site.settings.exactReplay then
    let reuse ← Step.coin 50
    discard <| Step.coin (if site.settings.builtins then site.settings.builtinFunctionProb else 0)
    return reuse
  else
    Step.oneIn 2

/-- A variable that is created where a new one is drawn. In the scope of the local variables, a block is
drawn first. -/
def newPlace (type : CType) : Band → Gen (Option Candidate)
  | .fresh => some <$> createGlobal site.setup type false
  | .locals => do
    site.beforeLocals
    return none
  | _ => return none

/-- A variable that is created where a scope has no candidates. -/
def missingPlace (type : CType) (candidates : List Candidate) (band : Band) : Gen (Option Candidate) :=
  if ! candidates.isEmpty then return none else match band with
    | .globals => some <$> createGlobal site.setup type false
    | .locals => site.parentLocal type
    | _ => return none

/-- A variable. -/
def readTerm (type : CType) : Gen (Option Expr) := do
  let band ← drawBand site.settings
  if let some candidate ← site.newPlace type band then
    return some (.read type candidate.place)
  let candidates ← scopedCandidates site.setup site.scope band
  if let some candidate ← site.missingPlace type candidates band then
    return some (.read type candidate.place)
  let candidates ← orAllCandidates site.setup site.scope candidates
  return (← selectPlace type candidates false).map fun candidate => .read type candidate.place

/-- An assignment, of a value that is generated first. -/
def assignTerm (inner : Inner) (type : CType) : Gen (Option Expr) := do
  site.beforeAssignment
  spendTerms site.settings 1
  let value ← inner (.plain type)
  let band ← drawBand site.settings
  let candidates ← scopedCandidates site.setup site.scope band
  if candidates.isEmpty && (band == .globals || band == .fresh) then
    let created ← createGlobal site.setup type true
    return some (.assign type created.place value)
  let candidates ← orAllCandidates site.setup site.scope candidates
  return (← selectPlace type candidates true).map fun candidate => .assign type candidate.place value

/-- Two expressions with a comma between them. -/
def commaTerm (inner : Inner) (type : CType) : Gen Expr := do
  let leftType ← site.commaType type
  spendTerms site.settings 2
  let left ← inner ⟨leftType, false, false, true⟩
  return .comma type left (← inner (.plain type))

/-- Draws what the complement operator is, which has no effect. -/
def beforeComplement : Gen Unit := do
  discard <| Step.coin 50
  discard <| Step.below 4

/-- Draws what an operator between two operands is, which has no effect. -/
def beforeXor : Gen Unit := do
  discard <| Step.coin (if site.settings.pointers then 10 else 0)
  discard <| Step.below 18
  discard <| Step.coin 50
  discard <| Step.coin 50
  discard <| Step.below 4

/-- In an exact replay, an operator in place of a call, unless a call is drawn. -/
def operatorForm (inner : Inner) (type : CType) : Gen (Option Expr) := do
  if ! site.settings.exactReplay then
    return none
  if ! (← Step.coin 80) then
    return none
  if ← Step.coin 5 then
    beforeComplement
    return some (.complement type (← inner (.plain type)))
  site.beforeXor
  let left ← inner (.plain type)
  return some (.xor type left (← inner (.plain type)))

/-- The index of a new function that gives a type and whose body is built at once, where one can be
created. -/
def createCallee (type : CType) : Gen (Option Nat) :=
  match site.build with
  | none => return none
  | some build => do
    match ← createFunction site.setup (some type) with
    | none => return none
    | some index =>
      build index
      return some index

/-- The index of a function to call: one of those created after the caller, or a new one. There is none
when no function can be taken or created. -/
def callee (type : CType) : Gen (Option Int) := do
  let world ← get
  let first := world.context.caller + 1
  let count := (world.flow.functions.length - first).toNat
  if (← site.reuseCallee) && count ≠ 0 then
    return some (first + (← Step.below count))
  if count = 0 && site.settings.exactReplay then
    return none
  match ← site.createCallee type with
  | some index => return some index
  | none =>
    if count ≠ 0 then
      return some (first + (← Step.below count))
    let caller ← functionAt world.context.caller
    Gen.report (.noCallee caller.name)
    return none

/-- A call. The arguments are generated in the order of the parameters. -/
def callTerm (inner : Inner) (type : CType) : Gen (Option Expr) := do
  match ← site.callee type with
  | none => return none
  | some index =>
    Gen.remember (.called index (← get).checkpoint)
    let signature ← functionAt index
    spendTerms site.settings signature.params.length
    let arguments ← signature.params.mapM fun param => inner (.forArgument param.type)
    return some (.call type signature.number arguments)

/-- A call or, below the root of an expression, an operator in its place. -/
def functionTerm (inner : Inner) (depth : Int) (type : CType) : Gen (Option Expr) := do
  if 0 < depth then
    if let some expr ← site.operatorForm inner type then
      return some expr
  if depth < maxLevels site.settings then
    site.callTerm inner type
  else
    return none

/-- A term of a kind. Where nothing can stand inside a term, only variables and constants can be made. -/
def term (inner : Option Inner) (depth : Int) (type : CType) (kind : Term) : Gen (Option Expr) :=
  match kind, inner with
  | .constant, _ => some <$> site.constant type
  | .read, _ => site.readTerm type
  | .call, some inner => site.functionTerm inner depth type
  | .assign, some inner => site.assignTerm inner type
  | .comma, some inner => some <$> site.commaTerm inner type
  | _, none => return none

/-- A kind of term that may not be chosen for a request; `closed` bars what contains expressions. -/
def barred (request : Request) (closed : Bool) : Term → Bool
  | .call => request.noCall || closed
  | .constant => request.noConstant
  | .assign | .comma => closed
  | .read => false

/-- Chooses a term and makes it, which may come to nothing. -/
def attempt (make : Term → Gen (Option Expr)) (request : Request) (closed : Bool) :
    Gen (Option Expr) := do
  match ← chooseTerm site.settings (termWeights request.argument site.settings) (barred request closed) with
  | some kind => make kind
  | none => return none

/-- Makes terms until one is complete, at most `attempts` times; the last resort is a constant. -/
def attempts (make : Term → Gen (Option Expr)) (request : Request) (closed : Bool) :
    (attempts : Nat) → Gen Expr
  | 0 => site.constant request.type
  | left + 1 =>
    Gen.attemptOr site.setup (site.attempt make request closed) (attempts make request closed left)

/-- An expression over expressions made by `inner`, which is absent when no level may be opened. -/
def oneTerm (inner : Option Inner) (depth : Int) (request : Request) : Gen Expr := do
  let closed := inner.isNone || (← termsExhausted site.settings)
  site.attempts (site.term inner depth request.type) request closed 6

/-- An expression that is not an argument has a term budget of its own unless it stands inside another
expression. -/
def budgeted (depth : Int) (request : Request) (step : Gen Expr) : Gen Expr :=
  if request.argument || 0 < depth then step else withTerms site.settings step

/-- An expression at a depth, with `levels` more levels below it at most. -/
def leaf : (levels : Nat) → (depth : Int) → Request → Gen Expr
  | 0, depth, request => Gen.spanning (site.oneTerm none depth request)
  | levels + 1, depth, request =>
    let inner : Inner := fun request => site.budgeted (depth + 1) request (leaf levels (depth + 1) request)
    Gen.spanning (site.oneTerm (some inner) depth request)

/-- How expressions at a depth are made. -/
def inner (depth : Int) : Inner := fun request =>
  site.budgeted depth request (site.leaf (levelsBelow site.settings depth) depth request)

/-- A whole expression. -/
def expression (request : Request) : Gen Expr := do
  let expr ← site.inner 0 request
  Gen.remember (.expressed expr)
  return expr

end

end Site

end RandomC
