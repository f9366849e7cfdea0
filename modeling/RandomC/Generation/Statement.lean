import RandomC.Code.Function
import RandomC.Generation.Expression

/-!
# Generating statements

A block is a random number of statements. The kind of each is drawn by weight until it is one that may
stand there. A statement that cannot be formed is taken back and another one is tried; after eight
attempts a statement that does nothing takes its place.

As with expressions, each kind is a step that is given how to make the blocks it contains, and `block`
ties them together by recursion on the number of levels that blocks may still be nested.
-/

namespace RandomC

/-- The kinds of statements among which a draw decides. -/
inductive StatementKind where
  | assign
  | branch
  | loop
  | leave
  | nextRound
  | leaveLoop
  /-- A jump to a label, which can never be formed. -/
  | jump
  | updateElement
  deriving DecidableEq, Repr

namespace StatementKind

/-- The name of a kind of statement. -/
def name : StatementKind → String
  | assign => "assign"
  | branch => "ifelse"
  | loop => "for"
  | leave => "return"
  | nextRound => "continue"
  | leaveLoop => "break"
  | jump => "goto"
  | updateElement => "arrayop"

/-- All kinds. -/
def all : List StatementKind :=
  [assign, branch, loop, leave, nextRound, leaveLoop, jump, updateElement]

/-- The kind with a name. -/
def ofName? (name : String) : Option StatementKind := all.find? (·.name == name)

/-- The kind that a value below 100 stands for. Without jumps the updates of array elements take the
share of the jumps and half of their own. -/
def ofDraw (value : Int) (jumps arrays : Bool) : StatementKind :=
  if value < 15 then branch
  else if value < 30 then loop
  else if value < 35 then leave
  else if value < 40 then nextRound
  else if value < 45 then leaveLoop
  else if jumps && value < 50 then jump
  else if arrays && value < (if jumps then 60 else 55) then updateElement
  else assign

end StatementKind

/-- How deep blocks nest at most; the body of a function has depth 0. -/
def maxDepth (settings : Settings) : Int := max 1 settings.maxBlockDepth

/-- The number of levels that blocks may be nested below a block at a depth. -/
def blocksBelow (settings : Settings) (depth : Int) : Nat := (maxDepth settings - depth).toNat

/-- A kind of statement that may not stand in a block: the statements of loops outside a loop, and
statements with blocks at the deepest level. -/
def rejects (settings : Settings) (depth : Int) (inLoop : Bool) : StatementKind → Bool
  | .leaveLoop | .nextRound => ! inLoop
  | .branch | .loop => decide (maxDepth settings ≤ depth)
  | _ => false

/-- The mask under which the accumulator becomes an index of an array, for a limit on the lengths of
arrays and the length of the array. -/
def arrayMask (maxLength length : Int) : Int := min (max 1 (min maxLength 8 - 1)) (length - 1)

namespace Site

/-- How the blocks inside a statement are made, depending on whether they are the body of a loop. -/
abbrev Nested := Bool → Gen Block

section

variable (site : Site)

/-- Draws the kind of the next statement. -/
def chooseKind (depth : Int) (inLoop : Bool) : Gen StatementKind := do
  let kind (value : Nat) := StatementKind.ofDraw value site.settings.jumps site.settings.arrays
  return kind (← Step.belowUnless 100 fun value => rejects site.settings depth inLoop (kind value))

/-- Records the place that was changed last. -/
def recordChange (place : Place) (type : CType) : Gen Unit :=
  modify fun world => { world with context := { world.context with lastChanged := some ⟨place, type, true⟩ } }

/-- The place to assign to, and the value it is declared with if it is new: the accumulator in a scope
with local variables, else any place, and a new local variable where there is none. -/
def assignable : Gen (Place × CType × Option Literal) := do
  let locals := site.scope.locals
  let type := match locals.find? (·.name == accumulator) with
    | some v => v.type
    | none => .uint32
  if ! locals.isEmpty then
    return (.named accumulator, type, none)
  match ← drawAssignable site.setup site.scope type with
  | some candidate => return (candidate.place, candidate.type, none)
  | none =>
    let number := (← Step.draw Random.Source.next) % 0x10000
    return (.named s!"lv_{number}", type, some (← drawConstant site.setup type))

/-- An assignment. -/
def assignStatement : Gen Statement := do
  let (place, type, initial) ← site.assignable
  let value ← site.expression (.plain type)
  let compound ← Step.decideIf site.settings.compoundAssignment (Step.oneIn 2)
  recordChange place type
  return .assign place initial compound value

/-- A condition: a mask, whose value is drawn in any case, or a constant or an expression in its place. -/
def condition : Gen Condition := do
  let mask := 1 + (← Step.below 7)
  if ← Step.decideIf site.settings.constAsCondition (Step.oneIn 5) then
    return .constant (← drawConstant site.setup .uint32)
  if ← Step.oneIn 3 then
    return .nonzero (← site.expression ⟨.uint32, false, false, ! site.settings.constAsCondition⟩)
  return .bits mask

/-- An update of an element of one of the arrays of the environment, if there are any. -/
def updateStatement : Gen (Option Statement) := do
  let arrays := site.setup.env.arrays
  if ! site.settings.arrays || arrays.isEmpty then
    return none
  let v ← Step.choose arrays
  let mask := arrayMask site.settings.maxArrayLenPerDim v.length
  let value ← site.expression (.plain v.type)
  recordChange (.masked v.name mask) v.type
  let addition : Addition := if site.settings.safeMath then .checked else .operator
  return some (.updateElement v.name v.type mask value
    (if site.settings.embeddedAssigns then some addition else none))

/-- A statement of a kind, unless it cannot be formed. Statements with blocks need a way to make them. -/
def statementOf (nested : Option Nested) (kind : StatementKind) : Gen (Option Statement) :=
  match kind, nested with
  | .assign, _ => some <$> site.assignStatement
  | .branch, some block => do
    let condition ← site.condition
    let yes ← block false
    return some (.ifElse condition yes (← block false))
  | .loop, some block => do
    let bound := 1 + (← Step.below 5)
    return some (.loop bound (← block true))
  | .leave, _ =>
    return some (.leave (if site.scope.returnLocal.isEmpty then "l_0" else site.scope.returnLocal))
  | .nextRound, _ => return some .nextRound
  | .leaveLoop, _ => return some .leaveLoop
  | .updateElement, _ => site.updateStatement
  | .jump, _ | _, none => return none

/-- Charges a statement to the budget where there is a limit. -/
def chargeStatement : Gen Unit := do
  let start := (← get).checkpoint
  Gen.changeFlow fun flow =>
    { flow with budget := if 0 < flow.budget then flow.budget - 1 else flow.budget }
  Gen.remember (.begun start (← get).checkpoint)

/-- The statement that does nothing is not charged. -/
def fillBlock : Gen Block := do
  let now := (← get).checkpoint
  Gen.remember (.begun now now)
  return [.filler]

/-- The next statement of a block, unless it cannot be formed. It is charged to the budget; there is no
statement when the budget is used up. -/
def statement (nested : Option Nested) (depth : Int) (inLoop : Bool) : Gen (Option Block) := do
  if (← get).flow.budget = 0 then
    return some []
  chargeStatement
  return (← site.statementOf nested (← site.chooseKind depth inLoop)).map ([·])

/-- Makes statements until one can be formed, at most `attempts` times; the last resort does nothing. -/
def statementAttempts (make : Gen (Option Block)) : (attempts : Nat) → Gen Block
  | 0 => fillBlock
  | left + 1 => Gen.attemptOr site.setup make (statementAttempts make left)

/-- Makes `count` statements, or fewer when the budget is used up. -/
def statements (make : Gen (Option Block)) : (count : Nat) → Gen Block
  | 0 => return []
  | count + 1 => do
    if (← get).flow.budget = 0 then
      Gen.report .budgetExhausted
      return []
    let first ← site.statementAttempts make 8
    return first ++ (← statements make count)

/-- A block at a depth, given how the blocks inside it are made. -/
def blockOf (nested : Option Nested) (depth : Int) (inLoop : Bool) : Gen Block := do
  if (← get).flow.budget = 0 then
    return []
  let least : Nat := if depth = 0 then 2 else 1
  let more ← Step.below (max 1 site.settings.maxBlockSize)
  site.statements (site.statement nested depth inLoop) (least + more)

/-- A block at a depth, with `levels` more levels of blocks below it at most. -/
def blockWithin : (levels : Nat) → (depth : Int) → Nested
  | 0, depth, inLoop => Gen.spanning (site.blockOf none depth inLoop)
  | levels + 1, depth, inLoop =>
    let nested : Nested := fun inLoop => blockWithin levels (depth + 1) inLoop
    Gen.spanning (site.blockOf (some nested) depth inLoop)

/-- A block at a depth. -/
def block (depth : Int) : Nested := site.blockWithin (blocksBelow site.settings depth) depth

end

end Site

end RandomC
