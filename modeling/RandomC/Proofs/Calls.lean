import Mathlib.Logic.Relation
import RandomC.Proofs.Rollback

/-!
# Calls

Which functions a definition calls, and with arguments of which types.  A definition is made while
functions are created and taken back, and a callee is chosen before the arguments of the call exist; in
the end every call names a function that was created after the caller, and fits its parameters.
-/

namespace RandomC

/-- A call: the number of the function and the types of the arguments. -/
structure Call where
  callee : Int
  arguments : List CType
  deriving DecidableEq, Repr

mutual

/-- The calls in an expression. -/
def Expr.calls : Expr → List Call
  | .literal .. | .read .. => []
  | .call _ callee arguments => ⟨callee, arguments.map Expr.type⟩ :: callsOf arguments
  | .assign _ _ value => value.calls
  | .comma _ left right | .xor _ left right => left.calls ++ right.calls
  | .complement _ operand => operand.calls

/-- The calls in expressions. -/
def callsOf : List Expr → List Call
  | [] => []
  | expr :: rest => expr.calls ++ callsOf rest

end

/-- The calls in a condition. -/
def Condition.calls : Condition → List Call
  | .bits _ | .constant _ => []
  | .nonzero value => value.calls

mutual

/-- The calls in a statement. -/
def Statement.calls : Statement → List Call
  | .assign _ _ _ value | .updateElement _ _ _ value _ => value.calls
  | .ifElse condition yes no => condition.calls ++ blockCalls yes ++ blockCalls no
  | .loop _ body => blockCalls body
  | .leave _ | .nextRound | .leaveLoop | .filler => []

/-- The calls in a block. -/
def blockCalls : List Statement → List Call
  | [] => []
  | statement :: rest => statement.calls ++ blockCalls rest

end

/-- The calls in a definition. -/
def Definition.calls (definition : Definition) : List Call :=
  blockCalls definition.body ++ match definition.mix with
    | some (_, expr) => expr.calls
    | none => []

/-- The call is one of a function that was created after the caller, with one argument for each of its
parameters, of the parameter's type. -/
def Call.Fits (caller : Nat) (flow : Flow) (call : Call) : Prop :=
  ∃ (index : Nat) (callee : Signature), caller < index ∧ flow.functions[index]? = some callee ∧
    call.callee = callee.number ∧ call.arguments = callee.params.map (·.type)

section

variable {setup : Setup} {caller : Nat} {params : List Variable} {returnLocal : String} {flow : Flow}

theorem mem_callsOf {call : Call} {exprs : List Expr} :
    call ∈ callsOf exprs ↔ ∃ expr ∈ exprs, call ∈ expr.calls := by
  induction exprs with
  | nil => simp [callsOf]
  | cons expr rest ih => simp [callsOf, ih]

theorem mem_blockCalls {call : Call} {block : Block} :
    call ∈ blockCalls block ↔ ∃ statement ∈ block, call ∈ statement.calls := by
  induction block with
  | nil => simp [blockCalls]
  | cons statement rest ih => simp [blockCalls, ih]

theorem Expr.Formed.calls_fit {expr : Expr} (formed : expr.Formed setup caller params flow) :
    ∀ call ∈ expr.calls, call.Fits caller flow := by
  induction formed with
  | literal known plain => simp [Expr.calls]
  | read known offered => simp [Expr.calls]
  | call known later found types formed ih =>
      intro call member
      simp only [Expr.calls, List.mem_cons] at member
      rcases member with rfl | inside
      · exact ⟨_, _, later, found, rfl, types⟩
      · obtain ⟨argument, present, member⟩ := mem_callsOf.mp inside
        exact ih argument present call member
  | assign known offered assignable same formed ih => simpa [Expr.calls] using ih
  | comma known same leftFormed rightFormed left right =>
      intro call member
      simp only [Expr.calls, List.mem_append] at member
      exact member.elim (left call) (right call)
  | complement known same formed ih => simpa [Expr.calls] using ih
  | xor known leftSame rightSame leftFormed rightFormed left right =>
      intro call member
      simp only [Expr.calls, List.mem_append] at member
      exact member.elim (left call) (right call)

theorem Condition.Formed.calls_fit {condition : Condition}
    (formed : condition.Formed setup caller params flow) :
    ∀ call ∈ condition.calls, call.Fits caller flow := by
  cases formed with
  | bits => simp [Condition.calls]
  | constant plain => simp [Condition.calls]
  | nonzero same formed => exact formed.calls_fit

theorem Statement.Formed.calls_fit {statement : Statement}
    (formed : statement.Formed setup caller params returnLocal flow) :
    ∀ call ∈ statement.calls, call.Fits caller flow := by
  induction formed with
  | assign same formed => simpa [Statement.calls] using formed.calls_fit
  | ifElse condition yesFormed noFormed yes no =>
      intro call member
      simp only [Statement.calls, List.mem_append] at member
      rcases member with (tested | early) | late
      · exact condition.calls_fit call tested
      · obtain ⟨statement, present, member⟩ := mem_blockCalls.mp early
        exact yes statement present call member
      · obtain ⟨statement, present, member⟩ := mem_blockCalls.mp late
        exact no statement present call member
  | loop formed ih =>
      intro call member
      obtain ⟨statement, present, member⟩ := mem_blockCalls.mp (by simpa [Statement.calls] using member)
      exact ih statement present call member
  | leave => simp [Statement.calls]
  | nextRound => simp [Statement.calls]
  | leaveLoop => simp [Statement.calls]
  | updateElement member same formed => simpa [Statement.calls] using formed.calls_fit
  | filler => simp [Statement.calls]

theorem Definition.Formed.calls_fit {definition : Definition}
    (formed : definition.Formed setup caller flow) :
    ∀ call ∈ definition.calls, call.Fits caller flow := by
  intro call member
  rcases List.mem_append.mp member with inBody | inMix
  · obtain ⟨statement, present, member⟩ := mem_blockCalls.mp inBody
    exact (formed.body statement present).calls_fit call member
  · cases mixed : definition.mix with
    | none => simp [mixed] at inMix
    | some mix =>
        simp only [mixed] at inMix
        exact (formed.mix mix.1 mix.2 mixed).2.calls_fit call inMix

end

/-! ## The call graph of a run -/

/-- The definition of the function at an index calls the function at another one. -/
def Flow.Calls (flow : Flow) (caller callee : Nat) : Prop :=
  ∃ definition, flow.definitions[caller]? = some (some definition) ∧
    ∃ call ∈ definition.calls, call.callee = callee + 1

theorem World.Good.calls_lt {setup : Setup} {world : World} (good : world.Good setup) {caller callee : Nat}
    (calls : Relation.TransGen world.flow.Calls caller callee) : caller < callee := by
  have single {caller callee : Nat} (calls : world.flow.Calls caller callee) : caller < callee := by
    rcases calls with ⟨definition, found, call, member, number⟩
    obtain ⟨index, signature, later, present, same, -⟩ :=
      (good.formed.definitions caller definition found).calls_fit call member
    have position := good.aligned.number present
    omega
  induction calls with
  | single last => exact single last
  | tail _ last ih => exact Nat.lt_trans ih (single last)

/-- What the definitions of a program call. -/
structure Flow.CallsForward (flow : Flow) : Prop where
  /-- Every function has a definition. -/
  defined : ∀ index < flow.functions.length, ∃ definition,
    flow.definitions[index]? = some (some definition)
  /-- Every call is one of a function with a greater number, with one argument for each of its parameters,
  of the parameter's type. -/
  later : ∀ (index : Nat) (definition : Definition),
    flow.definitions[index]? = some (some definition) → ∀ call ∈ definition.calls,
      ∃ (number : Nat) (callee : Signature), call.callee = number ∧ index + 1 < number ∧
        number ≤ flow.functions.length ∧ flow.functions[number - 1]? = some callee ∧
        callee.number = number ∧ call.arguments = callee.params.map (·.type)
  acyclic : ∀ index, ¬ Relation.TransGen flow.Calls index index
  /-- The entry function is not called. -/
  entry : ∀ caller, ¬ flow.Calls caller 0

/-- Functions that are created and taken back while a body is made leave no trace in what the definitions
of a run call. -/
theorem run_calls_forward (setup : Setup) (source : Random.Source) (log : Array Event)
    (succeeds : (run setup (.start setup source log)).1 = .ok ()) :
    (run setup (.start setup source log)).2.flow.CallsForward := by
  obtain ⟨good, complete⟩ := run_good succeeds
  constructor
  · exact fun index bound => good.aligned.exists_definition complete bound
  · intro index definition found call member
    have fits := (good.formed.definitions index definition found).calls_fit call member
    rcases fits with ⟨position, callee, later, present, same, types⟩
    have number := good.aligned.number present
    have bound := (List.getElem?_eq_some_iff.mp present).1
    exact ⟨position + 1, callee, by omega, by omega, bound, present, by omega, types⟩
  · intro index cycle
    exact Nat.lt_irrefl index (good.calls_lt cycle)
  · intro caller calls
    exact Nat.not_lt_zero caller (good.calls_lt (.single calls))

/-- In a small run, the entry function calls the other one with a global that was created for the
purpose, after other attempts were taken back. -/
theorem run_calls_forward_small :
    (run smallSetup (.start smallSetup (.ofSeed 2 false) #[])).1 = .ok () ∧
      (run smallSetup (.start smallSetup (.ofSeed 2 false) #[])).2.flow.definitions.map
        (·.map Definition.calls) = [some [⟨2, [.uint128]⟩], some []] ∧
      (run smallSetup (.start smallSetup (.ofSeed 2 false) #[])).2.flow.CallsForward := by
  have succeeds : (run smallSetup (.start smallSetup (.ofSeed 2 false) #[])).1 = .ok () :=
    eq_ok_of_isOk (by decide +kernel)
  exact ⟨succeeds, by decide +kernel, run_calls_forward _ _ _ succeeds⟩

end RandomC
