import RandomC.Proofs.State

/-!
# Well-formed bodies

What the body of a function may consist of: terms of known types over the variables that the function
sees, and calls of later functions with one argument for each parameter.  A tree stays well-formed while
the state of the run is extended.
-/

namespace RandomC

/-- The types that a run has at its disposal. -/
inductive Setup.Knows (setup : Setup) : CType → Prop where
  | uint32 : setup.Knows .uint32
  | scalar {type : CType} (member : type ∈ setup.scalars) : setup.Knows type
  | struct {index : Nat} (bound : index < setup.layouts.structs.length) :
      setup.Knows (.struct index)
  | union {index : Nat} (bound : index < setup.layouts.unions.length) : setup.Knows (.union index)
  | global {v : GlobalVar} (member : v ∈ setup.env.globals) : setup.Knows v.type
  | array {v : ArrayVar} (member : v ∈ setup.env.arrays) : setup.Knows v.type

/-- The suffixes that literals may have. -/
def literalSuffixes : List String := ["", "u", "L", "U", "LL", "ULL"]

/-- The literal has the form that drawn literals have. -/
def Literal.Plain (value : Literal) : Prop := value.suffix ∈ literalSuffixes

/-- The initial value has the form that those of generated globals have. -/
def Initial.Plain : Initial → Prop
  | .literal value => value.Plain
  | .zero => True

/-- The global has no qualifiers but those in use. -/
structure GlobalVar.Suits (settings : Settings) (v : GlobalVar) : Prop where
  isConst : v.isConst = true → settings.consts = true
  isVolatile : v.isVolatile = true → settings.volatiles = true

/-- The places that expressions may use in the body of a function with the given parameters. -/
inductive Offered (setup : Setup) (params : List Variable) (flow : Flow) : Candidate → Prop where
  | global {candidate : Candidate} (member : candidate ∈ flow.candidates) :
      Offered setup params flow candidate
  | param {v : Variable} (member : v ∈ params) : Offered setup params flow v.candidate
  | target {pointer : PointerVar} (member : pointer ∈ setup.env.pointers) :
      Offered setup params flow pointer.candidate
  | element {v : ArrayVar} {index : Nat} (member : v ∈ setup.env.arrays)
      (bound : (index : Int) < max 1 v.length) :
      Offered setup params flow ⟨.element v.name index, v.type, true⟩

/-- The expressions that may stand in the body of the function at an index. -/
inductive Expr.Formed (setup : Setup) (caller : Nat) (params : List Variable) (flow : Flow) :
    Expr → Prop where
  | literal {type : CType} {value : Literal} (known : setup.Knows type) (plain : value.Plain) :
      Formed setup caller params flow (.literal type value)
  | read {type : CType} {candidate : Candidate} (known : setup.Knows type)
      (offered : Offered setup params flow candidate) :
      Formed setup caller params flow (.read type candidate.place)
  | call {type : CType} {index : Nat} {callee : Signature} {arguments : List Expr}
      (known : setup.Knows type) (later : caller < index)
      (found : flow.functions[index]? = some callee)
      (types : arguments.map Expr.type = callee.params.map (·.type))
      (formed : ∀ argument ∈ arguments, Formed setup caller params flow argument) :
      Formed setup caller params flow (.call type callee.number arguments)
  | assign {type : CType} {candidate : Candidate} {value : Expr} (known : setup.Knows type)
      (offered : Offered setup params flow candidate) (assignable : candidate.assignable)
      (same : value.type = type) (formed : Formed setup caller params flow value) :
      Formed setup caller params flow (.assign type candidate.place value)
  | comma {type : CType} {left right : Expr} (known : setup.Knows type) (same : right.type = type)
      (leftFormed : Formed setup caller params flow left)
      (rightFormed : Formed setup caller params flow right) :
      Formed setup caller params flow (.comma type left right)
  | complement {type : CType} {operand : Expr} (known : setup.Knows type)
      (same : operand.type = type) (formed : Formed setup caller params flow operand) :
      Formed setup caller params flow (.complement type operand)
  | xor {type : CType} {left right : Expr} (known : setup.Knows type)
      (leftSame : left.type = type) (rightSame : right.type = type)
      (leftFormed : Formed setup caller params flow left)
      (rightFormed : Formed setup caller params flow right) :
      Formed setup caller params flow (.xor type left right)

/-- The conditions that may stand in the body of the function at an index. -/
inductive Condition.Formed (setup : Setup) (caller : Nat) (params : List Variable) (flow : Flow) :
    Condition → Prop where
  | bits {mask : Nat} : Formed setup caller params flow (.bits mask)
  | constant {value : Literal} (plain : value.Plain) : Formed setup caller params flow (.constant value)
  | nonzero {value : Expr} (same : value.type = .uint32)
      (formed : value.Formed setup caller params flow) :
      Formed setup caller params flow (.nonzero value)

/-- The statements that may stand in the body of the function at an index. -/
inductive Statement.Formed (setup : Setup) (caller : Nat) (params : List Variable)
    (returnLocal : String) (flow : Flow) : Statement → Prop where
  | assign {compound : Bool} {value : Expr} (same : value.type = .uint32)
      (formed : value.Formed setup caller params flow) :
      Formed setup caller params returnLocal flow
        (.assign (.named accumulator) none compound value)
  | ifElse {condition : Condition} {yes no : Block}
      (condition_formed : condition.Formed setup caller params flow)
      (yes_formed : ∀ statement ∈ yes, Formed setup caller params returnLocal flow statement)
      (no_formed : ∀ statement ∈ no, Formed setup caller params returnLocal flow statement) :
      Formed setup caller params returnLocal flow (.ifElse condition yes no)
  | loop {bound : Nat} {body : Block}
      (formed : ∀ statement ∈ body, Formed setup caller params returnLocal flow statement) :
      Formed setup caller params returnLocal flow (.loop bound body)
  | leave : Formed setup caller params returnLocal flow (.leave returnLocal)
  | nextRound : Formed setup caller params returnLocal flow .nextRound
  | leaveLoop : Formed setup caller params returnLocal flow .leaveLoop
  | updateElement {v : ArrayVar} {value : Expr} {increment : Option Addition}
      (member : v ∈ setup.env.arrays) (same : value.type = v.type)
      (formed : value.Formed setup caller params flow) :
      Formed setup caller params returnLocal flow
        (.updateElement v.name v.type
          (arrayMask setup.settings.maxArrayLenPerDim v.length) value increment)
  | filler : Formed setup caller params returnLocal flow .filler

/-- The definitions that the function at an index may have. -/
structure Definition.Formed (setup : Setup) (caller : Nat) (flow : Flow)
    (definition : Definition) : Prop where
  seeds : definition.seeds = accumulatorSeeds setup.env
  body : ∀ statement ∈ definition.body,
    statement.Formed setup caller definition.signature.params definition.returnLocal flow
  mix : ∀ name expr, definition.mix = some (name, expr) →
    (∃ v ∈ setup.env.writable, v.name = name ∧ expr.type = v.type) ∧
      expr.Formed setup caller definition.signature.params flow

/-- Everything that a state holds is well-formed. -/
structure Flow.Formed (setup : Setup) (flow : Flow) : Prop where
  functions : ∀ signature ∈ flow.functions,
    setup.Knows signature.result ∧ ∀ v ∈ signature.params, setup.Knows v.type
  created : ∀ v ∈ flow.created, setup.Knows v.type
  qualified : ∀ v ∈ flow.created, v.Suits setup.settings
  pending : ∀ pending ∈ flow.pending, pending.initial.Plain
  definitions : ∀ (index : Nat) (definition : Definition),
    flow.definitions[index]? = some (some definition) → definition.Formed setup index flow

/-! ## Well-formed trees stay well-formed -/

/-- The functions and candidates that trees refer to are still there. -/
structure Flow.Widens (before after : Flow) : Prop where
  functions : before.functions <+: after.functions
  candidates : before.candidates <+: after.candidates

/-- What trees in the body of the function at an index refer to is still there: the functions that it may call
and the candidates. -/
structure Flow.Serves (caller : Nat) (before after : Flow) : Prop where
  functions : ∀ (index : Nat) (signature : Signature), caller < index →
    before.functions[index]? = some signature → after.functions[index]? = some signature
  candidates : before.candidates ⊆ after.candidates

section

variable {setup : Setup} {caller : Nat} {params : List Variable} {returnLocal : String}
variable {before after : Flow}

theorem Flow.Extends.widens (extended : before.Extends after) : before.Widens after :=
  ⟨extended.functions, extended.candidates⟩

theorem Flow.Widens.function {index : Nat} {signature : Signature}
    (wider : before.Widens after) (found : before.functions[index]? = some signature) :
    after.functions[index]? = some signature := by
  rcases wider.functions with ⟨rest, appended⟩
  have bound := (List.getElem?_eq_some_iff.mp found).1
  rw [← appended, List.getElem?_append_left bound, found]

theorem Flow.Widens.serves (wider : before.Widens after) (caller : Nat) : before.Serves caller after :=
  ⟨fun _ _ _ found => wider.function found, wider.candidates.subset⟩

theorem Offered.serve {candidate : Candidate} (serves : before.Serves caller after)
    (offered : Offered setup params before candidate) : Offered setup params after candidate := by
  cases offered with
  | global member => exact .global (serves.candidates member)
  | param member => exact .param member
  | target member => exact .target member
  | element member bound => exact .element member bound

theorem Expr.Formed.serve {expr : Expr} (serves : before.Serves caller after)
    (formed : expr.Formed setup caller params before) : expr.Formed setup caller params after := by
  induction formed with
  | literal known plain => exact .literal known plain
  | read known offered => exact .read known (offered.serve serves)
  | call known later found types _ ih =>
      exact .call known later (serves.functions _ _ later found) types ih
  | assign known offered assignable same _ ih =>
      exact .assign known (offered.serve serves) assignable same ih
  | comma known same _ _ left right => exact .comma known same left right
  | complement known same _ ih => exact .complement known same ih
  | xor known leftSame rightSame _ _ left right => exact .xor known leftSame rightSame left right

theorem Condition.Formed.serve {condition : Condition} (serves : before.Serves caller after)
    (formed : condition.Formed setup caller params before) :
    condition.Formed setup caller params after := by
  cases formed with
  | bits => exact .bits
  | constant plain => exact .constant plain
  | nonzero same formed => exact .nonzero same (formed.serve serves)

theorem Statement.Formed.serve {statement : Statement} (serves : before.Serves caller after)
    (formed : statement.Formed setup caller params returnLocal before) :
    statement.Formed setup caller params returnLocal after := by
  induction formed with
  | assign same formed => exact .assign same (formed.serve serves)
  | ifElse condition _ _ yes no => exact .ifElse (condition.serve serves) yes no
  | loop _ ih => exact .loop ih
  | leave => exact .leave
  | nextRound => exact .nextRound
  | leaveLoop => exact .leaveLoop
  | updateElement member same formed => exact .updateElement member same (formed.serve serves)
  | filler => exact .filler

theorem Definition.Formed.serve {definition : Definition} (serves : before.Serves caller after)
    (formed : definition.Formed setup caller before) : definition.Formed setup caller after where
  seeds := formed.seeds
  body statement member := (formed.body statement member).serve serves
  mix name expr mixed :=
    ⟨(formed.mix name expr mixed).1, (formed.mix name expr mixed).2.serve serves⟩

theorem Offered.mono {candidate : Candidate} (wider : before.Widens after)
    (offered : Offered setup params before candidate) : Offered setup params after candidate :=
  offered.serve (wider.serves 0)

theorem Expr.Formed.mono {expr : Expr} (wider : before.Widens after)
    (formed : expr.Formed setup caller params before) : expr.Formed setup caller params after :=
  formed.serve (wider.serves caller)

theorem Condition.Formed.mono {condition : Condition} (wider : before.Widens after)
    (formed : condition.Formed setup caller params before) :
    condition.Formed setup caller params after :=
  formed.serve (wider.serves caller)

theorem Statement.Formed.mono {statement : Statement} (wider : before.Widens after)
    (formed : statement.Formed setup caller params returnLocal before) :
    statement.Formed setup caller params returnLocal after :=
  formed.serve (wider.serves caller)

theorem Definition.Formed.mono {definition : Definition} (wider : before.Widens after)
    (formed : definition.Formed setup caller before) : definition.Formed setup caller after :=
  formed.serve (wider.serves caller)

end

end RandomC
