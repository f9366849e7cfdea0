import RandomC.Proofs.Definition
import RandomC.Proofs.ExpressionShape
import RandomC.Proofs.Policy

/-!
# The shape of function bodies

How deep blocks nest, where the statements of loops may stand, how often loops run, when an array element is
incremented, and how many statements a block has, which depends on whether there is a limit on statements.
As for expressions, one induction over blocks and one over the bodies of functions go along with any policy of
a run.
-/

namespace RandomC

/-- A block at a depth begins with so many statements, to which some are added. -/
def leastStatements (depth : Int) : Nat := if depth = 0 then 2 else 1

/-- The condition is made of whole expressions. -/
inductive Condition.Shaped (settings : Settings) : Condition → Prop where
  | bits {mask : Nat} : Shaped settings (.bits mask)
  | constant {value : Literal} (digits : 0 < value.digits) : Shaped settings (.constant value)
  | nonzero {value : Expr} (whole : value.Whole settings) : Shaped settings (.nonzero value)

mutual

/-- The statement may stand in a block at a depth, which is the body of a loop or not. -/
inductive StatementShaped (settings : Settings) (unlimited : Prop) :
    (depth : Int) → (inLoop : Bool) → Statement → Prop where
  | assign {depth : Int} {inLoop : Bool} {place : Place} {initial : Option Literal} {compound : Bool}
      {value : Expr} (whole : value.Whole settings) :
      StatementShaped settings unlimited depth inLoop (.assign place initial compound value)
  | ifElse {depth : Int} {inLoop : Bool} {condition : Condition} {yes no : Block}
      (deeper : depth < maxDepth settings) (shaped : condition.Shaped settings)
      (yesShaped : BlockShaped settings unlimited (depth + 1) false yes)
      (noShaped : BlockShaped settings unlimited (depth + 1) false no) :
      StatementShaped settings unlimited depth inLoop (.ifElse condition yes no)
  | loop {depth : Int} {inLoop : Bool} {bound : Nat} {body : Block}
      (deeper : depth < maxDepth settings) (least : 1 ≤ bound) (most : bound ≤ 5)
      (bodyShaped : BlockShaped settings unlimited (depth + 1) true body) :
      StatementShaped settings unlimited depth inLoop (.loop bound body)
  | leave {depth : Int} {inLoop : Bool} {result : String} :
      StatementShaped settings unlimited depth inLoop (.leave result)
  | nextRound {depth : Int} : StatementShaped settings unlimited depth true .nextRound
  | leaveLoop {depth : Int} : StatementShaped settings unlimited depth true .leaveLoop
  | updateElement {depth : Int} {inLoop : Bool} {array : String} {type : CType} {mask : Int}
      {value : Expr} {increment : Option Addition} (whole : value.Whole settings)
      (inUse : increment.isSome → settings.embeddedAssigns = true) :
      StatementShaped settings unlimited depth inLoop (.updateElement array type mask value increment)
  | filler {depth : Int} {inLoop : Bool} : StatementShaped settings unlimited depth inLoop .filler

/-- The block has not too many statements, and not too few where there is no limit on them, and all of them
may stand in it. -/
inductive BlockShaped (settings : Settings) (unlimited : Prop) :
    (depth : Int) → (inLoop : Bool) → Block → Prop where
  | of {depth : Int} {inLoop : Bool} {block : Block}
      (each : ∀ statement ∈ block, StatementShaped settings unlimited depth inLoop statement)
      (most : (block.length : Int) < leastStatements depth + max 1 settings.maxBlockSize)
      (least : unlimited → leastStatements depth ≤ block.length) :
      BlockShaped settings unlimited depth inLoop block

end

/-- The block of the definition is shaped as one outside of loops, and what is mixed into a global at the
end is a whole expression.  Only where there is no global to mix it into is there none. -/
structure Definition.Shaped (setup : Setup) (unlimited : Prop) (definition : Definition) : Prop where
  body : BlockShaped setup.settings unlimited 0 false definition.body
  mix : ∀ name expr, definition.mix = some (name, expr) → expr.Whole setup.settings
  unmixed : definition.mix = none → setup.env.writable = []

namespace Site

section

variable {site : Site} {regime : Regime} {unlimited : Prop}
variable {depth : Int} {inLoop : Bool} {world : World}

/-! ## Statements -/

theorem aside_assignable : Aside site.assignable := by
  have drawn (type : CType) : Aside (drawAssignable site.setup site.scope type) := by
    apply (idle_drawBand _).aside.bind
    intro band
    apply (aside_scopedCandidates band).bind
    intro candidates
    apply (aside_orAllCandidates candidates).bind
    exact fun candidates => (idle_selectPlace type candidates true).aside
  have number : Idle (Step.draw Random.Source.next : Gen Nat) fun _ => True := idle_draw fun _ => trivial
  unfold assignable
  dsimp only
  split
  · exact .pure
  · apply (drawn _).bind
    intro candidate
    cases candidate with
    | some candidate => exact .pure
    | none =>
        apply number.aside.bind
        intro number
        exact (idle_drawConstant _).aside.bind fun _ => .pure

theorem aside_recordChange (place : Place) (type : CType) : Aside (recordChange place type) :=
  fun _ => ⟨⟨⟨rfl, rfl, rfl, rfl, rfl⟩, rfl⟩, rfl⟩

/-- Making whole expressions keeps to the regime. -/
abbrev Expresses (site : Site) (regime : Regime) : Prop :=
  ∀ request, request.argument = false → regime.Holds (site.expression request) (Expr.Whole site.settings)

/-- The statement may stand in a block, and apart from itself so many statements were charged for it. -/
structure Fitting (settings : Settings) (unlimited : Prop) (depth : Int) (inLoop : Bool) (inside : Nat)
    (statement : Statement) : Prop where
  shaped : StatementShaped settings unlimited depth inLoop statement
  charge : statement.charge = inside + 1

theorem assignStatement_holds (expresses : site.Expresses regime) :
    regime.Holds site.assignStatement (Fitting site.settings unlimited depth inLoop 0) := by
  apply (Regime.Holds.aside aside_assignable).bind
  rintro ⟨place, type, initial⟩ _
  apply (expresses _ rfl).bind
  intro value whole
  apply (Regime.Holds.idle (idle_decideIf (idle_oneIn 2))).bind
  intro compound _
  apply (Regime.Holds.aside (aside_recordChange place type)).bind
  exact fun _ _ => .pure ⟨.assign whole, rfl⟩

theorem condition_holds (expresses : site.Expresses regime) :
    regime.Holds site.condition (Condition.Shaped site.settings) := by
  apply (Regime.Holds.idle (idle_below 7)).bind
  intro mask _
  apply (Regime.Holds.idle (idle_decideIf (idle_oneIn 5))).bind
  intro constant _
  split
  · apply (Regime.Holds.idle (idle_drawConstant_digits _ _)).bind
    exact fun _ digits => .pure (.constant digits)
  · apply (Regime.Holds.idle (idle_oneIn 3)).bind
    intro nonzero _
    split
    · exact (expresses _ rfl).bind fun _ whole => .pure (.nonzero whole)
    · exact .pure .bits

theorem updateStatement_holds (expresses : site.Expresses regime) :
    regime.Holds site.updateStatement (IfSome (Fitting site.settings unlimited depth inLoop 0)) := by
  unfold updateStatement
  dsimp only
  split
  · exact .pure nofun
  · apply (Regime.Holds.idle (idle_choose _)).bind
    intro v _
    apply (expresses _ rfl).bind
    intro value whole
    apply (Regime.Holds.aside (aside_recordChange _ _)).bind
    intro _ _
    apply Regime.Holds.pure
    rintro _ ⟨⟩
    refine ⟨.updateElement whole ?_, rfl⟩
    intro increments
    split at increments
    · assumption
    · cases increments

/-- Making the blocks inside a statement of a block at a depth keeps to the regime, and they are shaped. -/
abbrev ShapesBlocks (site : Site) (regime : Regime) (unlimited : Prop) (depth : Int)
    (nested : Nested) : Prop :=
  ∀ inLoop world, regime.inv world → regime.Spends (nested inLoop) world fun spent block =>
    chargeOf block = spent ∧ BlockShaped site.settings unlimited (depth + 1) inLoop block

theorem branch_spends {nested : Nested} (expresses : site.Expresses regime)
    (shapes : site.ShapesBlocks regime unlimited depth nested) (deeper : depth < maxDepth site.settings)
    (kept : regime.inv world) :
    regime.Spends (site.statementOf (some nested) .branch) world fun inside =>
      IfSome (Fitting site.settings unlimited depth inLoop inside) := by
  apply (condition_holds expresses).then kept
  intro condition start leads conditionShaped
  apply (shapes false start leads.kept).bind
  rintro _ yes middle leads ⟨rfl, yesShaped⟩
  apply (shapes false middle leads.kept).bind
  rintro _ no after leads ⟨rfl, noShaped⟩
  apply Regime.Spends.pure leads.kept
  rintro _ ⟨⟩
  refine ⟨.ifElse deeper conditionShaped yesShaped noShaped, ?_⟩
  simp only [Statement.charge]
  omega

theorem loop_spends {nested : Nested} (shapes : site.ShapesBlocks regime unlimited depth nested)
    (deeper : depth < maxDepth site.settings) (kept : regime.inv world) :
    regime.Spends (site.statementOf (some nested) .loop) world fun inside =>
      IfSome (Fitting site.settings unlimited depth inLoop inside) := by
  apply (Regime.Holds.idle (idle_below 5)).then kept
  intro bound start leads most
  apply (shapes true start leads.kept).bind
  rintro _ body after leads ⟨rfl, bodyShaped⟩
  apply Regime.Spends.pure leads.kept
  rintro _ ⟨⟩
  refine ⟨.loop deeper (by omega) (by omega) bodyShaped, ?_⟩
  simp only [Statement.charge]
  omega

/-- A statement of a kind that may stand in the block. -/
theorem statementOf_spends {nested : Option Nested} (kind : StatementKind)
    (expresses : site.Expresses regime)
    (shapes : ∀ make, nested = some make → site.ShapesBlocks regime unlimited depth make)
    (accepted : rejects site.settings depth inLoop kind = false) (kept : regime.inv world) :
    regime.Spends (site.statementOf nested kind) world fun inside =>
      IfSome (Fitting site.settings unlimited depth inLoop inside) := by
  have simple {step : Gen (Option Statement)}
      (holds : regime.Holds step (IfSome (Fitting site.settings unlimited depth inLoop 0))) :
      regime.Spends step world fun inside =>
        IfSome (Fitting site.settings unlimited depth inLoop inside) := by
    apply (holds world kept).mono
    rintro _ made ⟨rfl, fitting⟩
    exact fitting
  have made {statement : Statement}
      (shaped : StatementShaped site.settings unlimited depth inLoop statement)
      (charge : statement.charge = 1) :
      regime.Spends (pure (some statement)) world fun inside =>
        IfSome (Fitting site.settings unlimited depth inLoop inside) := by
    apply simple
    apply Regime.Holds.pure
    rintro _ ⟨⟩
    exact ⟨shaped, charge⟩
  have nothing : regime.Spends (pure none) world fun inside =>
      IfSome (Fitting site.settings unlimited depth inLoop inside) := simple (.pure nofun)
  cases kind with
  | assign =>
      apply simple
      apply Regime.Holds.map
      apply (assignStatement_holds expresses).mono
      rintro statement fitting _ ⟨⟩
      exact fitting
  | branch =>
      have deeper : depth < maxDepth site.settings := by simpa [rejects] using accepted
      cases nested with
      | none => exact nothing
      | some nested => exact branch_spends expresses (shapes nested rfl) deeper kept
  | loop =>
      have deeper : depth < maxDepth site.settings := by simpa [rejects] using accepted
      cases nested with
      | none => exact nothing
      | some nested => exact loop_spends (shapes nested rfl) deeper kept
  | leave => exact made .leave rfl
  | nextRound =>
      obtain rfl : inLoop = true := by simpa [rejects] using accepted
      exact made .nextRound rfl
  | leaveLoop =>
      obtain rfl : inLoop = true := by simpa [rejects] using accepted
      exact made .leaveLoop rfl
  | jump => exact nothing
  | updateElement => exact simple (updateStatement_holds expresses)

/-! ## Blocks -/

/-- At most so many statements were made, and exactly so many where there is no limit on them; for some of
them and those in their blocks the budget was charged. -/
structure Amount (settings : Settings) (unlimited : Prop) (depth : Int) (inLoop : Bool) (count spent : Nat)
    (block : Block) : Prop where
  each : ∀ statement ∈ block, StatementShaped settings unlimited depth inLoop statement
  most : block.length ≤ count
  all : unlimited → block.length = count
  charge : chargeOf block = spent

theorem Amount.append {settings : Settings} {first later spent more : Nat} {block rest : Block}
    (amount : Amount settings unlimited depth inLoop first spent block)
    (others : Amount settings unlimited depth inLoop later more rest) :
    Amount settings unlimited depth inLoop (first + later) (spent + more) (block ++ rest) where
  each := List.forall_mem_append.mpr ⟨amount.each, others.each⟩
  most := by
    have most := Nat.add_le_add amount.most others.most
    simpa using most
  all free := by simp [amount.all free, others.all free]
  charge := by rw [chargeOf_append, amount.charge, others.charge]

theorem Amount.single {settings : Settings} {statement : Statement}
    (shaped : StatementShaped settings unlimited depth inLoop statement) :
    Amount settings unlimited depth inLoop 1 statement.charge [statement] :=
  ⟨by simpa using shaped, Nat.le_refl 1, fun _ => rfl, rfl⟩

/-- Where a limit was reached, there are no statements. -/
theorem Amount.none {settings : Settings} {count : Nat} (limited : ¬ unlimited) :
    Amount settings unlimited depth inLoop count 0 [] :=
  ⟨nofun, Nat.zero_le _, fun free => absurd free limited, rfl⟩

/-- Charging a statement, where the budget is not used up. -/
theorem chargeStatement_spends (begins : regime.Begins)
    (kept : regime.inv world) (limited : world.flow.budget ≠ 0) :
    regime.Spends chargeStatement world fun spent _ => spent = 1 :=
  have begun := begins.beginning kept limited
  ⟨1, ⟨begun.1, begun.2⟩, rfl⟩

theorem fillBlock_spends (begins : regime.Begins) (kept : regime.inv world)
    (limited : world.flow.budget ≠ 0) :
    regime.Spends fillBlock world (Amount site.settings unlimited depth inLoop 1) := by
  apply Regime.Spends.get
  have begun := begins.filling kept limited
  exact .remember begun (.pure begun.1 (.single .filler))

section

variable (free : ∀ world, regime.inv world → unlimited → world.flow.budget ≠ 0)

include free

theorem statement_spends {nested : Option Nested} (begins : regime.Begins)
    (expresses : site.Expresses regime)
    (shapes : ∀ make, nested = some make → site.ShapesBlocks regime unlimited depth make)
    (kept : regime.inv world) :
    regime.Spends (site.statement nested depth inLoop) world fun spent =>
      IfSome (Amount site.settings unlimited depth inLoop 1 spent) := by
  apply Regime.Spends.get
  split
  · rename_i exhausted
    apply Regime.Spends.pure kept
    rintro _ ⟨⟩
    exact .none fun unlimited => free world kept unlimited exhausted
  · rename_i limited
    apply (chargeStatement_spends begins kept limited).bind
    rintro _ _ start leads rfl
    apply (Regime.Holds.idle (idle_chooseKind depth inLoop)).then leads.kept
    intro kind ready leads accepted
    apply (statementOf_spends kind expresses shapes accepted leads.kept).bind
    intro inside made after leads fitting
    apply Regime.Spends.pure leads.kept
    intro block same
    obtain ⟨statement, made, rfl⟩ := Option.map_eq_some_iff.mp same
    have fitting := fitting statement made
    have charge : statement.charge = 1 + (inside + 0) := by rw [fitting.charge, Nat.add_comm]; rfl
    exact charge ▸ .single fitting.shaped

omit free in
/-- Every attempt starts with the budget of the first one. -/
theorem statementAttempts_spends {make : Gen (Option Block)} (begins : regime.Begins)
    (makes : ∀ world, regime.inv world → regime.Spends make world fun spent =>
      IfSome (Amount site.settings unlimited depth inLoop 1 spent)) (left : Nat)
    (kept : regime.inv world) (limited : world.flow.budget ≠ 0) :
    regime.Spends (site.statementAttempts make left) world
      (Amount site.settings unlimited depth inLoop 1) := by
  induction left generalizing world with
  | zero => exact fillBlock_spends begins kept limited
  | succ left ih =>
      apply Regime.Spends.attemptOr kept
      · exact fun start kept => makes start kept
      · exact fun back kept same => ih kept (same ▸ limited)

theorem statements_spends {make : Gen (Option Block)} (begins : regime.Begins)
    (makes : ∀ world, regime.inv world → regime.Spends make world fun spent =>
      IfSome (Amount site.settings unlimited depth inLoop 1 spent)) (count : Nat)
    (kept : regime.inv world) :
    regime.Spends (site.statements make count) world
      (Amount site.settings unlimited depth inLoop count) := by
  induction count generalizing world with
  | zero => exact .pure kept ⟨nofun, Nat.le_refl 0, fun _ => rfl, rfl⟩
  | succ count ih =>
      apply Regime.Spends.get
      split
      · rename_i exhausted
        apply (Regime.Holds.idle (idle_report _)).then kept
        intro _ after leads _
        apply Regime.Spends.pure leads.kept
        exact .none fun unlimited => free world kept unlimited exhausted
      · rename_i limited
        apply (statementAttempts_spends begins makes 8 kept limited).bind
        intro spent first start leads amount
        apply (ih leads.kept).bind
        intro more rest after leads others
        apply Regime.Spends.pure leads.kept
        rw [Nat.add_comm count]
        exact amount.append others

theorem blockOf_spends {nested : Option Nested} (begins : regime.Begins)
    (expresses : site.Expresses regime)
    (shapes : ∀ make, nested = some make → site.ShapesBlocks regime unlimited depth make)
    (kept : regime.inv world) :
    regime.Spends (site.blockOf nested depth inLoop) world fun spent block =>
      chargeOf block = spent ∧ BlockShaped site.settings unlimited depth inLoop block := by
  apply Regime.Spends.get
  split
  · rename_i exhausted
    apply Regime.Spends.pure kept
    refine ⟨rfl, nofun, ?_, ?_⟩
    · simp only [List.length_nil]
      omega
    · exact fun unlimited => absurd exhausted (free world kept unlimited)
  · apply (Regime.Holds.idle (idle_below _)).then kept
    intro more start leads bound
    apply (statements_spends free begins
      (fun _ kept => statement_spends free begins expresses shapes kept) _ leads.kept).mono
    intro spent block amount
    have least : (if depth = 0 then 2 else 1) = leastStatements depth := rfl
    have most := amount.most
    have all := amount.all
    rw [least] at most all
    refine ⟨amount.charge, amount.each, ?_, ?_⟩
    · omega
    · intro unlimited
      have all := all unlimited
      omega

/-- Induction on the number of levels that blocks may still be nested. -/
theorem blockWithin_spends (begins : regime.Begins)
    (expresses : site.Expresses regime) (levels : Nat) (depth : Int) (inLoop : Bool)
    (kept : regime.inv world) :
    regime.Spends (site.blockWithin levels depth inLoop) world fun spent block =>
      chargeOf block = spent ∧ BlockShaped site.settings unlimited depth inLoop block := by
  induction levels generalizing depth inLoop world with
  | zero =>
      rw [blockWithin]
      apply Regime.Spends.spanning kept
      apply blockOf_spends free begins expresses _ kept
      intro nested impossible
      cases impossible
  | succ levels ih =>
      rw [blockWithin]
      apply Regime.Spends.spanning kept
      apply blockOf_spends free begins expresses _ kept
      intro nested same inLoop world kept
      cases same
      exact ih (depth + 1) inLoop kept

end

theorem mix_holds (expresses : site.Expresses regime) :
    regime.Holds site.mix fun made =>
      (∀ name expr, made = some (name, expr) → expr.Whole site.settings) ∧
        (made = none → site.setup.env.writable = []) := by
  unfold mix
  dsimp only
  split
  · rename_i none
    exact .pure ⟨nofun, fun _ => List.isEmpty_iff.mp none⟩
  · apply (Regime.Holds.idle (idle_choose _)).bind
    intro v _
    apply (expresses _ rfl).bind
    intro expr whole
    apply Regime.Holds.pure
    refine ⟨?_, nofun⟩
    rintro _ _ ⟨⟩
    exact whole

/-- What is done in the context of a function makes a shaped definition of it. -/
theorem definition_spends (begins : regime.Begins)
    (free : ∀ world, regime.inv world → unlimited → world.flow.budget ≠ 0)
    (expresses : site.Expresses regime) (signature : Signature) (returnLocal : String)
    (kept : regime.inv world) :
    regime.Spends (site.definition signature returnLocal) world fun spent definition =>
      definition.charge = spent ∧ definition.Shaped site.setup unlimited := by
  apply (blockWithin_spends free begins expresses _ 0 false kept).bind
  rintro _ body middle leads ⟨rfl, bodyShaped⟩
  apply (mix_holds expresses).then leads.kept
  intro mix after leads mixShaped
  apply (Regime.Holds.idle (idle_report _)).then leads.kept
  intro _ last leads _
  exact .pure leads.kept ⟨rfl, bodyShaped, mixShaped.1, mixShaped.2⟩

end

end Site

/-! ## Definitions -/

/-- Making whole expressions keeps to the regime wherever building the bodies that are needed for it does. -/
abbrev Regime.Expresses (setup : Setup) (regime : Regime) : Prop :=
  ∀ site : Site, site.setup = setup → site.Upheld regime → site.Expresses regime

theorem Regime.Expressive.expresses {regime : Regime} (setup : Setup) (expressive : regime.Expressive) :
    regime.Expresses setup :=
  fun _ _ upheld request _ => Site.expression_holds expressive upheld request

section

variable {setup : Setup} {policy : Policy} {unlimited : Prop}
variable {build : Option (Int → Gen Unit)} {before after : World}

theorem World.Creates.matches {signature : Signature} {last : World}
    (creates : before.Creates setup signature after) (matched : after.Matches last) :
    before.Creates setup signature last where
  functions := matched.functions.trans creates.functions
  built := matched.built.trans creates.built
  definitions := matched.definitions.trans creates.definitions
  budget := matched.budget.trans creates.budget
  remaining := matched.remaining.trans creates.remaining
  params := creates.params
  history := by
    rw [matched.history]
    exact creates.history

theorem World.Creates.signature {signature : Signature} (creates : before.Creates setup signature after) :
    after.flow.functions[before.flow.functions.length]? = some signature := by
  simp [creates.functions]

/-- The body of a function is begun where the function was just created and its return local is numbered. -/
theorem buildDefinition_spends
    (building : policy.Building setup (Definition.Shaped setup unlimited))
    (expresses : policy.regime.Expresses setup)
    (free : ∀ world, policy.inv world → unlimited → world.flow.budget ≠ 0)
    (upheld : ∀ make, build = some make → Upholds setup policy.regime make) {signature : Signature}
    (governs : policy.Governs before) (creates : before.Creates setup signature after) :
    (buildDefinition setup build before.flow.functions.length).Ends after
      (fun definition last => definition.Shaped setup unlimited ∧ ∃ returnLocal numbered,
        after.Matches numbered ∧ policy.regime.To definition.charge
          (numbered.remembering (.entered before.flow.functions.length returnLocal)) last)
      policy.failed := by
  apply Step.ends_bind.mpr
  apply functionAt_ends creates.signature
  simp only [Gen.freshLocal, Gen.changeFlow, Gen.remember, Step.ends_bind, Step.ends_get,
    Step.ends_modify, Step.ends_pure]
  let returnLocal := localName after.flow.nextLocal
  let numbered : World := { after with flow := after.flow.withLocal }
  have matched : after.Matches numbered := ⟨⟨rfl, rfl, rfl, rfl, rfl⟩, rfl⟩
  have creates := creates.matches matched
  have entered : policy.regime.inv (numbered.remembering (.entered before.flow.functions.length returnLocal)) :=
    have paired := creates.paired governs.paired
    ⟨building.entering returnLocal governs creates, paired.built, paired.definitions⟩
  let site : Site := ⟨setup, .ofParams signature.params returnLocal, build⟩
  have expresses : site.Expresses policy.regime := expresses site rfl upheld
  have free (world : World) (governs : policy.regime.inv world) := free world governs.kept
  have made (start : World) (governs : policy.regime.inv start) :=
    Site.definition_spends building.begins free expresses signature returnLocal governs
  apply Step.Ends.mono (Regime.Spends.inContext entered made)
  · rintro definition last ⟨_, leads, rfl, shaped⟩
    exact ⟨shaped, returnLocal, numbered, matched, leads⟩
  · exact fun _ failed => failed

/-- The definition takes its place behind those there were before the function was created. -/
theorem World.Creates.defining_lists {signature : Signature} {last : World}
    (creates : before.Creates setup signature after) (paired : before.Paired)
    (lengthens : after.Lengthens last) (lastPaired : last.Paired) (definition : Definition) :
    before.Lengthens (after.defining before.flow.functions.length definition last) ∧
      (after.defining before.flow.functions.length definition last).Paired := by
  have all := creates.lengthens.trans lengthens
  refine ⟨⟨all.functions, ?_⟩, ?_, ?_⟩
  · obtain ⟨rest, appended⟩ := all.definitions
    simp only [World.defining, Flow.withDefinition, ← appended, ← paired.definitions]
    rw [List.set_append_right _ _ (Nat.le_refl _)]
    exact List.prefix_append _ _
  · simpa [World.defining, Flow.withDefinition] using lastPaired.built
  · simpa [World.defining, Flow.withDefinition] using lastPaired.definitions

/-- The body of a function that was just created is built. -/
theorem ensureBuilt_upholds (building : policy.Building setup (Definition.Shaped setup unlimited))
    (expresses : policy.regime.Expresses setup)
    (free : ∀ world, policy.inv world → unlimited → world.flow.budget ≠ 0)
    (upheld : ∀ make, build = some make → Upholds setup policy.regime make) :
    Upholds setup policy.regime fun index => ensureBuilt setup build index := by
  intro signature before after governs creates
  have unbuilt : after.flow.built[before.flow.functions.length]? = some false := by
    simp [creates.built, ← governs.paired.built]
  apply Step.ends_bind.mpr
  apply builtAt_ends unbuilt
  simp only [Bool.false_eq_true, if_false, Gen.spanning, Gen.remember, bind_assoc, pure_bind,
    Step.ends_bind, Step.ends_get, Step.ends_modify]
  apply (buildDefinition_spends building expresses free upheld governs creates).mono
  · rintro definition last ⟨shaped, returnLocal, numbered, matched, leads⟩
    have lastGoverns : policy.Governs last := leads.kept
    have lengthens : after.Lengthens last :=
      matched.lengthens.trans ⟨leads.related.functions, leads.related.definitions⟩
    have bound : before.flow.functions.length < last.flow.functions.length := by
      have longer := lengthens.functions.length_le
      have created := creates.functions_length
      omega
    have allowed := building.defining governs creates matched lastGoverns leads.related shaped
    have lists := creates.defining_lists governs.paired lengthens lastGoverns.paired definition
    apply define_ends
    · exact lastGoverns.paired.definitions ▸ bound
    · exact lastGoverns.paired.built ▸ bound
    · exact ⟨⟨allowed.1, lists.2⟩, ⟨lists.1, allowed.2⟩⟩
  · exact fun _ failed => failed

/-- Induction on the number of functions that may still be created. -/
theorem bodies_upholds (building : policy.Building setup (Definition.Shaped setup unlimited))
    (expresses : policy.regime.Expresses setup)
    (free : ∀ world, policy.inv world → unlimited → world.flow.budget ≠ 0) (count : Nat) :
    ∀ make, bodies setup count = some make → Upholds setup policy.regime make := by
  induction count with
  | zero => exact nofun
  | succ count ih =>
      rintro _ ⟨⟩
      exact ensureBuilt_upholds building expresses free ih

/-! ## Runs -/

theorem buildBody_upholds (building : policy.Building setup (Definition.Shaped setup unlimited))
    (expresses : policy.regime.Expresses setup)
    (free : ∀ world, policy.inv world → unlimited → world.flow.budget ≠ 0) :
    Upholds setup policy.regime (buildBody setup) := by
  intro signature before after governs creates
  apply Step.ends_bind.mpr
  apply Step.ends_get.mpr
  exact ensureBuilt_upholds building expresses free (bodies_upholds building expresses free _) signature
    before after governs creates

/-- The entry function is created as the first one. -/
theorem addEntry_creates (source : Random.Source) (log : Array Event) :
    (addEntry setup).Ends (.start setup source log)
      (fun signature => World.Creates setup signature (.start setup source log))
      (World.Matches (.start setup source log)) := by
  apply Step.ends_bind.mpr
  apply (idle_drawSignature _).mono
  · rintro signature drawn ⟨rests, -, params, -⟩
    have matched := World.Rests.matches rests
    simp only [addFunction, Gen.changeFlow, Step.ends_bind, Step.ends_modify, Step.ends_pure]
    exact ⟨congrArg (· ++ _) matched.functions, congrArg (· ++ _) matched.built,
      congrArg (· ++ _) matched.definitions, matched.budget, matched.remaining,
      by simp [params], .inr ⟨rfl, rfl, matched.history⟩⟩
  · exact fun _ rests => World.Rests.matches rests

/-- A run follows a policy that governs its start and stands every change. -/
theorem run_ends_in (building : policy.Building setup (Definition.Shaped setup unlimited))
    (expresses : policy.regime.Expresses setup)
    (free : ∀ world, policy.inv world → unlimited → world.flow.budget ≠ 0) (source : Random.Source)
    (log : Array Event) (start : policy.inv (.start setup source log)) :
    (run setup).Ends (.start setup source log)
      (fun _ after => policy.regime.To 0 (.start setup source log) after) policy.failed := by
  have governs : policy.regime.inv (.start setup source log) := ⟨start, rfl, rfl⟩
  apply Step.Ends.congr _ (run_eq source log)
  apply Step.ends_bind.mpr
  apply Step.ends_discard.mpr
  apply (addEntry_creates source log).mono
  · intro signature world creates
    apply Step.ends_bind.mpr
    apply (buildBody_upholds building expresses free signature _ world governs creates).mono
    · intro _ after leads
      exact leads.trans_zero (.of_matches leads.kept ⟨⟨rfl, rfl, rfl, rfl, rfl⟩, rfl⟩)
    · exact fun _ failed => failed
  · exact fun _ matched => policy.regime.failing (policy.regime.matching governs matched).1

end

section

variable {setup : Setup} {inv : World → Prop} {unlimited : Prop}

/-- What holds at the start of a run and survives every change holds at its end, also when it fails. -/
theorem run_holds (invariant : Invariant setup (Definition.Shaped setup unlimited) inv)
    (free : ∀ world, inv world → unlimited → world.flow.budget ≠ 0) (source : Random.Source)
    (log : Array Event) (start : inv (.start setup source log)) :
    (run setup).Ends (.start setup source log) (fun _ after => inv after) inv :=
  (run_ends_in invariant.building (invariant.expressive.regime.expresses setup) free source log start).mono
    (fun _ _ leads => leads.kept.kept) fun _ kept => kept

/-- The definitions so far are shaped, and where there is no limit on statements, the budget says so. -/
def World.Shaped (setup : Setup) (world : World) : Prop :=
  (∀ definition, some definition ∈ world.flow.definitions →
    definition.Shaped setup (setup.settings.stopByStmt < 0)) ∧
    (setup.settings.stopByStmt < 0 → world.flow.budget < 0)

theorem invariant_shaped (setup : Setup) :
    Invariant setup (Definition.Shaped setup (setup.settings.stopByStmt < 0))
      (World.Shaped setup) where
  resembling shaped resembles := by
    rw [World.Shaped, resembles.definitions, resembles.budget]
    exact shaped
  calling _ shaped := shaped
  expressing _ shaped := shaped
  saving shaped := shaped
  completing _ shaped := shaped
  returning start _ returns := by
    rw [World.Shaped, returns.definitions, returns.budget]
    exact start
  beginning shaped _ := by
    refine ⟨shaped.1, fun unlimited => ?_⟩
    have negative := shaped.2 unlimited
    simpa [World.beginning, World.remembering, Flow.withBudget, Int.not_lt.mpr (Int.le_of_lt negative)]
      using negative
  filling shaped _ := shaped
  entering _ shaped creates := by
    rw [World.Shaped, World.remembering, creates.definitions, creates.budget]
    exact ⟨fun definition member => shaped.1 definition (by simpa using member), shaped.2⟩
  defining _ _ shaped new := by
    refine ⟨?_, shaped.2⟩
    intro definition member
    rcases List.mem_or_eq_of_mem_set member with old | same
    · exact shaped.1 definition old
    · exact Option.some.inj same ▸ new

/-- At the end of a run, the definitions are shaped. -/
theorem run_shaped (source : Random.Source) (log : Array Event) :
    (run setup).Ends (.start setup source log) (fun _ after => after.Shaped setup)
      (World.Shaped setup) := by
  apply run_holds (invariant_shaped setup)
  · intro world shaped unlimited
    have negative := shaped.2 unlimited
    omega
  · refine ⟨nofun, fun unlimited => ?_⟩
    have limited : ¬ 0 ≤ setup.settings.stopByStmt := by omega
    simp [World.start, Flow.initial, limited]

end

end RandomC
