import RandomC.Proofs.Expression

/-!
# Statements are well-formed

As with expressions, each kind of statement keeps a contract, and an induction on the number of levels
that blocks may still be nested ties the contracts together.  A statement may change the place that was
changed last, which a snapshot does not hold.  No attempt that comes to nothing does so: it is a jump, an
update where there are no arrays, or a statement with blocks at the deepest level.
-/

namespace RandomC.Site

/-- The statements may stand in the body of the function at an index. -/
abbrev AdmitsBlock (site : Site) (caller : Nat) (flow : Flow) (block : Block) : Prop :=
  ∀ statement ∈ block,
    statement.Formed site.setup caller site.scope.params site.scope.returnLocal flow

/-- Wherever a block is made in the body of the function at an index, its statements may stand there. -/
def MakesBlocks (site : Site) (caller : Nat) (nested : Nested) : Prop :=
  ∀ (inLoop : Bool) (world : World), site.Fits caller world → world.Good site.setup →
    Keeps site.setup World.Proceeds (nested inLoop) world fun block after =>
      site.AdmitsBlock caller after.flow block

/-- A statement that was made, if any; an attempt that came to nothing left the context alone. -/
structure AdmitsStatement (site : Site) (caller : Nat) (start : World) (made : Option Statement)
    (after : World) : Prop where
  formed : ∀ statement, made = some statement →
    statement.Formed site.setup caller site.scope.params site.scope.returnLocal after.flow
  nothing : made = none → start.Grows after

section

variable {site : Site} {caller : Nat} {world before after : World} {block : Block}

theorem AdmitsBlock.mono {before after : Flow} (wider : before.Widens after)
    (admits : site.AdmitsBlock caller before block) : site.AdmitsBlock caller after block :=
  fun statement member => (admits statement member).mono wider

theorem AdmitsStatement.made {statement : Statement}
    (formed : statement.Formed site.setup caller site.scope.params site.scope.returnLocal after.flow) :
    site.AdmitsStatement caller before (some statement) after where
  formed := by
    intro _ same
    cases same
    exact formed
  nothing := nofun

theorem AdmitsStatement.none (grows : before.Grows after) :
    site.AdmitsStatement caller before none after where
  formed := nofun
  nothing _ := grows

/-! ## Kinds of statements -/

theorem recordChange_keeps (good : world.Good site.setup) (place : Place) (type : CType) :
    Keeps site.setup World.Proceeds (recordChange place type) world fun _ after =>
      after.flow = world.flow := by
  refine ⟨⟨good.aligned, good.begun, good.formed, good.history⟩, ?_, rfl⟩
  constructor
  · exact .refl _
  · intro index bound
    simp only [List.getElem?_eq_none bound]
    simp
  · rfl
  · rfl
  · exact List.suffix_rfl

/-- In a function body, assignments go to the accumulator. -/
theorem assignable_eq (fits : site.Fits caller world) :
    site.assignable = pure (.named accumulator, .uint32, none) := by
  simp [assignable, fits.scope]

theorem assignStatement_keeps (fits : site.Fits caller world) (good : world.Good site.setup) :
    Keeps site.setup World.Proceeds site.assignStatement world fun statement after =>
      statement.Formed site.setup caller site.scope.params site.scope.returnLocal after.flow := by
  rw [assignStatement, assignable_eq fits, pure_bind]
  apply (expression_makes (.plain .uint32) world .uint32 fits good).proceeds.bind
  intro value start good _ admits
  apply Keeps.idle (idle_decideIf (idle_oneIn 2)) good
  intro compound ready good still _
  rw [← still.flow] at admits
  apply (recordChange_keeps good _ _).bind
  intro _ after good _ same
  rw [← same] at admits
  exact .pure good (.assign admits.type admits.formed)

theorem condition_keeps (fits : site.Fits caller world) (good : world.Good site.setup) :
    Keeps site.setup World.Proceeds site.condition world fun condition after =>
      condition.Formed site.setup caller site.scope.params after.flow := by
  apply Keeps.idle (idle_below 7) good
  intro mask start good still _
  have fits := fits.still still
  apply Keeps.idle (idle_decideIf (idle_oneIn 5)) good
  intro constant start good still _
  have fits := fits.still still
  split
  · apply Keeps.idle (idle_drawConstant _) good
    exact fun _ _ good _ plain => .pure good (.constant plain)
  · apply Keeps.idle (idle_oneIn 3) good
    intro nonzero start good still _
    have fits := fits.still still
    split
    · apply (expression_makes ⟨.uint32, _, _, _⟩ start .uint32 fits good).proceeds.bind
      exact fun _ _ good _ admits => .pure good (.nonzero admits.type admits.formed)
    · exact .pure good .bits

theorem updateStatement_keeps (fits : site.Fits caller world) (good : world.Good site.setup) :
    Keeps site.setup World.Proceeds site.updateStatement world fun made after =>
      site.AdmitsStatement caller world made after := by
  unfold updateStatement
  dsimp only
  split
  · exact .pure good (.none (Progress.of_still (.refl world)))
  · apply Keeps.idle (idle_choose _) good
    intro v start good still member
    have fits := fits.still still
    apply (expression_makes (.plain v.type) start (.array member) fits good).proceeds.bind
    intro value ready good _ admits
    apply (recordChange_keeps good _ _).bind
    intro _ after good _ same
    rw [← same] at admits
    exact .pure good (.made (.updateElement member admits.type admits.formed))

/-- What holds of the way in which blocks inside a statement are made, where there can be some. -/
abbrev MakesBlocksInside (site : Site) (caller : Nat) (nested : Option Nested) : Prop :=
  ∀ make, nested = some make → site.MakesBlocks caller make

theorem branch_keeps {nested : Nested} (makes : site.MakesBlocks caller nested)
    (fits : site.Fits caller world) (good : world.Good site.setup) :
    Keeps site.setup World.Proceeds (site.statementOf (some nested) .branch) world fun made after =>
      site.AdmitsStatement caller world made after := by
  apply (condition_keeps fits good).bind
  intro condition start good grows conditionFormed
  have fits := fits.mono grows
  apply (makes false start fits good).bind
  intro yes middle good grown yesAdmits
  apply (makes false middle (fits.mono grown) good).bind
  intro no after good rest noAdmits
  have conditionFormed := conditionFormed.mono (grown.trans rest).flow.widens
  exact .pure good (.made (.ifElse conditionFormed (yesAdmits.mono rest.flow.widens) noAdmits))

theorem loop_keeps {nested : Nested} (makes : site.MakesBlocks caller nested)
    (fits : site.Fits caller world) (good : world.Good site.setup) :
    Keeps site.setup World.Proceeds (site.statementOf (some nested) .loop) world fun made after =>
      site.AdmitsStatement caller world made after := by
  apply Keeps.idle (idle_below 5) good
  intro bound start good still _
  apply (makes true start (fits.still still) good).bind
  exact fun _ _ good _ admits => .pure good (.made (.loop admits))

theorem statementOf_keeps {nested : Option Nested} (kind : StatementKind)
    (makes : site.MakesBlocksInside caller nested) (fits : site.Fits caller world)
    (good : world.Good site.setup) :
    Keeps site.setup World.Proceeds (site.statementOf nested kind) world fun made after =>
      site.AdmitsStatement caller world made after := by
  have unchanged : world.Grows world := Progress.of_still (.refl world)
  cases kind with
  | assign =>
      apply Keeps.map
      apply (assignStatement_keeps fits good).mono
      exact fun _ _ _ _ formed => .made formed
  | branch =>
      cases nested with
      | none => exact .pure good (.none unchanged)
      | some nested => exact branch_keeps (makes nested rfl) fits good
  | loop =>
      cases nested with
      | none => exact .pure good (.none unchanged)
      | some nested => exact loop_keeps (makes nested rfl) fits good
  | leave =>
      simp only [statementOf, fits.returns]
      exact .pure good (.made .leave)
  | nextRound => exact .pure good (.made .nextRound)
  | leaveLoop => exact .pure good (.made .leaveLoop)
  | jump => exact .pure good (.none unchanged)
  | updateElement => exact updateStatement_keeps fits good

/-! ## Blocks -/

theorem chargeStatement_keeps (good : world.Good site.setup) :
    Keeps site.setup World.Proceeds chargeStatement world fun _ after => world.Grows after := by
  let budget := if 0 < world.flow.budget then world.flow.budget - 1 else world.flow.budget
  have charged := good.withBudget { world with flow := world.flow.withBudget budget } rfl rfl rfl
  have sound : Moment.Sound site.setup world.history
      (.begun world.checkpoint ⟨world.flow.withBudget budget, world.context⟩) := trivial
  have begun := charged.1.remember sound
  have grows : world.Grows _ := Progress.trans charged.2 begun.2
  exact ⟨begun.1, grows.toProceeds, grows⟩

/-- The statement that does nothing may stand anywhere. -/
theorem fillBlock_keeps (good : world.Good site.setup) :
    Keeps site.setup World.Proceeds fillBlock world fun block after =>
      site.AdmitsBlock caller after.flow block := by
  have sound : Moment.Sound site.setup world.history (.begun world.checkpoint world.checkpoint) := trivial
  apply Keeps.get
  apply Keeps.remember good sound
  intro after good _ _
  apply Keeps.pure good
  intro _ member
  obtain rfl := List.mem_singleton.mp member
  exact .filler

/-- The kind is one that may stand in the block. -/
theorem idle_chooseKind (depth : Int) (inLoop : Bool) :
    Idle (site.chooseKind depth inLoop) fun kind => rejects site.settings depth inLoop kind = false :=
  (idle_belowUnless_of_pos (by decide) _).bind fun _ accepted => .pure accepted

/-- An attempt at a statement.  Where the budget is used up there is none, which is no failure. -/
theorem statement_keeps {nested : Option Nested} {depth : Int} {inLoop : Bool}
    (makes : site.MakesBlocksInside caller nested) (fits : site.Fits caller world)
    (good : world.Good site.setup) :
    Keeps site.setup World.Proceeds (site.statement nested depth inLoop) world fun made after =>
      (∀ block, made = some block → site.AdmitsBlock caller after.flow block) ∧
        (made = none → world.Grows after) := by
  apply Keeps.get
  split
  · apply Keeps.pure good
    constructor
    · intro _ same
      cases same
      exact nofun
    · exact nofun
  · apply (chargeStatement_keeps good).bind
    intro _ start good _ charged
    have fits := fits.mono charged.toProceeds
    apply Keeps.idle (idle_chooseKind _ _) good
    intro kind ready good still _
    apply (statementOf_keeps kind makes (fits.still still) good).bind
    intro made after good _ admits
    apply Keeps.pure good
    constructor
    · intro block same
      obtain ⟨statement, made, rfl⟩ := Option.map_eq_some_iff.mp same
      intro _ member
      obtain rfl := List.mem_singleton.mp member
      exact admits.formed _ made
    · intro same
      have grown := admits.nothing (Option.map_eq_none_iff.mp same)
      exact Progress.trans charged (Progress.trans (Progress.of_still still) grown)

/-- An attempt at some statements, wherever it is made in the body of the function at an index. -/
abbrev MakesStatements (site : Site) (caller : Nat) (make : Gen (Option Block)) : Prop :=
  ∀ world, site.Fits caller world → world.Good site.setup →
    Keeps site.setup World.Proceeds make world fun made after =>
      (∀ block, made = some block → site.AdmitsBlock caller after.flow block) ∧
        (made = none → world.Grows after)

theorem statementAttempts_keeps {make : Gen (Option Block)} (makes : site.MakesStatements caller make)
    (left : Nat) (fits : site.Fits caller world) (good : world.Good site.setup) :
    Keeps site.setup World.Proceeds (site.statementAttempts make left) world
      fun block after => site.AdmitsBlock caller after.flow block := by
  induction left generalizing world with
  | zero => exact fillBlock_keeps good
  | succ left ih =>
      apply Keeps.attemptOr good
      · intro start good grows
        exact makes start (fits.mono grows.toProceeds) good
      · intro start good grows
        exact ih (fits.mono grows.toProceeds) good

theorem statements_keeps {make : Gen (Option Block)} (makes : site.MakesStatements caller make)
    (count : Nat) (fits : site.Fits caller world) (good : world.Good site.setup) :
    Keeps site.setup World.Proceeds (site.statements make count) world
      fun block after => site.AdmitsBlock caller after.flow block := by
  induction count generalizing world with
  | zero => exact .pure good nofun
  | succ count ih =>
      apply Keeps.get
      split
      · apply Keeps.idle (idle_report _) good
        exact fun _ _ good _ _ => .pure good nofun
      · apply (statementAttempts_keeps makes 8 fits good).bind
        intro first start good proceeds firstAdmits
        apply (ih (fits.mono proceeds) good).bind
        intro rest after good proceeds restAdmits
        apply Keeps.pure good
        intro statement member
        rcases List.mem_append.mp member with early | late
        · exact firstAdmits.mono proceeds.flow.widens statement early
        · exact restAdmits statement late

theorem blockOf_keeps {nested : Option Nested} {depth : Int} {inLoop : Bool}
    (makes : site.MakesBlocksInside caller nested) (fits : site.Fits caller world)
    (good : world.Good site.setup) :
    Keeps site.setup World.Proceeds (site.blockOf nested depth inLoop) world
      fun block after => site.AdmitsBlock caller after.flow block := by
  apply Keeps.get
  split
  · exact .pure good nofun
  · apply Keeps.idle (idle_below _) good
    intro more start good still _
    apply statements_keeps _ _ (fits.still still) good
    exact fun _ fits good => statement_keeps makes fits good

/-- Induction on the number of levels that blocks may still be nested. -/
theorem blockWithin_makes (levels : Nat) (depth : Int) :
    site.MakesBlocks caller (site.blockWithin levels depth) := by
  induction levels generalizing depth with
  | zero =>
      intro inLoop world fits good
      rw [blockWithin]
      apply Keeps.spanning fun block flow => site.AdmitsBlock caller flow block
      exact blockOf_keeps nofun fits good
  | succ levels ih =>
      intro inLoop world fits good
      rw [blockWithin]
      apply Keeps.spanning fun block flow => site.AdmitsBlock caller flow block
      apply blockOf_keeps _ fits good
      intro _ same
      cases same
      exact ih (depth + 1)

theorem block_makes (depth : Int) : site.MakesBlocks caller (site.block depth) :=
  blockWithin_makes _ depth

end

end RandomC.Site
