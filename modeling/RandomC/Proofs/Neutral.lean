import RandomC.Proofs.Alone

/-!
# The budget of terms outside expressions

Where terms are limited, a whole expression has a budget of its own, and the budget before is in force again
afterwards, however the expression ends.  Terms are charged nowhere else, so that statements, blocks and bodies leave
the budget as they found it: also a body that is built while a call is being made, inside another expression.
-/

namespace RandomC

/-- The step leaves the budget of terms as it found it, also where it fails. -/
def Neutral {α : Type} (step : Gen α) : Prop := ∀ world, (step world).2.remaining = world.remaining

/-! ## Rules -/

namespace Neutral

variable {α β : Type} {step : Gen α}

theorem pure {value : α} : Neutral (pure value) := fun _ => rfl

theorem get : Neutral get := fun _ => rfl

theorem modify {change : World → World} (same : ∀ world, (change world).remaining = world.remaining) :
    Neutral (modify change) := same

theorem bind {next : α → Gen β} (first : Neutral step) (rest : ∀ value, Neutral (next value)) :
    Neutral (step >>= next) := by
  intro world
  have kept := first world
  rw [Step.bind_apply]
  revert kept
  rcases step world with ⟨failure | value, after⟩
  · exact id
  · exact (rest value after).trans

theorem map {image : α → β} (neutral : Neutral step) : Neutral (image <$> step) := by
  rw [map_eq_pure_bind]
  exact neutral.bind fun _ => .pure

end Neutral

/-- If there are steps, one for each request, they are neutral. -/
def NeutralSteps {α ι : Type} (steps : Option (ι → Gen α)) : Prop := ∀ make ∈ steps, ∀ request, Neutral (make request)

theorem NeutralSteps.none {α ι : Type} : NeutralSteps (none : Option (ι → Gen α)) :=
  fun _ absent => absurd absent (Option.not_mem_none _)

theorem NeutralSteps.some {α ι : Type} {make : ι → Gen α} (each : ∀ request, Neutral (make request)) :
    NeutralSteps (some make) := by
  rintro _ ⟨⟩
  exact each

section

variable {α : Type} {step : Gen α} {setup : Setup}

/-- What changes nothing that regimes speak of leaves the budget alone. -/
theorem Aside.neutral (aside : Aside step) : Neutral step :=
  fun world => ((aside world).mono (fun _ _ passed => passed.remaining) fun _ passed => passed.remaining).reached

theorem Idle.neutral {post : α → Prop} (idle : Idle step post) : Neutral step := idle.aside.neutral

namespace Gen

theorem neutral_remember (moment : Moment) : Neutral (remember moment) := .modify fun _ => rfl

theorem neutral_report (event : Event) : Neutral (report event) := .modify fun _ => rfl

theorem neutral_changeFlow (f : Flow → Flow) : Neutral (changeFlow f) := .modify fun _ => rfl

theorem neutral_save : Neutral save :=
  Neutral.get.bind fun _ => (neutral_remember _).bind fun _ => .pure

/-- The budget is no part of a snapshot. -/
theorem neutral_goBack (start : Checkpoint) : Neutral (goBack setup start) :=
  Neutral.bind (.modify fun _ => rfl) fun _ => Neutral.get.bind fun _ => neutral_remember _

theorem neutral_attemptOr {attempt : Gen (Option α)} {again : Gen α} (first : Neutral attempt)
    (second : Neutral again) : Neutral (attemptOr setup attempt again) := by
  apply neutral_save.bind
  intro start
  apply first.bind
  rintro (_ | made)
  · exact (neutral_goBack start).bind fun _ => second
  · exact .pure

theorem neutral_spanning (neutral : Neutral step) : Neutral (spanning step) := by
  apply Neutral.get.bind
  intro start
  apply neutral.bind
  intro made
  exact Neutral.get.bind fun _ => (neutral_remember _).bind fun _ => .pure

theorem neutral_inContext {context : Context} (neutral : Neutral step) : Neutral (inContext context step) :=
  fun world => neutral { world with context }

end Gen

/-- A step with a budget of its own starts with all of it, and the budget before follows. -/
theorem withTerms_limited {settings : Settings} (limited : settings.exactReplay = false) (step : Gen α)
    (world : World) :
    withTerms settings step world = ((step { world with remaining := termBudget settings }).1,
      { (step { world with remaining := termBudget settings }).2 with remaining := world.remaining }) := by
  simp only [withTerms, World.openTerms, limited, Bool.false_eq_true, if_false, World.closeTerms]
  rfl

/-- What has a budget of its own may do with it what it wants. -/
theorem neutral_withTerms {settings : Settings} (limited : settings.exactReplay = false) (step : Gen α) :
    Neutral (withTerms settings step) := by
  intro world
  rw [withTerms_limited limited]

end

namespace Site

variable {site : Site} {request : Request}

/-! ## Whole expressions -/

theorem inner_whole (whole : request.argument = false) :
    site.inner 0 request = withTerms site.settings (site.leaf (levelsBelow site.settings 0) 0 request) := by
  unfold inner budgeted
  rw [whole]
  rfl

section

variable (limited : site.settings.exactReplay = false)

include limited

/-- A whole expression leaves the budget as it was, whatever is built inside it. -/
theorem neutral_inner (whole : request.argument = false) : Neutral (site.inner 0 request) := by
  rw [inner_whole whole]
  exact neutral_withTerms limited _

theorem neutral_expression (whole : request.argument = false) : Neutral (site.expression request) :=
  (neutral_inner limited whole).bind fun _ => (Gen.neutral_remember _).bind fun _ => .pure

/-! ## Statements -/

theorem neutral_assignStatement : Neutral site.assignStatement := by
  apply aside_assignable.neutral.bind
  rintro ⟨place, type, initial⟩
  apply (neutral_expression limited rfl).bind
  intro value
  apply (idle_decideIf (idle_oneIn 2)).neutral.bind
  intro compound
  exact (aside_recordChange place type).neutral.bind fun _ => .pure

theorem neutral_condition : Neutral site.condition := by
  apply (idle_below 7).neutral.bind
  intro mask
  apply (idle_decideIf (idle_oneIn 5)).neutral.bind
  intro isConstant
  split
  · exact (idle_drawConstant _).neutral.bind fun _ => .pure
  · apply (idle_oneIn 3).neutral.bind
    intro isExpression
    split
    · exact (neutral_expression limited rfl).bind fun _ => .pure
    · exact .pure

theorem neutral_updateStatement : Neutral site.updateStatement := by
  unfold updateStatement
  dsimp only
  split
  · exact .pure
  · apply (idle_choose _).neutral.bind
    intro v
    apply (neutral_expression limited rfl).bind
    intro value
    exact (aside_recordChange _ _).neutral.bind fun _ => .pure

/-- A statement leaves the budget as it was if the blocks inside it do. -/
theorem neutral_statementOf {nested : Option Nested} (inside : NeutralSteps nested)
    (kind : StatementKind) : Neutral (site.statementOf nested kind) := by
  unfold statementOf
  split
  · exact (neutral_assignStatement limited).map
  · apply (neutral_condition limited).bind
    intro condition
    apply (inside _ rfl false).bind
    intro yes
    exact (inside _ rfl false).bind fun _ => .pure
  · apply (idle_below 5).neutral.bind
    intro more
    exact (inside _ rfl true).bind fun _ => .pure
  · exact .pure
  · exact .pure
  · exact .pure
  · exact neutral_updateStatement limited
  · exact .pure
  · exact .pure

omit limited in
theorem neutral_chargeStatement : Neutral chargeStatement :=
  Neutral.get.bind fun _ => (Gen.neutral_changeFlow _).bind fun _ => Neutral.get.bind fun _ => Gen.neutral_remember _

omit limited in
theorem neutral_fillBlock : Neutral fillBlock :=
  Neutral.get.bind fun _ => (Gen.neutral_remember _).bind fun _ => .pure

theorem neutral_statement {nested : Option Nested} (inside : NeutralSteps nested)
    (depth : Int) (inLoop : Bool) : Neutral (site.statement nested depth inLoop) := by
  apply Neutral.get.bind
  intro world
  split
  · exact .pure
  · apply neutral_chargeStatement.bind
    intro _
    apply (idle_chooseKind depth inLoop).neutral.bind
    exact fun kind => (neutral_statementOf limited inside kind).bind fun _ => .pure

/-! ## Blocks and bodies -/

omit limited in
theorem neutral_statementAttempts {make : Gen (Option Block)} (made : Neutral make) (count : Nat) :
    Neutral (site.statementAttempts make count) := by
  induction count with
  | zero => exact neutral_fillBlock
  | succ left ih => exact Gen.neutral_attemptOr made ih

omit limited in
theorem neutral_statements {make : Gen (Option Block)} (made : Neutral make) (count : Nat) :
    Neutral (site.statements make count) := by
  induction count with
  | zero => exact .pure
  | succ count ih =>
      apply Neutral.get.bind
      intro world
      split
      · exact (Gen.neutral_report _).bind fun _ => .pure
      · apply (neutral_statementAttempts made 8).bind
        intro first
        exact ih.bind fun _ => .pure

theorem neutral_blockOf {nested : Option Nested} (inside : NeutralSteps nested)
    (depth : Int) (inLoop : Bool) : Neutral (site.blockOf nested depth inLoop) := by
  apply Neutral.get.bind
  intro world
  split
  · exact .pure
  · exact (idle_below _).neutral.bind fun _ => neutral_statements (neutral_statement limited inside depth inLoop) _

theorem neutral_blockWithin (levels : Nat) (depth : Int) (inLoop : Bool) :
    Neutral (site.blockWithin levels depth inLoop) := by
  induction levels generalizing depth inLoop with
  | zero => exact Gen.neutral_spanning (neutral_blockOf limited .none depth inLoop)
  | succ levels ih => exact Gen.neutral_spanning (neutral_blockOf limited (.some (ih (depth + 1))) depth inLoop)

theorem neutral_mix : Neutral site.mix := by
  unfold mix
  dsimp only
  split
  · exact .pure
  · apply (idle_choose _).neutral.bind
    intro v
    exact (neutral_expression limited rfl).bind fun _ => .pure

theorem neutral_definition (signature : Signature) (returnLocal : String) :
    Neutral (site.definition signature returnLocal) := by
  apply (neutral_blockWithin limited _ 0 false).bind
  intro body
  apply (neutral_mix limited).bind
  intro mix
  exact (Gen.neutral_report _).bind fun _ => .pure

end

end Site

section

variable {setup : Setup} {build : Option (Int → Gen Unit)}

theorem neutral_buildDefinition (limited : setup.settings.exactReplay = false) (index : Int) :
    Neutral (buildDefinition setup build index) := by
  apply (Site.aside_functionAt index).neutral.bind
  intro signature
  apply Neutral.bind
  · exact Neutral.get.bind fun _ => (Gen.neutral_changeFlow _).bind fun _ => .pure
  · intro returnLocal
    apply (Gen.neutral_remember _).bind
    intro _
    let site : Site := ⟨setup, .ofParams signature.params returnLocal, build⟩
    have limited : site.settings.exactReplay = false := limited
    exact Gen.neutral_inContext (Site.neutral_definition limited signature returnLocal)

theorem neutral_define (index : Int) (definition : Definition) : Neutral (define index definition) := by
  apply Neutral.get.bind
  intro world
  apply (aside_replace _ _ _).neutral.bind
  intro definitions
  apply (Gen.neutral_changeFlow _).bind
  intro _
  apply Neutral.get.bind
  intro world
  exact (aside_replace _ _ _).neutral.bind fun _ => Gen.neutral_changeFlow _

theorem neutral_ensureBuilt (limited : setup.settings.exactReplay = false) (index : Int) :
    Neutral (ensureBuilt setup build index) := by
  have done : Neutral (builtAt index) := Neutral.get.bind fun _ => (idle_element _ _).neutral
  apply done.bind
  intro complete
  split
  · exact .pure
  · apply (Gen.neutral_spanning (neutral_buildDefinition limited index)).bind
    intro definition
    exact (Gen.neutral_remember _).bind fun _ => neutral_define index definition

/-- However bodies are built inside expressions, they leave the budget as it was. -/
theorem neutral_bodies (limited : setup.settings.exactReplay = false) (free : Nat) :
    NeutralSteps (bodies setup free) := by
  cases free with
  | zero => exact .none
  | succ free => exact .some (neutral_ensureBuilt limited)

end

end RandomC
