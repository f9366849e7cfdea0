import RandomC.Proofs.BodyShape
import RandomC.Proofs.Tracing

/-!
# A function that stays alone

In an exact replay a call takes an existing function or none: no function is created.  So the entry function
stays the only one, and no call in its body finds a function.  Some settings matter then only for draws whose
outcome is dropped, or for nothing at all.  `Coincide` says of two steps that they do the same while the entry
function is alone; one lemma for each step shows this of steps that stand under settings which differ there.
-/

namespace RandomC

/-- The settings, but for those that an exact replay without an initial environment does not use, which are
those of `other`. -/
def Settings.withUnused (settings other : Settings) : Settings :=
  { settings with
    pointers := other.pointers
    volatilePointers := other.volatilePointers
    constPointers := other.constPointers
    builtins := other.builtins
    builtinFunctionProb := other.builtinFunctionProb
    inlineFunctionProb := other.inlineFunctionProb
    maxFuncs := other.maxFuncs
    maxParams := other.maxParams
    func1MaxParams := other.func1MaxParams
    maxGlobals := other.maxGlobals
    maxPointerDepth := other.maxPointerDepth
    maxArrayDim := other.maxArrayDim
    maxArrayLenPerDim := other.maxArrayLenPerDim
    pointerSize := other.pointerSize }

/-- The setup under settings that differ where they are not used. -/
def Setup.withUnused (setup : Setup) (other : Settings) : Setup :=
  { setup with settings := setup.settings.withUnused other }

/-- The site under settings that differ where they are not used, and with another way to build bodies. -/
def Site.withUnused (site : Site) (other : Settings) (build : Option (Int → Gen Unit)) : Site :=
  ⟨site.setup.withUnused other, site.scope, build⟩

/-- The entry function is the only one, and it is its body that is generated; the source records nothing. -/
structure World.Alone (world : World) : Prop where
  tracing : world.source.tracing = false
  decisions : world.source.decisions = #[]
  functions : world.flow.functions.length = 1
  caller : world.context.caller = 0

/-- While the entry function is alone, both steps do the same, and it stays alone. -/
def Coincide {α : Type} (step other : Gen α) : Prop :=
  ∀ world, world.Alone → other world = step world ∧ (step world).2.Alone

theorem Blind.untraced {α : Type} {step : Gen α} {world : World} (blind : Blind step)
    (tracing : world.source.tracing = false) (decisions : world.source.decisions = #[]) :
    (step world).2.source.tracing = false ∧ (step world).2.source.decisions = #[] :=
  (blind.shared Random.steady_recordless world world ⟨rfl, tracing, decisions⟩ rfl rfl).2.streams.1.2

/-! ## Rules -/

namespace Coincide

variable {α β : Type} {step other : Gen α}

theorem pure {value : α} : Coincide (pure value) (pure value) := fun _ alone => ⟨rfl, alone⟩

theorem bind {next further : α → Gen β} (first : Coincide step other)
    (rest : ∀ value, Coincide (next value) (further value)) : Coincide (step >>= next) (other >>= further) := by
  intro world alone
  obtain ⟨same, stays⟩ := first world alone
  rw [Step.bind_apply, Step.bind_apply, same]
  revert stays
  rcases step world with ⟨failure | value, after⟩
  · exact fun stays => ⟨rfl, stays⟩
  · exact rest value after

theorem map {image : α → β} (coincide : Coincide step other) : Coincide (image <$> step) (image <$> other) := by
  rw [map_eq_pure_bind, map_eq_pure_bind]
  exact coincide.bind fun _ => .pure

theorem get {next further : World → Gen α}
    (each : ∀ world, world.Alone → Coincide (next world) (further world)) :
    Coincide (get >>= next) (MonadState.get >>= further) :=
  fun world alone => each world alone world alone

theorem modify {change : World → World} (keeps : ∀ world, world.Alone → (change world).Alone) :
    Coincide (modify change) (modify change) := fun world alone => ⟨rfl, keeps world alone⟩

/-- A step that sees of the source only what it draws and leaves functions alone does the same as itself. -/
theorem of_aside (blind : Blind step) (aside : Aside step) : Coincide step step := by
  intro world alone
  have untraced := blind.untraced alone.tracing alone.decisions
  have passes : world.Passes (step world).2 := by
    have ends := aside world
    revert ends
    simp only [Step.Ends]
    rcases step world with ⟨failure | value, after⟩ <;> exact id
  exact ⟨rfl, untraced.1, untraced.2, passes.functions ▸ alone.functions, passes.caller.trans alone.caller⟩

/-- Where the outcome of a coin is dropped, its chances do not matter. -/
theorem dropCoin (percent chances : Int) :
    Coincide (discard (Step.coin percent : Gen Bool)) (discard (Step.coin chances : Gen Bool)) := by
  intro world alone
  have drawn (percent : Int) :
      (Random.Source.coin percent world.source).2 = (Random.Source.next world.source).2 :=
    if_neg (ne_true_of_eq_false alone.tracing)
  constructor
  · have dropped (percent : Int) : (discard (Step.coin percent : Gen Bool)) world = (.ok (), { world with
        source := (Random.Source.coin percent world.source).2
        readings := ⟨world.source.position, (Random.Source.coin percent world.source).2.position⟩ ::
          world.readings }) := rfl
    rw [dropped, dropped, drawn, drawn]
  · exact (of_aside (blind_coin percent).discard (idle_coin percent).discard.aside world alone).2

/-- What goes on after a snapshot was taken, while nothing but the entry function was there. -/
theorem goBack (setup : Setup) (other : Settings) {start : World} (before : start.Alone) :
    Coincide (Gen.goBack setup start.checkpoint) (Gen.goBack (setup.withUnused other) start.checkpoint) := by
  intro world alone
  refine ⟨rfl, alone.tracing, alone.decisions, ?_, alone.caller⟩
  have count : start.checkpoint.snapshot.functions = 1 := before.functions
  change (world.flow.functions.take start.checkpoint.snapshot.functions).length = 1
  simp [count, alone.functions]

theorem changeFlow (change : Flow → Flow) (same : ∀ flow, (change flow).functions = flow.functions) :
    Coincide (Gen.changeFlow change) (Gen.changeFlow change) :=
  .modify fun world alone =>
    ⟨alone.tracing, alone.decisions, (congrArg List.length (same world.flow)).trans alone.functions, alone.caller⟩

theorem remember (moment : Moment) : Coincide (Gen.remember moment) (Gen.remember moment) :=
  .modify fun _ alone => ⟨alone.tracing, alone.decisions, alone.functions, alone.caller⟩

theorem report (event : Event) : Coincide (Gen.report event) (Gen.report event) :=
  .modify fun _ alone => ⟨alone.tracing, alone.decisions, alone.functions, alone.caller⟩

theorem attemptOr {setup : Setup} {other : Settings} {attempt attempted : Gen (Option α)} {again : Gen α}
    {repeated : Gen α} (first : Coincide attempt attempted) (second : Coincide again repeated) :
    Coincide (Gen.attemptOr setup attempt again)
      (Gen.attemptOr (setup.withUnused other) attempted repeated) := by
  simp only [Gen.attemptOr, Gen.save, bind_assoc, pure_bind]
  apply Coincide.get
  intro start alone
  apply (remember _).bind
  intro _
  apply first.bind
  rintro (_ | made)
  · exact (goBack setup other alone).bind fun _ => second
  · exact .pure

theorem spanning (coincide : Coincide step other) : Coincide (Gen.spanning step) (Gen.spanning other) := by
  apply Coincide.get
  intro _ _
  apply coincide.bind
  intro made
  apply Coincide.get
  exact fun _ _ => (remember _).bind fun _ => .pure

theorem inContext {context : Context} (entry : context.caller = 0) (coincide : Coincide step other) :
    Coincide (Gen.inContext context step) (Gen.inContext context other) := by
  intro world alone
  obtain ⟨same, stays⟩ := coincide { world with context }
    ⟨alone.tracing, alone.decisions, alone.functions, entry⟩
  simp only [Gen.inContext, same]
  exact ⟨trivial, stays.tracing, stays.decisions, stays.functions, alone.caller⟩

theorem decideIf {isOpen : Bool} {decision : Gen Bool} (coincide : Coincide decision decision) :
    Coincide (Step.decideIf isOpen decision) (Step.decideIf isOpen decision) := by
  unfold Step.decideIf
  split
  · exact coincide
  · exact .pure

end Coincide

/-- If one of two sites has a way to make something, so has the other, and it does the same for each request. -/
inductive CoincideSteps {ι α : Type} : Option (ι → Gen α) → Option (ι → Gen α) → Prop
  | none : CoincideSteps none none
  | some {make other : ι → Gen α} (each : ∀ request, Coincide (make request) (other request)) :
      CoincideSteps (some make) (some other)

/-! ## Terms -/

/-- Terms are not limited in an exact replay. -/
theorem withTerms_exact {α : Type} {settings : Settings} (exact : settings.exactReplay = true) (step : Gen α) :
    withTerms settings step = step := by
  funext world
  simp only [withTerms, World.openTerms, exact, if_true]
  rfl

theorem spendTerms_exact {settings : Settings} (exact : settings.exactReplay = true) (count : Int) :
    spendTerms settings count = pure () := if_pos exact

namespace Site

variable {site : Site} {other : Settings} {build : Option (Int → Gen Unit)} {inner made : Inner}
variable {type : CType} {depth : Int} {request : Request}

theorem coincide_constant : Coincide (site.constant type) ((site.withUnused other build).constant type) :=
  (Coincide.of_aside (blind_drawConstant _ type) (idle_drawConstant type).aside).bind fun _ => .pure

theorem aside_readTerm : Aside (site.readTerm type) := by
  apply (idle_drawBand _).aside.bind
  intro band
  apply (aside_newPlace type band).bind
  rintro (_ | candidate)
  · apply (aside_scopedCandidates band).bind
    intro candidates
    apply (aside_missingPlace type candidates band).bind
    rintro (_ | candidate)
    · apply (aside_orAllCandidates candidates).bind
      exact fun candidates => (idle_selectPlace _ _ _).aside.bind fun _ => .pure
    · exact .pure
  · exact .pure

theorem coincide_readTerm : Coincide (site.readTerm type) ((site.withUnused other build).readTerm type) :=
  .of_aside (blind_readTerm type) aside_readTerm

section

variable (exact : site.settings.exactReplay = true)

include exact

theorem coincide_spendTerms (count : Int) :
    Coincide (spendTerms site.settings count) (spendTerms (site.withUnused other build).settings count) := by
  change Coincide _ (spendTerms site.settings count)
  rw [spendTerms_exact exact]
  exact .pure

theorem coincide_assignTerm (inside : ∀ request, Coincide (inner request) (made request)) :
    Coincide (site.assignTerm inner type) ((site.withUnused other build).assignTerm made type) := by
  apply (Coincide.of_aside blind_beforeAssignment idle_beforeAssignment.aside).bind
  intro _
  apply (coincide_spendTerms exact 1).bind
  intro _
  apply (inside _).bind
  intro value
  apply (Coincide.of_aside (blind_drawBand _) (idle_drawBand _).aside).bind
  intro band
  apply (Coincide.of_aside (blind_scopedCandidates _ _ band) (aside_scopedCandidates band)).bind
  intro candidates
  split
  · exact (Coincide.of_aside (blind_createGlobal _ type true) (aside_createGlobal type true)).bind fun _ => .pure
  · apply (Coincide.of_aside (blind_orAllCandidates _ _ candidates) (aside_orAllCandidates candidates)).bind
    intro candidates
    exact (Coincide.of_aside (blind_selectPlace _ _ _) (idle_selectPlace _ _ _).aside).bind fun _ => .pure

theorem coincide_commaTerm (inside : ∀ request, Coincide (inner request) (made request)) :
    Coincide (site.commaTerm inner type) ((site.withUnused other build).commaTerm made type) := by
  apply (Coincide.of_aside (blind_commaType type) (aside_commaType type)).bind
  intro leftType
  apply (coincide_spendTerms exact 2).bind
  intro _
  apply (inside _).bind
  intro left
  exact (inside _).bind fun _ => .pure

omit exact in
theorem coincide_beforeXor : Coincide site.beforeXor (site.withUnused other build).beforeXor := by
  apply (Coincide.dropCoin _ _).bind
  intro _
  apply (Coincide.of_aside (blind_below 18).discard (idle_below 18).discard.aside).bind
  intro _
  apply (Coincide.of_aside (blind_coin 50).discard (idle_coin 50).discard.aside).bind
  intro _
  apply (Coincide.of_aside (blind_coin 50).discard (idle_coin 50).discard.aside).bind
  intro _
  exact Coincide.of_aside (blind_below 4).discard (idle_below 4).discard.aside

theorem coincide_operatorForm (inside : ∀ request, Coincide (inner request) (made request)) :
    Coincide (site.operatorForm inner type) ((site.withUnused other build).operatorForm made type) := by
  have replayed : (site.withUnused other build).settings.exactReplay = true := exact
  unfold operatorForm
  simp only [exact, replayed, Bool.not_true, Bool.false_eq_true, if_false]
  apply (Coincide.of_aside (blind_coin 80) (idle_coin 80).aside).bind
  intro operator
  split
  · exact .pure
  · apply (Coincide.of_aside (blind_coin 5) (idle_coin 5).aside).bind
    intro unary
    split
    · apply (Coincide.of_aside blind_beforeComplement idle_beforeComplement.aside).bind
      intro _
      exact (inside _).bind fun _ => .pure
    · apply coincide_beforeXor.bind
      intro _
      apply (inside _).bind
      intro left
      exact (inside _).bind fun _ => .pure

/-! ## Calls -/

theorem coincide_reuseCallee : Coincide site.reuseCallee (site.withUnused other build).reuseCallee := by
  have replayed : (site.withUnused other build).settings.exactReplay = true := exact
  unfold reuseCallee
  simp only [exact, replayed, if_true]
  apply (Coincide.of_aside (blind_coin 50) (idle_coin 50).aside).bind
  intro reuse
  exact (Coincide.dropCoin _ _).bind fun _ => .pure

/-- After the lone function there is none that it could call, and none is created. -/
theorem callee_alone {world : World} (alone : world.Alone) :
    site.callee type world = (site.reuseCallee >>= fun _ => pure none) world := by
  have none : (world.flow.functions.length - (world.context.caller + 1) : Int).toNat = 0 := by
    simp [alone.functions, alone.caller]
  unfold callee
  simp only [Step.bind_apply, Step.get_apply, none, exact]
  rcases site.reuseCallee world with ⟨failure | reuse, after⟩
  · rfl
  · cases reuse <;> rfl

theorem coincide_callTerm :
    Coincide (site.callTerm inner type) ((site.withUnused other build).callTerm made type) := by
  intro world alone
  have replayed : (site.withUnused other build).settings.exactReplay = true := exact
  have reuse : Coincide site.reuseCallee (site.withUnused other build).reuseCallee := coincide_reuseCallee exact
  obtain ⟨same, stays⟩ := reuse world alone
  unfold callTerm
  simp only [Step.bind_apply, callee_alone exact alone, callee_alone replayed alone, same]
  revert stays
  rcases site.reuseCallee world with ⟨failure | reuse, after⟩
  · exact fun stays => ⟨rfl, stays⟩
  · exact fun stays => ⟨rfl, stays⟩

theorem coincide_functionTerm (inside : ∀ request, Coincide (inner request) (made request)) :
    Coincide (site.functionTerm inner depth type)
      ((site.withUnused other build).functionTerm made depth type) := by
  have called : Coincide (if depth < maxLevels site.settings then site.callTerm inner type else return none)
      (if depth < maxLevels (site.withUnused other build).settings then
        (site.withUnused other build).callTerm made type else return none) := by
    change Coincide _ (if depth < maxLevels site.settings then _ else _)
    split
    · exact coincide_callTerm exact
    · exact .pure
  unfold functionTerm
  dsimp only
  split
  · apply (coincide_operatorForm exact inside).bind
    rintro (_ | expr)
    · exact called
    · exact .pure
  · exact called

theorem coincide_term {inner made : Option Inner} (inside : CoincideSteps inner made) (kind : Term) :
    Coincide (site.term inner depth type kind) ((site.withUnused other build).term made depth type kind) := by
  cases inside with
  | none =>
      cases kind with
      | constant => exact coincide_constant.map
      | read => exact coincide_readTerm
      | call => exact .pure
      | assign => exact .pure
      | comma => exact .pure
  | some inside =>
      cases kind with
      | constant => exact coincide_constant.map
      | read => exact coincide_readTerm
      | call => exact coincide_functionTerm exact inside
      | assign => exact coincide_assignTerm exact inside
      | comma => exact (coincide_commaTerm exact inside).map

/-! ## Expressions -/

omit exact in
theorem coincide_attempts {make remake : Term → Gen (Option Expr)}
    (each : ∀ kind, Coincide (make kind) (remake kind)) (closed : Bool) (count : Nat) :
    Coincide (site.attempts make request closed count)
      ((site.withUnused other build).attempts remake request closed count) := by
  induction count with
  | zero => exact coincide_constant
  | succ left ih =>
      apply Coincide.attemptOr _ ih
      apply (Coincide.of_aside (blind_chooseTerm _ _ _) (idle_chooseTerm _ _ _).aside).bind
      rintro (_ | kind)
      · exact .pure
      · exact each kind

theorem coincide_oneTerm {inner made : Option Inner} (inside : CoincideSteps inner made) :
    Coincide (site.oneTerm inner depth request) ((site.withUnused other build).oneTerm made depth request) := by
  have closed : made.isNone = inner.isNone := by cases inside <;> rfl
  unfold oneTerm
  rw [closed]
  apply (Coincide.of_aside (blind_termsExhausted _) (idle_termsExhausted _).aside).bind
  exact fun _ => coincide_attempts (coincide_term exact inside) _ 6

theorem coincide_budgeted {step stepped : Gen Expr} (coincide : Coincide step stepped) :
    Coincide (site.budgeted depth request step)
      ((site.withUnused other build).budgeted depth request stepped) := by
  have replayed : (site.withUnused other build).settings.exactReplay = true := exact
  unfold budgeted
  rw [withTerms_exact exact, withTerms_exact replayed, ite_self, ite_self]
  exact coincide

/-- Induction on the number of levels that may still be opened. -/
theorem coincide_leaf (levels : Nat) (depth : Int) (request : Request) :
    Coincide (site.leaf levels depth request) ((site.withUnused other build).leaf levels depth request) := by
  induction levels generalizing depth request with
  | zero => exact Coincide.spanning (coincide_oneTerm exact .none)
  | succ levels ih =>
      exact Coincide.spanning
        (coincide_oneTerm exact (.some fun request => coincide_budgeted exact (ih (depth + 1) request)))

theorem coincide_expression (request : Request) :
    Coincide (site.expression request) ((site.withUnused other build).expression request) := by
  apply (coincide_budgeted exact (coincide_leaf exact _ 0 request)).bind
  exact fun expr => (Coincide.remember _).bind fun _ => .pure

/-! ## Statements -/

theorem coincide_assignStatement :
    Coincide site.assignStatement (site.withUnused other build).assignStatement := by
  apply (Coincide.of_aside blind_assignable aside_assignable).bind
  rintro ⟨place, type, initial⟩
  apply (coincide_expression exact _).bind
  intro value
  apply (Coincide.of_aside (blind_oneIn 2).decideIf (idle_decideIf (idle_oneIn 2)).aside).bind
  intro compound
  apply (Coincide.of_aside (blind_recordChange place type) (aside_recordChange place type)).bind
  exact fun _ => .pure

theorem coincide_condition : Coincide site.condition (site.withUnused other build).condition := by
  apply (Coincide.of_aside (blind_below 7) (idle_below 7).aside).bind
  intro mask
  apply (Coincide.of_aside (blind_oneIn 5).decideIf (idle_decideIf (idle_oneIn 5)).aside).bind
  intro isConstant
  split
  · exact (Coincide.of_aside (blind_drawConstant _ _) (idle_drawConstant _).aside).bind fun _ => .pure
  · apply (Coincide.of_aside (blind_oneIn 3) (idle_oneIn 3).aside).bind
    intro isExpression
    split
    · exact (coincide_expression exact _).bind fun _ => .pure
    · exact .pure

variable (masked : site.setup.env.arrays = [] ∨ other.maxArrayLenPerDim = site.settings.maxArrayLenPerDim)

include masked

/-- An element of an array is updated in the same way, if there is an array at all. -/
theorem coincide_updateStatement :
    Coincide site.updateStatement (site.withUnused other build).updateStatement := by
  unfold updateStatement
  dsimp only
  change Coincide _ (if (! site.settings.arrays || site.setup.env.arrays.isEmpty) = true then _ else _)
  split
  · exact .pure
  · rename_i present
    have mask : (site.withUnused other build).settings.maxArrayLenPerDim = site.settings.maxArrayLenPerDim :=
      masked.resolve_left fun none => present (by simp [none])
    rw [mask]
    apply (Coincide.of_aside (blind_choose _) (idle_choose _).aside).bind
    intro v
    apply (coincide_expression exact _).bind
    intro value
    exact (Coincide.of_aside (blind_recordChange _ _) (aside_recordChange _ _)).bind fun _ => .pure

theorem coincide_statementOf {nested made : Option Nested} (inside : CoincideSteps nested made)
    (kind : StatementKind) :
    Coincide (site.statementOf nested kind) ((site.withUnused other build).statementOf made kind) := by
  cases kind with
  | assign => exact (coincide_assignStatement exact).map
  | branch =>
      cases inside with
      | none => exact .pure
      | some inside =>
          apply (coincide_condition exact).bind
          intro condition
          apply (inside false).bind
          intro yes
          exact (inside false).bind fun _ => .pure
  | loop =>
      cases inside with
      | none => exact .pure
      | some inside =>
          apply (Coincide.of_aside (blind_below 5) (idle_below 5).aside).bind
          intro more
          exact (inside true).bind fun _ => .pure
  | leave => exact .pure
  | nextRound => exact .pure
  | leaveLoop => exact .pure
  | jump => exact .pure
  | updateElement => exact coincide_updateStatement exact masked

theorem coincide_statement {nested made : Option Nested} (inside : CoincideSteps nested made) (depth : Int)
    (inLoop : Bool) :
    Coincide (site.statement nested depth inLoop)
      ((site.withUnused other build).statement made depth inLoop) := by
  have charge : Coincide chargeStatement chargeStatement := by
    apply Coincide.get
    intro _ _
    refine (Coincide.changeFlow _ fun _ => ?_).bind fun _ => ?_
    · rfl
    · apply Coincide.get
      exact fun _ _ => .remember _
  apply Coincide.get
  intro world _
  split
  · exact .pure
  · apply charge.bind
    intro _
    apply (Coincide.of_aside (blind_chooseKind depth inLoop) (idle_chooseKind depth inLoop).aside).bind
    exact fun kind => (coincide_statementOf exact masked inside kind).bind fun _ => .pure

/-! ## Blocks -/

omit exact masked in
theorem coincide_statementAttempts {make remake : Gen (Option Block)} (coincide : Coincide make remake)
    (count : Nat) :
    Coincide (site.statementAttempts make count)
      ((site.withUnused other build).statementAttempts remake count) := by
  induction count with
  | zero =>
      apply Coincide.get
      exact fun _ _ => (Coincide.remember _).bind fun _ => .pure
  | succ left ih => exact Coincide.attemptOr coincide ih

omit exact masked in
theorem coincide_statements {make remake : Gen (Option Block)} (coincide : Coincide make remake) (count : Nat) :
    Coincide (site.statements make count) ((site.withUnused other build).statements remake count) := by
  induction count with
  | zero => exact .pure
  | succ count ih =>
      apply Coincide.get
      intro world _
      split
      · exact (Coincide.report _).bind fun _ => .pure
      · apply (coincide_statementAttempts coincide 8).bind
        intro first
        exact ih.bind fun _ => .pure

theorem coincide_blockOf {nested made : Option Nested} (inside : CoincideSteps nested made) (depth : Int)
    (inLoop : Bool) :
    Coincide (site.blockOf nested depth inLoop) ((site.withUnused other build).blockOf made depth inLoop) := by
  apply Coincide.get
  intro world _
  split
  · exact .pure
  · apply (Coincide.of_aside (blind_below _) (idle_below _).aside).bind
    exact fun _ => coincide_statements (coincide_statement exact masked inside depth inLoop) _

/-- Induction on the number of levels that blocks may still be nested. -/
theorem coincide_blockWithin (levels : Nat) (depth : Int) (inLoop : Bool) :
    Coincide (site.blockWithin levels depth inLoop)
      ((site.withUnused other build).blockWithin levels depth inLoop) := by
  induction levels generalizing depth inLoop with
  | zero => exact Coincide.spanning (coincide_blockOf exact masked .none depth inLoop)
  | succ levels ih =>
      exact Coincide.spanning (coincide_blockOf exact masked (.some (ih (depth + 1))) depth inLoop)

/-! ## Bodies -/

omit masked in
theorem coincide_mix : Coincide site.mix (site.withUnused other build).mix := by
  unfold mix
  dsimp only
  change Coincide _ (if site.setup.env.writable.isEmpty then _ else _)
  split
  · exact .pure
  · apply (Coincide.of_aside (blind_choose _) (idle_choose _).aside).bind
    intro v
    exact (coincide_expression exact _).bind fun _ => .pure

theorem coincide_definition (signature : Signature) (returnLocal : String) :
    Coincide (site.definition signature returnLocal)
      ((site.withUnused other build).definition signature returnLocal) := by
  apply (coincide_blockWithin exact masked _ 0 false).bind
  intro body
  apply (coincide_mix exact).bind
  intro mix
  exact (Coincide.report _).bind fun _ => .pure

end

end Site

section

variable {setup : Setup} {other : Settings} {build rebuilt : Option (Int → Gen Unit)}

theorem aside_replace {α : Type} (list : List α) (index : Int) (value : α) :
    Aside (Step.replace list index value) := by
  unfold Step.replace
  generalize (if index < 0 then index + list.length else index) = position
  dsimp only
  split
  · exact fun world => World.Passes.refl world
  · exact .pure

theorem coincide_define (index : Int) (definition : Definition) :
    Coincide (define index definition) (define index definition) := by
  apply Coincide.get
  intro _ _
  apply (Coincide.of_aside (blind_replace _ _ _) (aside_replace _ _ _)).bind
  intro definitions
  refine (Coincide.changeFlow _ fun _ => ?_).bind fun _ => ?_
  · rfl
  · apply Coincide.get
    intro _ _
    apply (Coincide.of_aside (blind_replace _ _ _) (aside_replace _ _ _)).bind
    intro built
    apply Coincide.changeFlow
    exact fun _ => rfl

/-- The body of the entry function is built in the same way. -/
theorem coincide_ensureBuilt (exact : setup.settings.exactReplay = true)
    (masked : setup.env.arrays = [] ∨ other.maxArrayLenPerDim = setup.settings.maxArrayLenPerDim) :
    Coincide (ensureBuilt setup build 0) (ensureBuilt (setup.withUnused other) rebuilt 0) := by
  have numbered : Coincide Gen.freshLocal Gen.freshLocal := by
    apply Coincide.get
    intro world _
    refine (Coincide.changeFlow _ fun _ => ?_).bind fun _ => .pure
    rfl
  have defining :
    Coincide (buildDefinition setup build 0) (buildDefinition (setup.withUnused other) rebuilt 0) := by
    apply (Coincide.of_aside (blind_functionAt 0) (Site.aside_functionAt 0)).bind
    intro signature
    apply numbered.bind
    intro returnLocal
    apply (Coincide.remember _).bind
    intro _
    let site : Site := ⟨setup, .ofParams signature.params returnLocal, build⟩
    have replays : site.settings.exactReplay = true := exact
    have without : site.setup.env.arrays = [] ∨ other.maxArrayLenPerDim = site.settings.maxArrayLenPerDim := masked
    exact Coincide.inContext rfl (Site.coincide_definition replays without signature returnLocal)
  have looked : Aside (builtAt 0) := .get fun _ => (idle_element _ _).aside
  apply (Coincide.of_aside (blind_builtAt 0) looked).bind
  intro done
  split
  · exact .pure
  · apply (Coincide.spanning defining).bind
    intro definition
    exact (Coincide.remember _).bind fun _ => coincide_define 0 definition

end

end RandomC
