import RandomC.Proofs.Neutral
import RandomC.Proofs.Rollback

/-!
# The budget of terms inside expressions

Inside a whole expression the budget of terms only falls: what a term was charged is not given back where the term is
taken back.  To say so of every moment, the generator of expressions is run on a state that also holds the budgets
that were seen.  It is the same generator, layer by layer, but looks at the budget after each of its steps.  Only the
body of a function that a call creates is a single step for it, since the expressions in there have budgets of their
own.
-/

namespace RandomC

/-- A state with the budgets of terms that were seen so far, the last one first. -/
structure Watch where
  world : World
  seen : List Int

/-- The budgets never rose, and none was below the present one. -/
def Watch.Falling (state : Watch) : Prop := (state.world.remaining :: state.seen).Pairwise (· ≤ ·)

/-- A step after which the budget is looked at, also where it fails. -/
def watch {α : Type} (step : Gen α) : Step Watch α := fun before =>
  ((step before.world).1, ⟨(step before.world).2, (step before.world).2.remaining :: before.seen⟩)

namespace Watch

variable {α : Type}

/-- `Gen.attemptOr`, watched. -/
def attemptOr (setup : Setup) (attempt : Step Watch (Option α)) (again : Step Watch α) : Step Watch α := do
  let start ← watch Gen.save
  match ← attempt with
  | some made => return made
  | none =>
    watch (Gen.goBack setup start)
    again

/-- `Gen.spanning`, watched. -/
def spanning (step : Step Watch α) : Step Watch α := do
  let start := (← watch get).checkpoint
  let made ← step
  watch (Gen.remember (.completed start (← watch get).checkpoint))
  return made

end Watch

/-! ## Watched expressions -/

namespace Site

/-- How the expressions inside a term are made. -/
abbrev WatchedInner := Request → Step Watch Expr

section

variable (site : Site)

/-- `assignTerm`, watched. -/
def watchedAssign (inner : WatchedInner) (type : CType) : Step Watch (Option Expr) := do
  watch site.beforeAssignment
  watch (spendTerms site.settings 1)
  let value ← inner (.plain type)
  let band ← watch (drawBand site.settings)
  let candidates ← watch (scopedCandidates site.setup site.scope band)
  if candidates.isEmpty && (band == .globals || band == .fresh) then
    let created ← watch (createGlobal site.setup type true)
    return some (.assign type created.place value)
  let candidates ← watch (orAllCandidates site.setup site.scope candidates)
  return (← watch (selectPlace type candidates true)).map fun candidate => .assign type candidate.place value

/-- `commaTerm`, watched. -/
def watchedComma (inner : WatchedInner) (type : CType) : Step Watch Expr := do
  let leftType ← watch (site.commaType type)
  watch (spendTerms site.settings 2)
  let left ← inner ⟨leftType, false, false, true⟩
  return .comma type left (← inner (.plain type))

/-- `operatorForm`, watched. -/
def watchedOperator (inner : WatchedInner) (type : CType) : Step Watch (Option Expr) := do
  if ! site.settings.exactReplay then
    return none
  if ! (← watch (Step.coin 80)) then
    return none
  if ← watch (Step.coin 5) then
    watch beforeComplement
    return some (.complement type (← inner (.plain type)))
  watch site.beforeXor
  let left ← inner (.plain type)
  return some (.xor type left (← inner (.plain type)))

/-- `createCallee`, watched.  The body is built in one step. -/
def watchedCreation (type : CType) : Step Watch (Option Nat) :=
  match site.build with
  | none => return none
  | some build => do
    match ← watch (createFunction site.setup (some type)) with
    | none => return none
    | some index =>
      watch (build index)
      return some index

/-- `callee`, watched. -/
def watchedCallee (type : CType) : Step Watch (Option Int) := do
  let world ← watch get
  let first := world.context.caller + 1
  let count := (world.flow.functions.length - first).toNat
  if (← watch site.reuseCallee) && count ≠ 0 then
    return some (first + (← watch (Step.below count)))
  if count = 0 && site.settings.exactReplay then
    return none
  match ← site.watchedCreation type with
  | some index => return some index
  | none =>
    if count ≠ 0 then
      return some (first + (← watch (Step.below count)))
    let caller ← watch (functionAt world.context.caller)
    watch (Gen.report (.noCallee caller.name))
    return none

/-- `callTerm`, watched. -/
def watchedCall (inner : WatchedInner) (type : CType) : Step Watch (Option Expr) := do
  match ← site.watchedCallee type with
  | none => return none
  | some index =>
    watch (Gen.remember (.called index (← watch get).checkpoint))
    let signature ← watch (functionAt index)
    watch (spendTerms site.settings signature.params.length)
    let arguments ← signature.params.mapM fun param => inner (.forArgument param.type)
    return some (.call type signature.number arguments)

/-- `functionTerm`, watched. -/
def watchedFunction (inner : WatchedInner) (depth : Int) (type : CType) : Step Watch (Option Expr) := do
  if 0 < depth then
    if let some expr ← site.watchedOperator inner type then
      return some expr
  if depth < maxLevels site.settings then
    site.watchedCall inner type
  else
    return none

/-- `term`, watched. -/
def watchedTerm (inner : Option WatchedInner) (depth : Int) (type : CType) (kind : Term) : Step Watch (Option Expr) :=
  match kind, inner with
  | .constant, _ => some <$> watch (site.constant type)
  | .read, _ => watch (site.readTerm type)
  | .call, some inner => site.watchedFunction inner depth type
  | .assign, some inner => site.watchedAssign inner type
  | .comma, some inner => some <$> site.watchedComma inner type
  | _, none => return none

/-- `attempt`, watched. -/
def watchedAttempt (make : Term → Step Watch (Option Expr)) (request : Request) (closed : Bool) :
    Step Watch (Option Expr) := do
  match ← watch (chooseTerm site.settings (termWeights request.argument site.settings) (barred request closed)) with
  | some kind => make kind
  | none => return none

/-- `attempts`, watched. -/
def watchedAttempts (make : Term → Step Watch (Option Expr)) (request : Request) (closed : Bool) :
    (attempts : Nat) → Step Watch Expr
  | 0 => watch (site.constant request.type)
  | left + 1 =>
    Watch.attemptOr site.setup (site.watchedAttempt make request closed) (watchedAttempts make request closed left)

/-- `oneTerm`, watched. -/
def watchedOneTerm (inner : Option WatchedInner) (depth : Int) (request : Request) : Step Watch Expr := do
  let closed := inner.isNone || (← watch (termsExhausted site.settings))
  site.watchedAttempts (site.watchedTerm inner depth request.type) request closed 6

/-- `leaf`, watched.  Expressions inside another one have no budget of their own. -/
def watchedLeaf : (levels : Nat) → (depth : Int) → WatchedInner
  | 0, depth, request => Watch.spanning (site.watchedOneTerm none depth request)
  | levels + 1, depth, request =>
    Watch.spanning (site.watchedOneTerm (some (watchedLeaf levels (depth + 1))) depth request)

/-- A whole expression, watched from where its budget is opened. -/
def watchedWhole (request : Request) (world : World) : Except Failure Expr × Watch :=
  site.watchedLeaf (levelsBelow site.settings 0) 0 request
    ⟨{ world with remaining := termBudget site.settings }, [termBudget site.settings]⟩

end

end Site

/-! ## Rules -/

/-- A watched run ends as the plain one, and the budget only falls in it. -/
structure Follows {α : Type} (before : Watch) (watched : Except Failure α × Watch)
    (plain : Except Failure α × World) : Prop where
  result : watched.1 = plain.1
  world : watched.2.world = plain.2
  longer : before.seen <:+ watched.2.seen
  falls : before.Falling → watched.2.Falling

/-- The watched step does what the step does, and under it the budget only falls. -/
def Watches {α : Type} (watched : Step Watch α) (step : Gen α) : Prop :=
  ∀ before, Follows before (watched before) (step before.world)

namespace Watches

variable {α β : Type} {watched : Step Watch α} {step : Gen α}

theorem pure {value : α} : Watches (pure value) (pure value) := fun _ => ⟨rfl, rfl, List.suffix_rfl, id⟩

/-- A step that does not raise the budget. -/
theorem of_falls (falls : ∀ world, (step world).2.remaining ≤ world.remaining) : Watches (watch step) step := by
  intro before
  refine ⟨rfl, rfl, List.suffix_cons _ _, ?_⟩
  intro falling
  obtain ⟨least, sorted⟩ := List.pairwise_cons.mp falling
  have less : ∀ level ∈ before.seen, (step before.world).2.remaining ≤ level :=
    fun level member => (falls before.world).trans (least level member)
  exact .cons (List.forall_mem_cons.mpr ⟨Int.le_refl _, less⟩) (.cons less sorted)

theorem of_neutral (neutral : Neutral step) : Watches (watch step) step := .of_falls fun world => (neutral world).le

theorem bind {more : α → Step Watch β} {next : α → Gen β} (first : Watches watched step)
    (rest : ∀ value, Watches (more value) (next value)) : Watches (watched >>= more) (step >>= next) := by
  intro before
  have begun := first before
  rw [Step.bind_apply, Step.bind_apply]
  revert begun
  rcases watched before with ⟨failure | value, after⟩ <;> rcases step before.world with ⟨other | same, reached⟩ <;>
    rintro ⟨⟨⟩, rfl, longer, falls⟩
  · exact ⟨rfl, rfl, longer, falls⟩
  · have followed := rest value after
    exact ⟨followed.result, followed.world, longer.trans followed.longer, followed.falls ∘ falls⟩

theorem map {image : α → β} (watches : Watches watched step) : Watches (image <$> watched) (image <$> step) := by
  rw [map_eq_pure_bind, map_eq_pure_bind]
  exact watches.bind fun _ => .pure

theorem mapM {list : List α} {make : α → Step Watch β} {plain : α → Gen β}
    (each : ∀ element, Watches (make element) (plain element)) : Watches (list.mapM make) (list.mapM plain) := by
  induction list with
  | nil => exact .pure
  | cons element rest ih =>
      rw [List.mapM_cons, List.mapM_cons]
      exact (each element).bind fun _ => ih.bind fun _ => .pure

end Watches

section

variable {α : Type} {setup : Setup} {step : Gen α} {watched : Step Watch α}

theorem watches_get : Watches (watch get) (get : Gen World) := .of_neutral .get

theorem watches_remember (moment : Moment) : Watches (watch (Gen.remember moment)) (Gen.remember moment) :=
  .of_neutral (Gen.neutral_remember moment)

/-- Terms are charged by their number. -/
theorem watches_spendTerms (settings : Settings) (count : Nat) :
    Watches (watch (spendTerms settings count)) (spendTerms settings count) := by
  apply Watches.of_falls
  intro world
  unfold spendTerms
  split
  · exact Int.le_refl _
  · exact Int.sub_le_self _ (Int.natCast_nonneg count)

/-- What was charged in an attempt stays charged. -/
theorem watches_attemptOr {attempt : Gen (Option α)} {again : Gen α} {watchedAttempt : Step Watch (Option α)}
    {watchedAgain : Step Watch α} (first : Watches watchedAttempt attempt) (second : Watches watchedAgain again) :
    Watches (Watch.attemptOr setup watchedAttempt watchedAgain) (Gen.attemptOr setup attempt again) := by
  apply (Watches.of_neutral Gen.neutral_save).bind
  intro start
  apply first.bind
  rintro (_ | made)
  · exact (Watches.of_neutral (Gen.neutral_goBack start)).bind fun _ => second
  · exact .pure

theorem watches_spanning (watches : Watches watched step) : Watches (Watch.spanning watched) (Gen.spanning step) := by
  apply watches_get.bind
  intro start
  apply watches.bind
  intro made
  exact watches_get.bind fun _ => (watches_remember _).bind fun _ => .pure

end

/-! ## Layers -/

namespace Site

variable {site : Site} {inner : Inner} {watchedInner : WatchedInner} {type : CType} {depth : Int} {request : Request}

theorem watches_assignTerm (inside : ∀ request, Watches (watchedInner request) (inner request)) :
    Watches (site.watchedAssign watchedInner type) (site.assignTerm inner type) := by
  apply (Watches.of_neutral idle_beforeAssignment.neutral).bind
  intro _
  apply (watches_spendTerms _ 1).bind
  intro _
  apply (inside _).bind
  intro value
  apply (Watches.of_neutral (idle_drawBand _).neutral).bind
  intro band
  apply (Watches.of_neutral (aside_scopedCandidates band).neutral).bind
  intro candidates
  split
  · exact (Watches.of_neutral (aside_createGlobal type true).neutral).bind fun _ => .pure
  · apply (Watches.of_neutral (aside_orAllCandidates candidates).neutral).bind
    intro candidates
    exact (Watches.of_neutral (idle_selectPlace type candidates true).neutral).bind fun _ => .pure

theorem watches_commaTerm (inside : ∀ request, Watches (watchedInner request) (inner request)) :
    Watches (site.watchedComma watchedInner type) (site.commaTerm inner type) := by
  apply (Watches.of_neutral (aside_commaType type).neutral).bind
  intro leftType
  apply (watches_spendTerms _ 2).bind
  intro _
  apply (inside _).bind
  intro left
  exact (inside _).bind fun _ => .pure

theorem watches_operatorForm (inside : ∀ request, Watches (watchedInner request) (inner request)) :
    Watches (site.watchedOperator watchedInner type) (site.operatorForm inner type) := by
  unfold watchedOperator operatorForm
  split
  · exact .pure
  · apply (Watches.of_neutral (idle_coin 80).neutral).bind
    intro wanted
    split
    · exact .pure
    · apply (Watches.of_neutral (idle_coin 5).neutral).bind
      intro unary
      split
      · apply (Watches.of_neutral idle_beforeComplement.neutral).bind
        intro _
        exact (inside _).bind fun _ => .pure
      · apply (Watches.of_neutral idle_beforeXor.neutral).bind
        intro _
        apply (inside _).bind
        intro left
        exact (inside _).bind fun _ => .pure

/-! ### Calls -/

theorem neutral_createFunction {setup : Setup} (type : CType) : Neutral (createFunction setup (some type)) := by
  intro world
  apply ((createFunction_creates setup type world).mono ?_ fun _ matched => matched.remaining).reached
  rintro (_ | index) after ⟨unchanged, added⟩
  · rw [unchanged rfl]
  · obtain ⟨-, signature, creates⟩ := added index rfl
    exact creates.remaining

theorem watches_createCallee (built : NeutralSteps site.build) :
    Watches (site.watchedCreation type) (site.createCallee type) := by
  unfold watchedCreation createCallee
  cases given : site.build with
  | none => exact .pure
  | some build =>
      apply (Watches.of_neutral (neutral_createFunction type)).bind
      rintro (_ | index)
      · exact .pure
      · exact (Watches.of_neutral (built build given index)).bind fun _ => .pure

theorem watches_callee (built : NeutralSteps site.build) : Watches (site.watchedCallee type) (site.callee type) := by
  have some_below (first : Int) (count : Nat) :
      Watches (do return some (first + (← watch (Step.below count))))
        (do return some (first + (← Step.below count)) : Gen (Option Int)) :=
    (Watches.of_neutral (idle_below count).neutral).bind fun _ => .pure
  apply watches_get.bind
  intro world
  apply (Watches.of_neutral idle_reuseCallee.neutral).bind
  intro reuse
  split
  · exact some_below _ _
  · split
    · exact .pure
    · apply (watches_createCallee built).bind
      rintro (_ | index)
      · dsimp only
        split
        · exact some_below _ _
        · apply (Watches.of_neutral (aside_functionAt _).neutral).bind
          intro caller
          exact (Watches.of_neutral (Gen.neutral_report _)).bind fun _ => .pure
      · exact .pure

theorem watches_callTerm (built : NeutralSteps site.build)
    (inside : ∀ request, Watches (watchedInner request) (inner request)) :
    Watches (site.watchedCall watchedInner type) (site.callTerm inner type) := by
  apply (watches_callee built).bind
  rintro (_ | index)
  · exact .pure
  · apply watches_get.bind
    intro world
    apply (watches_remember _).bind
    intro _
    apply (Watches.of_neutral (aside_functionAt index).neutral).bind
    intro signature
    apply (watches_spendTerms _ _).bind
    intro _
    exact (Watches.mapM fun _ => inside _).bind fun _ => .pure

theorem watches_functionTerm (built : NeutralSteps site.build)
    (inside : ∀ request, Watches (watchedInner request) (inner request)) :
    Watches (site.watchedFunction watchedInner depth type) (site.functionTerm inner depth type) := by
  have called : Watches (if depth < maxLevels site.settings then site.watchedCall watchedInner type else return none)
      (if depth < maxLevels site.settings then site.callTerm inner type else return none) := by
    split
    · exact watches_callTerm built inside
    · exact .pure
  unfold watchedFunction functionTerm
  -- The call stands on both branches; under a name it is not split along with them.
  generalize (if depth < maxLevels site.settings then site.watchedCall watchedInner type else return none) =
    watchedCall, (if depth < maxLevels site.settings then site.callTerm inner type else return none) = call at called
  dsimp only
  split
  · apply (watches_operatorForm inside).bind
    rintro (_ | expr)
    · exact called
    · exact .pure
  · exact called

/-! ### Terms and expressions -/

/-- If expressions can stand inside a term, the watched ones are made as they are. -/
inductive WatchesInner : Option WatchedInner → Option Inner → Prop
  | none : WatchesInner none none
  | some {watched : WatchedInner} {inner : Inner} (inside : ∀ request, Watches (watched request) (inner request)) :
      WatchesInner (some watched) (some inner)

variable {watchedOption : Option WatchedInner} {option : Option Inner}

theorem watches_term (built : NeutralSteps site.build) (inside : WatchesInner watchedOption option) (kind : Term) :
    Watches (site.watchedTerm watchedOption depth type kind) (site.term option depth type kind) := by
  have constant : Watches (some <$> watch (site.constant type)) (some <$> site.constant type) :=
    (Watches.of_neutral ((idle_drawConstant type).neutral.bind fun _ => .pure)).map
  have read : Watches (watch (site.readTerm type)) (site.readTerm type) := .of_neutral aside_readTerm.neutral
  cases inside with
  | none => cases kind <;> first | exact constant | exact read | exact .pure
  | some inside =>
      cases kind with
      | constant => exact constant
      | read => exact read
      | call => exact watches_functionTerm built inside
      | assign => exact watches_assignTerm inside
      | comma => exact (watches_commaTerm inside).map

/-- A term is taken back as often as it comes to nothing. -/
theorem watches_attempts {make : Term → Gen (Option Expr)} {watchedMake : Term → Step Watch (Option Expr)}
    (made : ∀ kind, Watches (watchedMake kind) (make kind)) (request : Request) (closed : Bool) (count : Nat) :
    Watches (site.watchedAttempts watchedMake request closed count) (site.attempts make request closed count) := by
  have tried : Watches (site.watchedAttempt watchedMake request closed) (site.attempt make request closed) := by
    apply (Watches.of_neutral (idle_chooseTerm _ _ _).neutral).bind
    rintro (_ | kind)
    · exact .pure
    · exact made kind
  induction count with
  | zero => exact .of_neutral ((idle_drawConstant _).neutral.bind fun _ => .pure)
  | succ left ih => exact watches_attemptOr tried ih

theorem watches_oneTerm (built : NeutralSteps site.build) (inside : WatchesInner watchedOption option) :
    Watches (site.watchedOneTerm watchedOption depth request) (site.oneTerm option depth request) := by
  have same : watchedOption.isNone = option.isNone := by cases inside <;> rfl
  unfold watchedOneTerm oneTerm
  rw [same]
  apply (Watches.of_neutral (idle_termsExhausted _).neutral).bind
  exact fun exhausted => watches_attempts (watches_term built inside) request _ 6

/-- An expression does the same when it is watched, and its budget only falls. -/
theorem watches_leaf (built : NeutralSteps site.build) (levels : Nat) (outside : 0 ≤ depth) (request : Request) :
    Watches (site.watchedLeaf levels depth request) (site.leaf levels depth request) := by
  induction levels generalizing depth request with
  | zero => exact watches_spanning (watches_oneTerm built .none)
  | succ levels ih =>
      have inside (request : Request) : Watches (site.watchedLeaf levels (depth + 1) request)
          (site.budgeted (depth + 1) request (site.leaf levels (depth + 1) request)) := by
        have deeper : 0 < depth + 1 := by omega
        simp only [budgeted, deeper, decide_true, Bool.or_true, if_true]
        exact ih (by omega) request
      exact watches_spanning (watches_oneTerm built (.some inside))

end Site

/-! ## Runs -/

/-- Where terms are limited, the budget is bracketed by whole expressions.  A whole expression, a definition and the
building of a body leave the budget as they found it in any state, however they end.  A whole expression starts with
all of its own budget.  From there on this only falls, with each step that the expression makes: through attempts
that are taken back, through expressions inside other ones and through calls, and whatever bodies are built for
these. -/
theorem terms_are_bracketed (site : Site) {free : Nat} (limited : site.settings.exactReplay = false)
    (nested : site.build = bodies site.setup free) (world : World) :
    (∀ request : Request, request.argument = false →
      (site.inner 0 request world).2.remaining = world.remaining ∧
      site.inner 0 request world = ((site.watchedWhole request world).1,
        { (site.watchedWhole request world).2.world with remaining := world.remaining }) ∧
      (site.watchedWhole request world).2.Falling ∧
      [termBudget site.settings] <:+ (site.watchedWhole request world).2.seen) ∧
    ∀ index, (buildDefinition site.setup site.build index world).2.remaining = world.remaining ∧
      (ensureBuilt site.setup site.build index world).2.remaining = world.remaining := by
  refine ⟨?_, fun index => ⟨neutral_buildDefinition limited index world, neutral_ensureBuilt limited index world⟩⟩
  intro request whole
  have built : NeutralSteps site.build := nested ▸ neutral_bodies limited free
  let opened : Watch := ⟨{ world with remaining := termBudget site.settings }, [termBudget site.settings]⟩
  have followed : Follows opened (site.watchedWhole request world)
      (site.leaf (Site.levelsBelow site.settings 0) 0 request opened.world) :=
    Site.watches_leaf built _ (Int.le_refl 0) request opened
  have start : opened.Falling := .cons (List.forall_mem_singleton.mpr (Int.le_refl _)) (List.pairwise_singleton _ _)
  refine ⟨Site.neutral_inner limited whole world, ?_, followed.falls start, followed.longer⟩
  rw [Site.inner_whole whole, withTerms_limited limited, followed.result, followed.world]

/-- The state in which a small run begins an expression that calls a new function. -/
def nestedStart : World := (addEntry smallSetup (.start smallSetup (.ofSeed 87 false) #[])).2

/-- The place of that expression, where one more function can be created. -/
def nestedSite : Site := ⟨smallSetup, .ofParams [] (localName 0), bodies smallSetup 1⟩

/-- An assignment costs a term and is taken back, and a body is built before the argument of the call costs another
one.  So the budget falls twice, from 40. -/
theorem terms_are_bracketed_nested :
    ((nestedSite.watchedWhole (.plain .int32) nestedStart).2.world.history.countP (· matches .defined ..) = 1 ∧
      (nestedSite.watchedWhole (.plain .int32) nestedStart).2.seen.dedup = [38, 39, 40]) ∧
    ((nestedSite.inner 0 (.plain .int32) nestedStart).2.remaining = nestedStart.remaining ∧
      (nestedSite.watchedWhole (.plain .int32) nestedStart).2.Falling) ∧
    (ensureBuilt nestedSite.setup nestedSite.build 0 nestedStart).2.remaining = nestedStart.remaining := by
  obtain ⟨expressions, built⟩ := terms_are_bracketed nestedSite rfl (rfl : _ = bodies nestedSite.setup 1) nestedStart
  obtain ⟨kept, -, falling, -⟩ := expressions (.plain .int32) rfl
  refine ⟨⟨?_, ?_⟩, ⟨kept, falling⟩, (built 0).2⟩
  · decide +kernel
  · decide +kernel

end RandomC
