import RandomC.Proofs.Definition
import RandomC.Proofs.Failure

/-!
# Bodies do not depend on how nested bodies are built

A body is generated by the same steps whichever way is given to build the bodies of the functions that it
creates, as long as the ways agree where a function was just created.  The agreement is carried through
expressions, statements and blocks, together with the safety of the steps: what a step looks up is there.
-/

namespace RandomC

section

variable {σ α β : Type}

/-- Run from the state, the step is safe, and the other one does the same. -/
structure Step.Agrees (step other : Step σ α) (state : σ) : Prop where
  safe : step.Safe state
  same : other state = step state

theorem Step.Safe.agrees {step : Step σ α} {state : σ} (safe : step.Safe state) :
    step.Agrees step state := ⟨safe, rfl⟩

/-- Sequences agree where their first steps agree and lead to states from which the second steps agree. -/
theorem Step.Agrees.bind {step other : Step σ α} {next following : α → Step σ β} {state : σ}
    (first : step.Agrees other state)
    (second : ∀ value after, step state = (.ok value, after) →
      (next value).Agrees (following value) after) :
    (step >>= next).Agrees (other >>= following) state := by
  constructor
  · exact first.safe.bind fun value after same => (second value after same).safe
  · rw [Step.bind_apply, Step.bind_apply, first.same]
    rcases same : step state with ⟨failure | value, after⟩
    · rfl
    · exact (second value after same).same

theorem Step.Agrees.ends {step other : Step σ α} {next following : α → Step σ β} {state : σ}
    {ok : α → σ → Prop} {failed : σ → Prop} (first : step.Agrees other state)
    (ends : step.Ends state ok failed)
    (second : ∀ value after, ok value after → (next value).Agrees (following value) after) :
    (step >>= next).Agrees (other >>= following) state :=
  first.bind fun value after same => second value after (by simpa only [Step.Ends, same] using ends)

/-- Sequences agree that begin with a step that is known to give a value. -/
theorem Step.Agrees.given {step : Step σ α} {next following : α → Step σ β} {state after : σ} {value : α}
    (gives : step state = (.ok value, after)) (agrees : (next value).Agrees (following value) after) :
    (step >>= next).Agrees (step >>= following) state := by
  constructor
  · rw [Step.Safe, Step.bind_apply, gives]
    exact agrees.safe
  · rw [Step.bind_apply, Step.bind_apply, gives]
    exact agrees.same

theorem Step.Agrees.map {step other : Step σ α} {image : α → β} {state : σ}
    (agrees : step.Agrees other state) : (image <$> step).Agrees (image <$> other) state := by
  rw [map_eq_pure_bind, map_eq_pure_bind]
  constructor
  · exact agrees.safe.bind fun _ _ _ => Secure.pure _
  · rw [Step.bind_apply, Step.bind_apply, agrees.same]

theorem Step.Agrees.get {next following : σ → Step σ α} {state : σ}
    (agrees : (next state).Agrees (following state) state) :
    (get >>= next).Agrees (get >>= following) state := ⟨agrees.safe, agrees.same⟩

end

section

variable {α : Type} {step other : Gen α} {world : World}

/-- The moment that is remembered at the end does not matter. -/
theorem Step.Agrees.spanning (agrees : step.Agrees other world) :
    (Gen.spanning step).Agrees (Gen.spanning other) world := by
  apply Step.Agrees.get
  exact agrees.bind fun _ _ _ => Step.Safe.agrees fun _ => nofun

theorem Step.Agrees.withTerms {settings : Settings}
    (agrees : step.Agrees other (world.openTerms settings).2) :
    (withTerms settings step).Agrees (withTerms settings other) world where
  safe := agrees.safe
  same := by simp only [RandomC.withTerms, agrees.same]

theorem Step.Agrees.inContext {context : Context} (agrees : step.Agrees other { world with context }) :
    (Gen.inContext context step).Agrees (Gen.inContext context other) world where
  safe := agrees.safe
  same := by simp only [Gen.inContext, agrees.same]

end

namespace Site

/-! ## Rules -/

/-- Wherever it is run in the body of the function at an index, the step is safe, and the other one does the
same. -/
def Alike {α : Type} (site : Site) (caller : Nat) (step other : Gen α) : Prop :=
  ∀ world, site.Fits caller world → world.Good site.setup → step.Agrees other world

/-- Wherever it is run in the body of the function at an index, the step leads to a state inside this body,
with a value that satisfies the postcondition. -/
def Leads {α : Type} (site : Site) (caller : Nat) (step : Gen α) (post : α → Prop) : Prop :=
  ∀ world, site.Fits caller world → world.Good site.setup →
    Keeps site.setup World.Proceeds step world fun value _ => post value

/-- The site, with another way to build the bodies of the functions that are created. -/
def withBuild (site : Site) (build : Option (Int → Gen Unit)) : Site := { site with build }

section

variable {α β : Type} {site : Site} {caller : Nat} {step other : Gen α} {post : α → Prop}

/-- Where a contract is kept, the step stays inside the body. -/
theorem Leads.of_keeps {relation : World → World → Prop} [Progress relation]
    {kept : World → α → World → Prop}
    (keeps : ∀ world, site.Fits caller world → world.Good site.setup →
      Keeps site.setup relation step world (kept world)) : site.Leads caller step fun _ => True := by
  intro world fits good
  apply Step.Ends.mono (keeps world fits good)
  · exact fun _ _ ends => ⟨ends.1, Progress.proceeds ends.2.1, trivial⟩
  · exact fun _ sound => sound

theorem Alike.of_secure (secure : Secure step) : site.Alike caller step step :=
  fun world _ _ => (secure world).agrees

theorem Alike.bind {next following : α → Gen β} (first : site.Alike caller step other)
    (leads : site.Leads caller step post)
    (second : ∀ value, post value → site.Alike caller (next value) (following value)) :
    site.Alike caller (step >>= next) (other >>= following) := by
  intro world fits good
  apply (first world fits good).ends (leads world fits good)
  rintro value after ⟨good, proceeds, holds⟩
  exact second value holds after (fits.mono proceeds) good

/-- A sequence that begins with an idle step. -/
theorem Alike.idle {next following : α → Gen β} (secure : Secure step) (idle : Idle step post)
    (second : ∀ value, post value → site.Alike caller (next value) (following value)) :
    site.Alike caller (step >>= next) (step >>= following) := by
  apply (of_secure secure).bind _ second
  intro world _ good
  exact (idle.keeps good).mono fun _ _ _ _ ends => ends.2

/-- A sequence that begins with a charge for terms. -/
theorem Alike.spendTerms {settings : Settings} {count : Int} {next following : Unit → Gen β}
    (second : site.Alike caller (next ()) (following ())) :
    site.Alike caller (spendTerms settings count >>= next) (spendTerms settings count >>= following) := by
  have leads : site.Leads caller (RandomC.spendTerms settings count) fun _ => True :=
    .of_keeps fun world _ good => (spendTerms_keeps good settings count : Keeps _ World.Proceeds _ _ _)
  exact (of_secure (secure_spendTerms settings count)).bind leads fun _ _ => second

theorem Alike.ite {next following : Gen α} {condition : Prop} [Decidable condition]
    (yes : site.Alike caller step other) (no : site.Alike caller next following) :
    site.Alike caller (if condition then step else next) (if condition then other else following) := by
  split
  · exact yes
  · exact no

/-- A step that comes to a value at once where a condition holds. -/
theorem Alike.unless {next following : Gen α} {value : α} {condition : Prop} [Decidable condition]
    (rest : ¬ condition → site.Alike caller next following) :
    site.Alike caller (if condition then return value else next)
      (if condition then return value else following) := by
  split
  · exact .of_secure .pure
  · rename_i stays
    exact rest stays

theorem Alike.map {image : α → β} (alike : site.Alike caller step other) :
    site.Alike caller (image <$> step) (image <$> other) :=
  fun world fits good => (alike world fits good).map

theorem Alike.spanning (alike : site.Alike caller step other) :
    site.Alike caller (Gen.spanning step) (Gen.spanning other) :=
  fun world fits good => (alike world fits good).spanning

theorem Alike.mapM {list : List β} {make making : β → Gen α}
    (alike : ∀ element ∈ list, site.Alike caller (make element) (making element))
    (leads : ∀ element ∈ list, site.Leads caller (make element) fun _ => True) :
    site.Alike caller (list.mapM make) (list.mapM making) := by
  induction list with
  | nil => exact .of_secure .pure
  | cons element rest ih =>
      obtain ⟨alike, others⟩ := List.forall_mem_cons.mp alike
      obtain ⟨leads, lead⟩ := List.forall_mem_cons.mp leads
      rw [List.mapM_cons, List.mapM_cons]
      apply alike.bind leads
      intro value _ world fits good
      exact (ih others lead world fits good).bind fun values after _ => (Secure.pure after).agrees

/-- An attempt that comes to nothing leads back to a state inside the body. -/
theorem Alike.attemptOr {attempt attempting : Gen (Option α)} {again following : Gen α}
    (first : site.Alike caller attempt attempting)
    (keeps : ∀ world, site.Fits caller world → world.Good site.setup →
      Keeps site.setup World.Proceeds attempt world fun made after => made = none → world.Grows after)
    (second : site.Alike caller again following) :
    site.Alike caller (Gen.attemptOr site.setup attempt again)
      (Gen.attemptOr site.setup attempting following) := by
  intro world fits good
  have remembered : Moment.Sound site.setup world.history (.saved world.checkpoint) :=
    ⟨good.aligned, good.begun⟩
  have saved := good.remember remembered
  let start : World := { world with history := .saved world.checkpoint :: world.history }
  have startFits : site.Fits caller start := fits.mono saved.2.toProceeds
  have saves : Gen.save world = (.ok start.checkpoint, start) := rfl
  apply Step.Agrees.given saves
  apply (first start startFits saved.1).ends (keeps start startFits saved.1)
  rintro made after ⟨good, proceeds, nothing⟩
  cases made with
  | some value => exact (Secure.pure after).agrees
  | none =>
      have back : (Gen.goBack site.setup start.checkpoint).Ends after _ fun _ => False :=
        goBack_ends saved.1 List.mem_cons_self good (nothing rfl)
      have secure : (Gen.goBack site.setup start.checkpoint).Safe after := fun _ => nofun
      apply secure.agrees.ends back
      intro _ last ends
      exact second last (startFits.mono ends.2.toProceeds) ends.1

end

/-! ## Expressions -/

/-- The two ways in which the site and its variant create a function and build its body agree. -/
def CreatesAlike (site : Site) (caller : Nat) (build : Option (Int → Gen Unit)) : Prop :=
  ∀ type, site.setup.Knows type →
    site.Alike caller (site.createCallee type) ((site.withBuild build).createCallee type)

/-- The ways to meet requests for known types agree. -/
def MakesAlike (site : Site) (caller : Nat) (inner other : Inner) : Prop :=
  ∀ request, site.setup.Knows request.type → site.Alike caller (inner request) (other request)

section

variable {site : Site} {caller : Nat} {build : Option (Int → Gen Unit)} {world : World} {type : CType}
variable {inner other : Inner} {request : Request} {depth : Int}

theorem Makes.leads (makes : site.Makes caller inner) (request : Request)
    (known : site.setup.Knows request.type) : site.Leads caller (inner request) fun _ => True :=
  .of_keeps fun world fits good => makes request world known fits good

/-- A sequence that begins with the expression that meets a request. -/
theorem MakesAlike.bind {α : Type} {next following : Expr → Gen α} (alike : site.MakesAlike caller inner other)
    (makes : site.Makes caller inner) (request : Request) (known : site.setup.Knows request.type)
    (second : ∀ expr, site.Alike caller (next expr) (following expr)) :
    site.Alike caller (inner request >>= next) (other request >>= following) :=
  (alike request known).bind (makes.leads request known) fun expr _ => second expr

theorem assignTerm_alike (alike : site.MakesAlike caller inner other) (makes : site.Makes caller inner)
    (known : site.setup.Knows type) :
    site.Alike caller (site.assignTerm inner type) ((site.withBuild build).assignTerm other type) := by
  have place (value : Expr) : Secure (do
      let band ← drawBand site.settings
      let candidates ← scopedCandidates site.setup site.scope band
      if candidates.isEmpty && (band == .globals || band == .fresh) then
        let created ← createGlobal site.setup type true
        return some (.assign type created.place value)
      let candidates ← orAllCandidates site.setup site.scope candidates
      return (← selectPlace type candidates true).map fun candidate => .assign type candidate.place value :
      Gen (Option Expr)) := by
    apply (secure_drawBand _).bind
    intro band
    apply (secure_scopedCandidates _ band).bind
    intro candidates
    split
    · exact (secure_createGlobal type true).bind fun _ => .pure
    · apply (secure_orAllCandidates _ candidates).bind
      intro candidates
      exact (calm_selectPlace type candidates true).secure.bind fun _ => .pure
  apply Alike.idle calm_beforeAssignment.secure idle_beforeAssignment
  intro _ _
  apply Alike.spendTerms
  apply alike.bind makes (.plain type) known
  exact fun value => .of_secure (place value)

theorem commaTerm_alike (alike : site.MakesAlike caller inner other) (makes : site.Makes caller inner)
    (known : site.setup.Knows type) :
    site.Alike caller (site.commaTerm inner type) ((site.withBuild build).commaTerm other type) := by
  have secure : Secure (site.commaType type) := by
    unfold commaType
    split
    · exact (calm_chooseType type).secure
    · exact .pure
  apply Alike.idle secure (idle_commaType known)
  intro leftType knownLeft
  apply Alike.spendTerms
  apply alike.bind makes ⟨leftType, false, false, true⟩ knownLeft
  intro left
  apply alike.bind makes (.plain type) known
  exact fun right => .of_secure .pure

theorem operatorForm_alike (alike : site.MakesAlike caller inner other) (makes : site.Makes caller inner)
    (known : site.setup.Knows type) :
    site.Alike caller (site.operatorForm inner type) ((site.withBuild build).operatorForm other type) := by
  apply Alike.unless
  intro _
  apply Alike.idle (calm_coin 80).secure (idle_coin 80)
  intro wanted _
  apply Alike.unless
  intro _
  apply Alike.idle (calm_coin 5).secure (idle_coin 5)
  intro unary _
  apply Alike.ite
  · apply Alike.idle calm_beforeComplement.secure idle_beforeComplement
    intro _ _
    apply alike.bind makes (.plain type) known
    exact fun operand => .of_secure .pure
  · apply Alike.idle calm_beforeXor.secure idle_beforeXor
    intro _ _
    apply alike.bind makes (.plain type) known
    intro left
    apply alike.bind makes (.plain type) known
    exact fun right => .of_secure .pure

theorem callee_alike (creates : site.CreatesAlike caller build) (known : site.setup.Knows type) :
    site.Alike caller (site.callee type) ((site.withBuild build).callee type) := by
  intro world fits good
  apply Step.Agrees.get
  rw [fits.running]
  dsimp only
  generalize ((world.flow.functions.length : Int) - (caller + 1)).toNat = count
  have reused : Secure (do return some ((caller : Int) + 1 + (← Step.below count)) : Gen (Option Int)) :=
    (calm_below count).secure.bind fun _ => .pure
  refine Alike.idle calm_reuseCallee.secure idle_reuseCallee ?_ world fits good
  intro reuse _
  apply Alike.ite (.of_secure reused)
  apply Alike.unless
  intro _
  have leads : site.Leads caller (site.createCallee type) fun _ => True :=
    .of_keeps fun world fits good => createCallee_keeps fits good known
  apply (creates type known).bind leads
  intro created _
  cases created with
  | some index => exact .of_secure .pure
  | none =>
      apply Alike.ite (.of_secure reused)
      intro world fits good
      apply Step.Agrees.given (functionAt_apply (List.getElem?_eq_getElem fits.bound))
      exact ((secure_report _).bind fun _ => Secure.pure) world |>.agrees

theorem arguments_alike {params : List Variable} (alike : site.MakesAlike caller inner other)
    (makes : site.Makes caller inner) (known : ∀ param ∈ params, site.setup.Knows param.type) :
    site.Alike caller (params.mapM fun param => inner (.forArgument param.type))
      (params.mapM fun param => other (.forArgument param.type)) := by
  apply Alike.mapM
  · exact fun param member => alike (.forArgument param.type) (known param member)
  · exact fun param member => makes.leads (.forArgument param.type) (known param member)

theorem callTerm_alike (creates : site.CreatesAlike caller build)
    (alike : site.MakesAlike caller inner other) (makes : site.Makes caller inner)
    (known : site.setup.Knows type) :
    site.Alike caller (site.callTerm inner type) ((site.withBuild build).callTerm other type) := by
  intro world fits good
  apply (callee_alike creates known world fits good).ends (callee_keeps fits good known)
  rintro made start ⟨good, grows, callable⟩
  have fits := fits.mono grows.toProceeds
  cases made with
  | none => exact (Secure.pure start).agrees
  | some index =>
      obtain ⟨position, rfl, later, bound⟩ := callable index rfl
      obtain ⟨good, grows⟩ := good.remember (fits.called good ⟨later, bound⟩)
      let now : World := { start with history := .called position start.checkpoint :: start.history }
      have remembers : Gen.remember (.called position start.checkpoint) start = (.ok (), now) := rfl
      apply Step.Agrees.get
      apply Step.Agrees.given remembers
      have fits : site.Fits caller now := fits.mono grows.toProceeds
      have found : now.flow.functions[position]? = _ := List.getElem?_eq_getElem bound
      generalize start.flow.functions[position] = signature at found
      have params := (good.formed.functions _ (List.mem_of_getElem? found)).2
      apply Step.Agrees.given (functionAt_apply found)
      refine Alike.spendTerms ?_ _ fits good
      intro world fits good
      exact (arguments_alike alike makes params world fits good).bind fun _ after _ =>
        (Secure.pure after).agrees

theorem functionTerm_alike (creates : site.CreatesAlike caller build)
    (alike : site.MakesAlike caller inner other) (makes : site.Makes caller inner)
    (known : site.setup.Knows type) :
    site.Alike caller (site.functionTerm inner depth type)
      ((site.withBuild build).functionTerm other depth type) := by
  have call : site.Alike caller
      (if depth < maxLevels site.settings then site.callTerm inner type else return none)
      (if depth < maxLevels site.settings then (site.withBuild build).callTerm other type
        else return none) :=
    .ite (callTerm_alike creates alike makes known) (.of_secure .pure)
  apply Alike.ite _ call
  have leads : site.Leads caller (site.operatorForm inner type) fun _ => True :=
    .of_keeps fun world fits good => operatorForm_keeps makes fits good known
  apply (operatorForm_alike alike makes known).bind leads
  intro made _
  cases made with
  | some expr => exact .of_secure .pure
  | none => exact call

/-- There are expressions inside a term with the one site where there are with the other, and they are made
alike. -/
inductive InsideAlike (site : Site) (caller : Nat) : Option Inner → Option Inner → Prop
  | none : site.InsideAlike caller none none
  | some {inner other : Inner} (alike : site.MakesAlike caller inner other)
      (makes : site.Makes caller inner) : site.InsideAlike caller (some inner) (some other)

theorem InsideAlike.makes {inner other : Option Inner} (inside : site.InsideAlike caller inner other) :
    site.MakesInside caller inner := by
  cases inside with
  | none => exact nofun
  | some alike makes =>
      rintro _ ⟨⟩
      exact makes

theorem term_alike {inner other : Option Inner} (creates : site.CreatesAlike caller build)
    (inside : site.InsideAlike caller inner other) (known : site.setup.Knows type) (kind : Term) :
    site.Alike caller (site.term inner depth type kind)
      ((site.withBuild build).term other depth type kind) := by
  cases inside with
  | none =>
      cases kind with
      | constant => exact .of_secure secure_constant.map
      | read => exact .of_secure secure_readTerm
      | call => exact .of_secure .pure
      | assign => exact .of_secure .pure
      | comma => exact .of_secure .pure
  | some alike makes =>
      cases kind with
      | constant => exact .of_secure secure_constant.map
      | read => exact .of_secure secure_readTerm
      | call => exact functionTerm_alike creates alike makes known
      | assign => exact assignTerm_alike alike makes known
      | comma => exact (commaTerm_alike alike makes known).map

theorem attempts_alike {inner other : Option Inner} {closed : Bool} (creates : site.CreatesAlike caller build)
    (inside : site.InsideAlike caller inner other) (known : site.setup.Knows request.type) (left : Nat) :
    site.Alike caller (site.attempts (site.term inner depth request.type) request closed left)
      ((site.withBuild build).attempts ((site.withBuild build).term other depth request.type) request closed
        left) := by
  induction left with
  | zero => exact .of_secure secure_constant
  | succ left ih =>
      apply Alike.attemptOr _ _ ih
      · apply Alike.idle (secure_chooseTerm _ _ _) (idle_chooseTerm _ _ _)
        intro kind _
        cases kind with
        | some kind => exact term_alike creates inside known kind
        | none => exact .of_secure .pure
      · intro world fits good
        exact ((attempt_keeps inside.makes fits good known).mono fun made _ _ grows _ (_ : made = none) =>
          grows).proceeds

theorem oneTerm_alike {inner other : Option Inner} (creates : site.CreatesAlike caller build)
    (inside : site.InsideAlike caller inner other) (known : site.setup.Knows request.type) :
    site.Alike caller (site.oneTerm inner depth request)
      ((site.withBuild build).oneTerm other depth request) := by
  have same : other.isNone = inner.isNone := by cases inside <;> rfl
  unfold oneTerm
  rw [same]
  apply Alike.idle (secure_termsExhausted _) (idle_termsExhausted _)
  exact fun exhausted _ => attempts_alike creates inside known 6

theorem budgeted_alike (alike : site.MakesAlike caller inner other) :
    site.MakesAlike caller (fun request => site.budgeted depth request (inner request))
      fun request => (site.withBuild build).budgeted depth request (other request) := by
  intro request known
  apply Alike.ite (alike request known)
  intro world fits good
  have opened : world.Still (world.openTerms site.settings).2 := by
    simp only [World.openTerms]
    split <;> exact ⟨rfl, rfl, rfl⟩
  exact (alike request known _ (fits.still opened) (opened.good good)).withTerms

/-- Induction on the number of levels that may still be opened. -/
theorem leaf_alike (creates : site.CreatesAlike caller build) (levels : Nat) (depth : Int) :
    site.MakesAlike caller (site.leaf levels depth) ((site.withBuild build).leaf levels depth) := by
  induction levels generalizing depth with
  | zero =>
      intro request known
      rw [leaf, leaf]
      exact (oneTerm_alike creates .none known).spanning
  | succ levels ih =>
      intro request known
      rw [leaf, leaf]
      have makes : site.Makes caller _ := budgeted_keeps (depth + 1) (leaf_makes levels (depth + 1))
      exact (oneTerm_alike creates (.some (budgeted_alike (ih (depth + 1))) makes) known).spanning

theorem expression_alike (creates : site.CreatesAlike caller build) :
    site.MakesAlike caller site.expression (site.withBuild build).expression := by
  intro request known
  have makes : site.Makes caller (site.inner 0) := budgeted_keeps 0 (leaf_makes _ 0)
  have alike : site.MakesAlike caller (site.inner 0) ((site.withBuild build).inner 0) :=
    budgeted_alike (leaf_alike creates _ 0)
  exact alike.bind makes request known fun expr =>
    .of_secure (Secure.modify.bind fun _ => .pure)

end

/-! ## Statements -/

/-- The ways to make blocks inside a statement agree. -/
def BlocksAlike (site : Site) (caller : Nat) (nested other : Nested) : Prop :=
  ∀ inLoop, site.Alike caller (nested inLoop) (other inLoop)

section

variable {site : Site} {caller : Nat} {build : Option (Int → Gen Unit)} {nested other : Nested}
variable {depth : Int} {inLoop : Bool}

theorem secure_recordChange (place : Place) (type : CType) : Secure (recordChange place type) := .modify

/-- A sequence that begins with a whole expression. -/
theorem CreatesAlike.expression {α : Type} {next following : Expr → Gen α}
    (creates : site.CreatesAlike caller build) (request : Request) (known : site.setup.Knows request.type)
    (second : ∀ expr, site.Alike caller (next expr) (following expr)) :
    site.Alike caller (site.expression request >>= next)
      ((site.withBuild build).expression request >>= following) :=
  (expression_alike creates).bind expression_makes request known second

theorem assignStatement_alike (creates : site.CreatesAlike caller build) :
    site.Alike caller site.assignStatement (site.withBuild build).assignStatement := by
  intro world fits good
  have place := assignable_eq fits
  have same : (site.withBuild build).assignable = site.assignable := rfl
  rw [assignStatement, assignStatement, same, place, pure_bind, pure_bind]
  refine creates.expression (.plain .uint32) .uint32 (fun value => .of_secure ?_) world fits good
  apply (calm_decideIf (calm_oneIn 2)).secure.bind
  intro compound
  exact (secure_recordChange _ _).bind fun _ => .pure

theorem condition_alike (creates : site.CreatesAlike caller build) :
    site.Alike caller site.condition (site.withBuild build).condition := by
  apply Alike.idle (calm_below 7).secure (idle_below 7)
  intro mask _
  apply Alike.idle (calm_decideIf (calm_oneIn 5)).secure (idle_decideIf (idle_oneIn 5))
  intro constant _
  apply Alike.ite (.of_secure ((secure_draw _).bind fun _ => .pure))
  apply Alike.idle (calm_oneIn 3).secure (idle_oneIn 3)
  intro nonzero _
  apply Alike.ite _ (.of_secure .pure)
  exact creates.expression ⟨.uint32, false, false, _⟩ .uint32 fun value => .of_secure .pure

theorem updateStatement_alike (creates : site.CreatesAlike caller build) :
    site.Alike caller site.updateStatement (site.withBuild build).updateStatement := by
  apply Alike.unless
  intro some
  have inhabited : site.setup.env.arrays ≠ [] := fun empty => by simp [empty] at some
  apply Alike.idle (calm_choose inhabited).secure (idle_choose _)
  intro v member
  apply creates.expression (.plain v.type) (.array member)
  exact fun value => .of_secure ((secure_recordChange _ _).bind fun _ => .pure)

theorem branch_alike (creates : site.CreatesAlike caller build)
    (alike : site.BlocksAlike caller nested other) (makes : site.MakesBlocks caller nested) :
    site.Alike caller (site.statementOf (some nested) .branch)
      ((site.withBuild build).statementOf (some other) .branch) := by
  have condition : site.Leads caller site.condition fun _ => True :=
    .of_keeps fun world fits good => condition_keeps fits good
  have block : site.Leads caller (nested false) fun _ => True :=
    .of_keeps fun world fits good => makes false world fits good
  apply (condition_alike creates).bind condition
  intro condition _
  apply (alike false).bind block
  intro yes _
  exact (alike false).bind block fun no _ => .of_secure .pure

theorem loop_alike (alike : site.BlocksAlike caller nested other) (makes : site.MakesBlocks caller nested) :
    site.Alike caller (site.statementOf (some nested) .loop)
      ((site.withBuild build).statementOf (some other) .loop) := by
  have block : site.Leads caller (nested true) fun _ => True :=
    .of_keeps fun world fits good => makes true world fits good
  apply Alike.idle (calm_below 5).secure (idle_below 5)
  intro bound _
  exact (alike true).bind block fun body _ => .of_secure .pure

/-- There are blocks inside a statement with the one site where there are with the other, and they are made
alike. -/
inductive BlocksInsideAlike (site : Site) (caller : Nat) : Option Nested → Option Nested → Prop
  | none : site.BlocksInsideAlike caller none none
  | some {nested other : Nested} (alike : site.BlocksAlike caller nested other)
      (makes : site.MakesBlocks caller nested) : site.BlocksInsideAlike caller (some nested) (some other)

theorem BlocksInsideAlike.makes {nested other : Option Nested}
    (inside : site.BlocksInsideAlike caller nested other) : site.MakesBlocksInside caller nested := by
  cases inside with
  | none => exact nofun
  | some alike makes =>
      rintro _ ⟨⟩
      exact makes

theorem statementOf_alike {nested other : Option Nested} (creates : site.CreatesAlike caller build)
    (inside : site.BlocksInsideAlike caller nested other) (kind : StatementKind) :
    site.Alike caller (site.statementOf nested kind) ((site.withBuild build).statementOf other kind) := by
  cases kind with
  | assign => exact (assignStatement_alike creates).map
  | branch =>
      cases inside with
      | none => exact .of_secure .pure
      | some alike makes => exact branch_alike creates alike makes
  | loop =>
      cases inside with
      | none => exact .of_secure .pure
      | some alike makes => exact loop_alike alike makes
  | leave => exact .of_secure .pure
  | nextRound => exact .of_secure .pure
  | leaveLoop => exact .of_secure .pure
  | jump => exact .of_secure .pure
  | updateElement => exact updateStatement_alike creates

theorem statement_alike {nested other : Option Nested} (creates : site.CreatesAlike caller build)
    (inside : site.BlocksInsideAlike caller nested other) :
    site.Alike caller (site.statement nested depth inLoop)
      ((site.withBuild build).statement other depth inLoop) := by
  have charges : site.Leads caller chargeStatement fun _ => True :=
    .of_keeps fun _ _ good => chargeStatement_keeps good
  intro world fits good
  apply Step.Agrees.get
  refine Alike.unless (fun _ => ?_) world fits good
  apply (Alike.of_secure secure_chargeStatement).bind charges
  intro _ _
  apply Alike.idle (secure_chooseKind _ _) (idle_chooseKind _ _)
  exact fun kind _ => (statementOf_alike creates inside kind).map

/-- The ways to attempt some statements agree. -/
structure AttemptsAlike (site : Site) (caller : Nat) (make other : Gen (Option Block)) : Prop where
  alike : site.Alike caller make other
  makes : site.MakesStatements caller make

theorem statementAttempts_alike {make other : Gen (Option Block)}
    (attempts : site.AttemptsAlike caller make other) (left : Nat) :
    site.Alike caller (site.statementAttempts make left)
      ((site.withBuild build).statementAttempts other left) := by
  induction left with
  | zero => exact .of_secure secure_fillBlock
  | succ left ih =>
      apply Alike.attemptOr attempts.alike _ ih
      exact fun world fits good => (attempts.makes world fits good).mono fun _ _ _ _ admits => admits.2

theorem statements_alike {make other : Gen (Option Block)}
    (attempts : site.AttemptsAlike caller make other) (count : Nat) :
    site.Alike caller (site.statements make count) ((site.withBuild build).statements other count) := by
  induction count with
  | zero => exact .of_secure .pure
  | succ count ih =>
      have first : site.Leads caller (site.statementAttempts make 8) fun _ => True :=
        .of_keeps fun world fits good => statementAttempts_keeps attempts.makes 8 fits good
      have rest : site.Leads caller (site.statements make count) fun _ => True :=
        .of_keeps fun world fits good => statements_keeps attempts.makes count fits good
      intro world fits good
      apply Step.Agrees.get
      refine Alike.ite (.of_secure ((secure_report _).bind fun _ => .pure)) ?_ world fits good
      apply (statementAttempts_alike attempts 8).bind first
      intro block _
      exact ih.bind rest fun others _ => .of_secure .pure

theorem blockOf_alike {nested other : Option Nested} (creates : site.CreatesAlike caller build)
    (inside : site.BlocksInsideAlike caller nested other) :
    site.Alike caller (site.blockOf nested depth inLoop)
      ((site.withBuild build).blockOf other depth inLoop) := by
  have attempts : site.AttemptsAlike caller (site.statement nested depth inLoop)
      ((site.withBuild build).statement other depth inLoop) :=
    ⟨statement_alike creates inside, fun _ fits good => statement_keeps inside.makes fits good⟩
  intro world fits good
  apply Step.Agrees.get
  refine Alike.unless (fun _ => ?_) world fits good
  apply Alike.idle (calm_below _).secure (idle_below _)
  exact fun more _ => statements_alike attempts _

/-- Induction on the number of levels that blocks may still be nested. -/
theorem blockWithin_alike (creates : site.CreatesAlike caller build) (levels : Nat) (depth : Int) :
    site.BlocksAlike caller (site.blockWithin levels depth)
      ((site.withBuild build).blockWithin levels depth) := by
  induction levels generalizing depth with
  | zero =>
      intro inLoop
      rw [blockWithin, blockWithin]
      exact (blockOf_alike creates .none).spanning
  | succ levels ih =>
      intro inLoop
      rw [blockWithin, blockWithin]
      exact (blockOf_alike creates (.some (ih (depth + 1)) (blockWithin_makes levels (depth + 1)))).spanning

theorem mix_alike (creates : site.CreatesAlike caller build) :
    site.Alike caller site.mix (site.withBuild build).mix := by
  apply Alike.unless
  intro some
  have inhabited : site.setup.env.writable ≠ [] := fun empty => by simp [empty] at some
  apply Alike.idle (calm_choose inhabited).secure (idle_choose _)
  intro v member
  apply creates.expression (.plain v.type) (.global (List.mem_filter.mp member).1)
  exact fun value => .of_secure .pure

end

end Site

end RandomC
