import RandomC.Proofs.BodyShape

/-!
# The number of terms of an expression

Where expressions are not replayed exactly, a whole one has a budget of terms.  A term charges those it needs
before they are made, whether the budget holds as much or not, and a charge is not given back where the term
comes to nothing.  Whether the budget is used up is looked at once, before the first attempt at a term, so
that later attempts may overdraw it; but whatever is made where it is overdrawn has no terms inside.  Hence
one charge at most is not covered, which is that of two expressions in a comma or of the arguments of a call.
-/

namespace RandomC

/-! ## Terms -/

mutual

/-- The number of terms of an expression. -/
def Expr.terms : Expr → Nat
  | .literal .. | .read .. => 1
  | .call _ _ arguments => termsOf arguments + 1
  | .assign _ _ value => value.terms + 1
  | .comma _ left right => left.terms + right.terms + 1
  | .complement _ operand => operand.terms + 1
  | .xor _ left right => left.terms + right.terms + 1

/-- The number of terms of some expressions. -/
def termsOf : List Expr → Nat
  | [] => 0
  | expr :: rest => expr.terms + termsOf rest

end

/-- An expression of one level is one term. -/
theorem Expr.Shaped.terms_eq_one {settings : Settings} {whole : Bool} {expr : Expr}
    (shaped : expr.Shaped settings whole 1) : expr.terms = 1 := by
  have deeper {other : Expr} : ¬ other.Shaped settings false 0 := nofun
  cases shaped with
  | literal => rfl
  | read => rfl
  | @call _ _ _ _ arguments inside =>
      cases arguments with
      | nil => rfl
      | cons argument _ => exact absurd (inside argument List.mem_cons_self) deeper
  | assign _ inside => exact absurd inside deeper
  | comma _ leftInside => exact absurd leftInside deeper
  | complement _ inside => exact absurd inside deeper
  | xor _ leftInside => exact absurd leftInside deeper

/-! ## Charges -/

/-- Between two amounts of the budget, so many terms were made that are not the first one of an expression.
They were charged for, and unless the budget was used up before, at most one charge was not covered. -/
structure Paid (most before after inside : Int) : Prop where
  least : 0 ≤ inside
  charged : inside ≤ before - after
  covered : 0 < before → inside ≤ before - 1 + most
  none : before ≤ 0 → inside ≤ 0

/-- An attempt does not look whether the budget is used up, but what it is made of does. -/
structure Tried (most before after inside : Int) : Prop where
  least : 0 ≤ inside
  charged : inside ≤ before - after
  covered : inside ≤ most + max 0 (before - 1)

section

variable {most before between after inside more count : Int}

/-- Nothing is paid for with nothing. -/
theorem Paid.nothing (allowed : 0 ≤ most) (less : after ≤ before) : Paid most before after 0 :=
  ⟨Int.le_refl 0, by omega, by omega, fun _ => Int.le_refl 0⟩

theorem Paid.trans (first : Paid most before between inside) (second : Paid most between after more) :
    Paid most before after (inside + more) where
  least := Int.add_nonneg first.least second.least
  charged := by
    have charged := first.charged
    have chargedMore := second.charged
    omega
  covered positive := by
    have charged := first.charged
    have covered := first.covered positive
    by_cases left : 0 < between
    · have coveredMore := second.covered left
      omega
    · have none := second.none (Int.not_lt.mp left)
      omega
  none used := by
    have least := first.least
    have charged := first.charged
    have none := first.none used
    have noMore := second.none (by omega)
    omega

/-- A term charges what it needs before that is made. -/
theorem Paid.charge (paid : Paid most (before - count) after inside) (least : 0 ≤ count)
    (bound : count ≤ most) : Tried most before after (count + inside) where
  least := Int.add_nonneg least paid.least
  charged := by
    have charged := paid.charged
    omega
  covered := by
    by_cases left : 0 < before - count
    · have covered := paid.covered left
      omega
    · have none := paid.none (Int.not_lt.mp left)
      omega

/-- Where the budget was not used up, an attempt is covered, also after others that charged for nothing. -/
theorem Tried.paid (tried : Tried most between after inside) (left : 0 < before) (less : between ≤ before) :
    Paid most before after inside where
  least := tried.least
  charged := by
    have charged := tried.charged
    omega
  covered _ := by
    have covered := tried.covered
    omega
  none used := absurd left (Int.not_lt.mpr used)

end

/-! ## Terse states -/

/-- So many terms are in a whole expression at most, where they are limited. -/
def mostTerms (settings : Settings) : Int := termBudget settings + max 2 settings.maxParams

/-- A whole expression that was completed at the moment has not too many terms. -/
def Moment.Terse (settings : Settings) : Moment → Prop
  | .expressed expr => (expr.terms : Int) ≤ mostTerms settings
  | _ => True

/-- No function has more parameters than wanted, and no whole expression had too many terms so far. -/
structure World.Terse (setup : Setup) (world : World) : Prop where
  functions : ∀ signature ∈ world.flow.functions,
    (signature.params.length : Int) ≤ max 0 setup.settings.maxParams
  moments : ∀ moment ∈ world.history, moment.Terse setup.settings

section

variable {setup : Setup} {world before after : World}

theorem World.Terse.resembles (terse : before.Terse setup) (resembles : before.Resembles after) :
    after.Terse setup where
  functions := resembles.functions ▸ terse.functions
  moments := resembles.history ▸ terse.moments

theorem World.Terse.remember {moment : Moment} (terse : world.Terse setup)
    (added : moment.Terse setup.settings) : (world.remembering moment).Terse setup :=
  ⟨terse.functions, List.forall_mem_cons.mpr ⟨added, terse.moments⟩⟩

theorem World.Terse.creates {signature : Signature} (terse : before.Terse setup)
    (creates : before.Creates setup signature after) : after.Terse setup where
  functions := by
    rw [creates.functions, List.forall_mem_append]
    exact ⟨terse.functions, List.forall_mem_singleton.mpr creates.params⟩
  moments := by
    rcases creates.history with remembered | ⟨-, -, none⟩
    · rw [remembered]
      exact List.forall_mem_cons.mpr ⟨trivial, terse.moments⟩
    · simp [none]

theorem World.Terse.returns {start now : World} (terse : start.Terse setup) (later : now.Terse setup)
    (returns : start.Returns now after) : after.Terse setup where
  functions := returns.functions ▸ terse.functions
  moments := by
    rw [returns.history]
    exact List.forall_mem_cons.mpr ⟨trivial, later.moments⟩

/-- The policy under which expressions are terse.  Outside of them the budget of terms stays as it is. -/
def steady (setup : Setup) : Policy where
  inv := World.Terse setup
  rel _ before after := after.remaining = before.remaining
  failed world := ∀ moment ∈ world.history, moment.Terse setup.settings
  trans _ first second := second.trans first
  failing terse := terse.moments
  stopping moments _ history := history ▸ moments
  matching terse matched := ⟨terse.resembles matched.toResembles, matched.remaining⟩
  saving terse := ⟨terse.remember trivial, rfl⟩
  completing _ terse _ _ := ⟨terse.remember trivial, rfl⟩
  returning terse later _ same returns := ⟨terse.returns later returns, returns.remaining.trans same⟩

theorem steady_building (setup : Setup) (shaped : Definition → Prop) : (steady setup).Building setup shaped where
  beginning {world} terse _ := by
    have begun : world.beginning.Terse setup :=
      ⟨terse.functions, List.forall_mem_cons.mpr ⟨trivial, terse.moments⟩⟩
    exact ⟨begun, rfl⟩
  filling terse _ := ⟨World.Terse.remember terse trivial, rfl⟩
  entering _ governs creates := (World.Terse.creates governs.kept creates).remember trivial
  defining {_ before created _ last _ definition} _ creates matched governs relates _ := by
    have terse : last.Terse setup := governs.kept
    have completed : Moment.Terse setup.settings (.completed created.checkpoint last.checkpoint) := trivial
    have defined : Moment.Terse setup.settings (.defined before.flow.functions.length definition) := trivial
    have terse := (terse.remember completed).remember defined
    exact ⟨⟨terse.functions, terse.moments⟩,
      relates.related.trans (matched.remaining.trans creates.remaining)⟩

end

theorem steady_resembling {setup : Setup} {before after : World} (governs : (steady setup).Governs before)
    (resembles : before.Resembles after) : (steady setup).Governs after :=
  ⟨World.Terse.resembles governs.kept resembles, resembles.paired governs.paired⟩

/-! ## Steps that use terms -/

/-- The step adds functions at most, and the amount that it leaves of the budget satisfies, with the value,
the postcondition. -/
def Uses {α : Type} (setup : Setup) (step : Gen α) (world : World) (post : Int → α → Prop) : Prop :=
  step.Ends world (fun value after => ((steady setup).Governs after ∧ world.Lengthens after) ∧
    post after.remaining value) (steady setup).failed

section

variable {α β : Type} {setup : Setup} {step : Gen α} {world : World} {post : Int → α → Prop}

theorem Uses.pure {value : α} (governs : (steady setup).Governs world) (holds : post world.remaining value) :
    Uses setup (pure value) world post :=
  ⟨⟨governs, .refl world⟩, holds⟩

theorem Uses.mono {weaker : Int → α → Prop} (uses : Uses setup step world post)
    (weaken : ∀ left value, post left value → weaker left value) : Uses setup step world weaker :=
  Step.Ends.mono uses (fun value _ ends => ⟨ends.1, weaken _ value ends.2⟩) fun _ failed => failed

theorem Uses.bind {next : α → Gen β} {final : Int → β → Prop} (first : Uses setup step world post)
    (second : ∀ value after, (steady setup).Governs after → post after.remaining value →
      Uses setup (next value) after final) : Uses setup (step >>= next) world final := by
  apply Step.ends_bind.mpr
  apply Step.Ends.mono first
  · rintro value after ⟨⟨governs, lengthens⟩, holds⟩
    apply Step.Ends.mono (second value after governs holds)
    · exact fun _ _ ends => ⟨⟨ends.1.1, lengthens.trans ends.1.2⟩, ends.2⟩
    · exact fun _ failed => failed
  · exact fun _ failed => failed

theorem Uses.get {next : World → Gen α} (uses : Uses setup (next world) world post) :
    Uses setup (get >>= next) world post :=
  Step.ends_bind.mpr uses

theorem Uses.map {image : α → β} {final : Int → β → Prop}
    (uses : Uses setup step world fun left value => final left (image value)) :
    Uses setup (image <$> step) world final :=
  Step.ends_map.mpr uses

theorem Uses.of_holds {always : α → Prop} (holds : (steady setup).regime.Holds step always)
    (governs : (steady setup).Governs world) :
    Uses setup step world fun left value => left = world.remaining ∧ always value := by
  apply Step.Ends.mono (holds world governs)
  · rintro value after ⟨_, leads, rfl, held⟩
    exact ⟨⟨leads.kept, leads.related.functions, leads.related.definitions⟩, leads.related.related, held⟩
  · exact fun _ failed => failed

theorem Uses.spendTerms {settings : Settings} (limited : settings.exactReplay = false)
    (governs : (steady setup).Governs world) (count : Int) :
    Uses setup (spendTerms settings count) world fun left _ => left = world.remaining - count := by
  simp only [Uses, RandomC.spendTerms, limited, Bool.false_eq_true, if_false, Step.ends_modify]
  have same : world.Resembles { world with remaining := world.remaining - count } := ⟨rfl, rfl, rfl, rfl, rfl⟩
  exact ⟨⟨steady_resembling governs same, same.lengthens⟩, trivial⟩

/-- A sequence that begins with a moment. -/
theorem Uses.remember {moment : Moment} {next : Unit → Gen α} (governs : (steady setup).Governs world)
    (added : moment.Terse setup.settings)
    (second : ∀ after, (steady setup).Governs after → after.remaining = world.remaining →
      Uses setup (next ()) after post) :
    Uses setup (Gen.remember moment >>= next) world post := by
  have terse : (world.remembering moment).Terse setup := World.Terse.remember governs.kept added
  have remembered : Uses setup (Gen.remember moment) world fun left _ => left = world.remaining :=
    ⟨⟨⟨terse, governs.paired.built, governs.paired.definitions⟩, List.prefix_rfl, List.prefix_rfl⟩, rfl⟩
  exact remembered.bind fun _ => second

theorem Uses.spanning (uses : Uses setup step world post) : Uses setup (Gen.spanning step) world post := by
  simp only [Uses, Gen.spanning, Gen.remember, Step.ends_bind, Step.ends_get]
  apply Step.Ends.mono uses
  · rintro value after ⟨⟨governs, lengthens⟩, holds⟩
    have terse : after.Terse setup := governs.kept
    exact ⟨⟨⟨terse.remember trivial, governs.paired.built, governs.paired.definitions⟩, lengthens.functions,
      lengthens.definitions⟩, holds⟩
  · exact fun _ failed => failed

/-- What was charged in an attempt that comes to nothing is not given back. -/
theorem Uses.attemptOr {attempt : Gen (Option α)} {again : Gen α} (governs : (steady setup).Governs world)
    (first : ∀ start, (steady setup).Governs start → start.remaining = world.remaining →
      Uses setup attempt start fun left made =>
        left ≤ world.remaining ∧ ∀ value, made = some value → post left value)
    (second : ∀ back, (steady setup).Governs back → back.remaining ≤ world.remaining →
      Uses setup again back post) :
    Uses setup (Gen.attemptOr setup attempt again) world post := by
  have saved := (governs.remember ((steady setup).saving governs.kept)).1
  simp only [Uses, Gen.attemptOr, Gen.save, Gen.remember, Step.ends_bind, Step.ends_get, Step.ends_modify,
    Step.ends_pure]
  apply Step.Ends.mono (first _ saved rfl)
  · rintro made after ⟨⟨afterGoverns, lengthens⟩, less, holds⟩
    cases made with
    | some value => exact ⟨⟨afterGoverns, lengthens.functions, lengthens.definitions⟩, holds value rfl⟩
    | none =>
        simp only [Gen.goBack, Gen.remember, Step.ends_bind, Step.ends_modify, Step.ends_get]
        have back := lengthens.returning setup saved.paired afterGoverns.paired
        have backGoverns : (steady setup).Governs
            ((world.remembering (.saved world.checkpoint)).returning setup after) :=
          ⟨World.Terse.returns saved.kept afterGoverns.kept back.1, back.2⟩
        apply Step.Ends.mono (second _ backGoverns less)
        · rintro value last ⟨⟨lastGoverns, further⟩, holds⟩
          have functions := further.functions
          have definitions := further.definitions
          rw [back.1.functions] at functions
          rw [back.1.definitions] at definitions
          exact ⟨⟨lastGoverns, functions, definitions⟩, holds⟩
        · exact fun _ failed => failed
  · exact fun _ failed => failed

end

/-! ## Expressions -/

/-- The attempt charged for what it was worth, and if it made an expression, for the terms inside. -/
def Trial (most before left : Int) (made : Option Expr) : Prop :=
  left ≤ before ∧ ∀ expr, made = some expr → Tried most before left (expr.terms - 1)

theorem Trial.none {most before left : Int} (less : left ≤ before) : Trial most before left none :=
  ⟨less, nofun⟩

theorem Tried.trial {most before left inside : Int} {expr : Expr} (tried : Tried most before left inside)
    (terms : (expr.terms : Int) - 1 = inside) : Trial most before left (some expr) := by
  refine ⟨?_, ?_⟩
  · have least := tried.least
    have charged := tried.charged
    omega
  · rintro _ ⟨⟩
    exact terms ▸ tried

/-- An attempt at a single term charges nothing. -/
theorem Trial.single {most before left : Int} {made : Option Expr} (allowed : 0 ≤ most)
    (single : left = before ∧ IfSome (fun expr => expr.terms = 1) made) : Trial most before left made := by
  obtain ⟨rfl, single⟩ := single
  cases made with
  | none => exact .none (Int.le_refl left)
  | some expr =>
      have terms := single expr rfl
      exact Tried.trial ⟨Int.le_refl 0, by omega, by omega⟩ (by omega)

namespace Site

section

variable {site : Site} {most : Int} {world : World} {type : CType} {inner : Inner} {depth : Int}

theorem constant_single (governs : (steady site.setup).Governs world) :
    Uses site.setup (site.constant type) world fun left expr => left = world.remaining ∧ expr.terms = 1 := by
  have holds : (steady site.setup).regime.Holds (site.constant type)
      (Expr.Shaped site.settings false (0 + 1)) := constant_holds
  exact (Uses.of_holds holds governs).mono fun _ _ ends => ⟨ends.1, ends.2.terms_eq_one⟩

theorem readTerm_single (governs : (steady site.setup).Governs world) :
    Uses site.setup (site.readTerm type) world fun left made =>
      left = world.remaining ∧ IfSome (fun expr => expr.terms = 1) made := by
  have holds : (steady site.setup).regime.Holds (site.readTerm type)
      (IfSome (Expr.Shaped site.settings false (0 + 1))) := readTerm_holds
  exact (Uses.of_holds holds governs).mono
    fun _ _ ends => ⟨ends.1, fun expr same => (ends.2 expr same).terms_eq_one⟩

/-- Every expression that is made inside a term is paid for. -/
abbrev Pays (site : Site) (most : Int) (inner : Inner) : Prop :=
  ∀ request world, (steady site.setup).Governs world →
    Uses site.setup (inner request) world fun left expr => Paid most world.remaining left (expr.terms - 1)

/-- Arguments are paid for one after the other. -/
theorem arguments_paid (allowed : 0 ≤ most) (pays : site.Pays most inner) (params : List Variable)
    (governs : (steady site.setup).Governs world) :
    Uses site.setup (params.mapM fun param => inner (.forArgument param.type)) world fun left arguments =>
      Paid most world.remaining left (termsOf arguments - params.length) := by
  induction params generalizing world with
  | nil => exact .pure governs (.nothing allowed (Int.le_refl _))
  | cons param rest ih =>
      rw [List.mapM_cons]
      apply (pays _ world governs).bind
      intro argument middle governs paid
      apply (ih governs).bind
      intro arguments after governs paidRest
      apply Uses.pure governs
      have total : (termsOf (argument :: arguments) : Int) - (rest.length + 1 : Nat) =
          (argument.terms - 1) + (termsOf arguments - rest.length) := by
        simp only [termsOf]
        omega
      rw [List.length_cons, total]
      exact paid.trans paidRest

variable (limited : site.settings.exactReplay = false)

include limited

/-- What an assignment charged is for the value. -/
theorem assignTerm_tries (enough : 1 ≤ most) (pays : site.Pays most inner)
    (governs : (steady site.setup).Governs world) :
    Uses site.setup (site.assignTerm inner type) world (Trial most world.remaining) := by
  apply (Uses.of_holds (.idle idle_beforeAssignment) governs).bind
  rintro _ start governs ⟨same, -⟩
  apply (Uses.spendTerms limited governs 1).bind
  intro _ charged governs spent
  apply (pays _ charged governs).bind
  intro value made governs paid
  rw [spent, same] at paid
  have tried := paid.charge (by decide) enough
  have assign (left : Int) (candidate : Option Candidate) (same : left = made.remaining) :
      Trial most world.remaining left (candidate.map fun candidate => .assign type candidate.place value) := by
    rw [same]
    cases candidate with
    | none =>
        have least := tried.least
        have charged := tried.charged
        exact .none (by omega)
    | some candidate =>
        apply tried.trial
        simp only [Expr.terms]
        omega
  apply (Uses.of_holds (.idle (idle_drawBand _)) governs).bind
  rintro band after governs ⟨same, -⟩
  apply (Uses.of_holds (.aside (aside_scopedCandidates band)) governs).bind
  rintro candidates last governs ⟨again, -⟩
  split
  · apply (Uses.of_holds (.aside (aside_createGlobal type true)) governs).bind
    rintro created final governs ⟨further, -⟩
    exact .pure governs (assign _ (some created) (by omega))
  · apply (Uses.of_holds (.aside (aside_orAllCandidates candidates)) governs).bind
    rintro candidates final governs ⟨further, -⟩
    apply (Uses.of_holds (.idle (idle_selectPlace type candidates true)) governs).bind
    rintro selected ending governs ⟨still, -⟩
    exact .pure governs (assign _ selected (by omega))

/-- What a comma charged is for the two expressions. -/
theorem commaTerm_tries (enough : 2 ≤ most) (pays : site.Pays most inner)
    (governs : (steady site.setup).Governs world) :
    Uses site.setup (some <$> site.commaTerm inner type) world (Trial most world.remaining) := by
  apply Uses.map
  apply (Uses.of_holds (.aside (aside_commaType type)) governs).bind
  rintro leftType start governs ⟨same, -⟩
  apply (Uses.spendTerms limited governs 2).bind
  intro _ charged governs spent
  apply (pays _ charged governs).bind
  intro left middle governs paidLeft
  apply (pays _ middle governs).bind
  intro right after governs paidRight
  apply Uses.pure governs
  have paid := paidLeft.trans paidRight
  rw [spent, same] at paid
  apply (paid.charge (by decide) enough).trial
  simp only [Expr.terms]
  omega

omit limited in
/-- The function at an index has few parameters. -/
theorem functionAt_few (index : Int) (governs : (steady site.setup).Governs world) :
    Uses site.setup (functionAt index) world fun left signature =>
      left = world.remaining ∧ (signature.params.length : Int) ≤ max 0 site.settings.maxParams := by
  apply Uses.get
  apply (Uses.of_holds (.idle (idle_element world.flow.functions index)) governs).mono
  rintro left signature ⟨same, member⟩
  exact ⟨same, World.Terse.functions governs.kept signature member⟩

/-- What a call charged is for its arguments.  Building bodies before does not touch the budget. -/
theorem callTerm_tries (allowed : 0 ≤ most) (enough : site.settings.maxParams ≤ most)
    (upheld : site.Upheld (steady site.setup).regime) (pays : site.Pays most inner)
    (governs : (steady site.setup).Governs world) :
    Uses site.setup (site.callTerm inner type) world (Trial most world.remaining) := by
  apply (Uses.of_holds (callee_holds upheld) governs).bind
  rintro made start governs ⟨same, -⟩
  cases made with
  | none => exact .pure governs (.none (Int.le_of_eq same))
  | some index =>
      apply Uses.get
      have called : Moment.Terse site.setup.settings (.called index start.checkpoint) := trivial
      apply Uses.remember governs called
      intro called governs again
      apply (functionAt_few index governs).bind
      rintro signature found governs ⟨further, few⟩
      apply (Uses.spendTerms limited governs _).bind
      intro _ charged governs spent
      apply (arguments_paid allowed pays signature.params governs).bind
      intro arguments after governs paid
      apply Uses.pure governs
      rw [spent, further, again, same] at paid
      apply (paid.charge (Int.natCast_nonneg _) (by omega)).trial
      simp only [Expr.terms]
      omega

/-- A call comes in place of operators, of which there are none. -/
theorem functionTerm_tries (allowed : 0 ≤ most) (enough : site.settings.maxParams ≤ most)
    (upheld : site.Upheld (steady site.setup).regime) (pays : site.Pays most inner)
    (governs : (steady site.setup).Governs world) :
    Uses site.setup (site.functionTerm inner depth type) world (Trial most world.remaining) := by
  have call : Uses site.setup
      (if depth < maxLevels site.settings then site.callTerm inner type else return none) world
      (Trial most world.remaining) := by
    split
    · exact callTerm_tries limited allowed enough upheld pays governs
    · exact .pure governs (.none (Int.le_refl _))
  have form : site.operatorForm inner type = Pure.pure none := by simp [operatorForm, limited]
  unfold functionTerm
  simp only [form, pure_bind]
  split <;> exact call

theorem term_tries {inner : Option Inner} (two : 2 ≤ most) (enough : site.settings.maxParams ≤ most)
    (upheld : site.Upheld (steady site.setup).regime)
    (pays : ∀ make, inner = some make → site.Pays most make) (kind : Term)
    (governs : (steady site.setup).Governs world) :
    Uses site.setup (site.term inner depth type kind) world (Trial most world.remaining) := by
  have allowed : 0 ≤ most := by omega
  have nothing : Uses site.setup (Pure.pure none) world (Trial most world.remaining) :=
    .pure governs (.none (Int.le_refl _))
  have read : Uses site.setup (site.readTerm type) world (Trial most world.remaining) :=
    (readTerm_single governs).mono fun _ _ => Trial.single allowed
  have constant : Uses site.setup (some <$> site.constant type) world (Trial most world.remaining) := by
    apply Uses.map
    apply (constant_single governs).mono
    rintro left expr ⟨same, single⟩
    apply Trial.single allowed
    refine ⟨same, ?_⟩
    rintro _ ⟨⟩
    exact single
  cases inner with
  | none =>
      cases kind with
      | constant => exact constant
      | read => exact read
      | call => exact nothing
      | assign => exact nothing
      | comma => exact nothing
  | some inner =>
      have pays := pays inner rfl
      cases kind with
      | constant => exact constant
      | read => exact read
      | call => exact functionTerm_tries limited allowed enough upheld pays governs
      | assign => exact assignTerm_tries limited (by omega) pays governs
      | comma => exact commaTerm_tries limited two pays governs

omit limited in
/-- Where nothing may stand inside a term, an attempt makes a single one, and charges nothing. -/
theorem attempt_single {inner : Option Inner} {request : Request}
    (governs : (steady site.setup).Governs world) :
    Uses site.setup (site.attempt (site.term inner depth request.type) request true) world fun left made =>
      left = world.remaining ∧ IfSome (fun expr => expr.terms = 1) made := by
  apply (Uses.of_holds (.idle (idle_chooseTerm_allowed _ _ _)) governs).bind
  rintro kind start governs ⟨same, unbarred⟩
  cases kind with
  | none => exact .pure governs ⟨same, nofun⟩
  | some kind =>
      have open_ := unbarred kind rfl
      cases kind with
      | constant =>
          apply Uses.map
          apply (constant_single governs).mono
          rintro left expr ⟨again, single⟩
          refine ⟨again.trans same, ?_⟩
          rintro _ ⟨⟩
          exact single
      | read =>
          apply (readTerm_single governs).mono
          exact fun _ _ ends => ⟨ends.1.trans same, ends.2⟩
      | call => simp [barred] at open_
      | assign => cases open_
      | comma => cases open_

/-- Where the budget is not used up, every attempt is covered by what it was at first. -/
theorem attempt_tries {inner : Option Inner} {request : Request} {closed : Bool} (two : 2 ≤ most)
    (enough : site.settings.maxParams ≤ most) (upheld : site.Upheld (steady site.setup).regime)
    (pays : ∀ make, inner = some make → site.Pays most make) (governs : (steady site.setup).Governs world) :
    Uses site.setup (site.attempt (site.term inner depth request.type) request closed) world
      (Trial most world.remaining) := by
  apply (Uses.of_holds (.idle (idle_chooseTerm _ _ _)) governs).bind
  rintro kind start governs ⟨same, -⟩
  cases kind with
  | none => exact .pure governs (.none (Int.le_of_eq same))
  | some kind => exact same ▸ term_tries limited two enough upheld pays kind governs

omit limited in
/-- Attempts are taken until one makes an expression that is paid for, or a constant is. -/
theorem attempts_paid {make : Term → Gen (Option Expr)} {request : Request} {closed : Bool} {before : Int}
    (allowed : 0 ≤ most)
    (each : ∀ world, (steady site.setup).Governs world → world.remaining ≤ before →
      Uses site.setup (site.attempt make request closed) world fun left made =>
        left ≤ world.remaining ∧ ∀ expr, made = some expr → Paid most before left (expr.terms - 1))
    (left : Nat) (governs : (steady site.setup).Governs world) (less : world.remaining ≤ before) :
    Uses site.setup (site.attempts make request closed left) world fun left expr =>
      Paid most before left (expr.terms - 1) := by
  induction left generalizing world with
  | zero =>
      apply (constant_single governs).mono
      rintro left expr ⟨rfl, single⟩
      rw [single]
      exact .nothing allowed less
  | succ left ih =>
      apply Uses.attemptOr governs
      · intro start governs same
        rw [← same]
        exact each start governs (same ▸ less)
      · exact fun back governs further => ih governs (Int.le_trans further less)

theorem oneTerm_paid {inner : Option Inner} {request : Request} (two : 2 ≤ most)
    (enough : site.settings.maxParams ≤ most) (upheld : site.Upheld (steady site.setup).regime)
    (pays : ∀ make, inner = some make → site.Pays most make) (governs : (steady site.setup).Governs world) :
    Uses site.setup (site.oneTerm inner depth request) world fun left expr =>
      Paid most world.remaining left (expr.terms - 1) := by
  have allowed : 0 ≤ most := by omega
  apply Step.ends_bind.mpr
  apply Step.ends_bind.mpr
  apply Step.ends_get.mpr
  simp only [limited, Bool.not_false, Bool.true_and, Step.ends_pure]
  cases closed : inner.isNone || decide (world.remaining ≤ 0) with
  | true =>
      apply attempts_paid allowed _ 6 governs (Int.le_refl _)
      intro start governs less
      apply (attempt_single governs).mono
      rintro left made ⟨rfl, single⟩
      refine ⟨Int.le_refl _, fun expr same => ?_⟩
      rw [single expr same]
      exact .nothing allowed less
  | false =>
      have positive : 0 < world.remaining := by
        simp only [Bool.or_eq_false_iff, decide_eq_false_iff_not, Int.not_le] at closed
        exact closed.2
      apply attempts_paid allowed _ 6 governs (Int.le_refl _)
      intro start governs less
      apply (attempt_tries limited two enough upheld pays governs).mono
      exact fun left made trial => ⟨trial.1, fun expr same => (trial.2 expr same).paid positive less⟩

/-- Induction on the number of levels that may still be opened. -/
theorem leaf_paid (two : 2 ≤ most) (enough : site.settings.maxParams ≤ most)
    (upheld : site.Upheld (steady site.setup).regime) (levels : Nat) (within : 0 ≤ depth) :
    site.Pays most (site.leaf levels depth) := by
  induction levels generalizing depth with
  | zero =>
      intro request world governs
      rw [leaf]
      apply Uses.spanning
      apply oneTerm_paid limited two enough upheld _ governs
      rintro _ ⟨⟩
  | succ levels ih =>
      intro request world governs
      rw [leaf]
      apply Uses.spanning
      apply oneTerm_paid limited two enough upheld _ governs
      rintro _ ⟨⟩ request world governs
      have inside : (request.argument || decide (0 < depth + 1)) = true := by
        simp only [Bool.or_eq_true, decide_eq_true_eq]
        omega
      simp only [budgeted, inside, if_true]
      exact ih (by omega) request world governs

/-- A whole expression opens a budget of its own, which bounds its terms, and leaves the one before as it
was. -/
theorem withTerms_bounds {step : Gen Expr}
    (paid : ∀ start, (steady site.setup).Governs start → Uses site.setup step start fun left expr =>
      Paid (max 2 site.settings.maxParams) start.remaining left (expr.terms - 1))
    (governs : (steady site.setup).Governs world) :
    (withTerms site.settings step).Ends world (fun expr after => (steady site.setup).regime.To 0 world after ∧
      (expr.terms : Int) ≤ mostTerms site.settings) (steady site.setup).failed := by
  let opened : World := { world with remaining := termBudget site.settings }
  have same : world.Resembles opened := ⟨rfl, rfl, rfl, rfl, rfl⟩
  have positive : 0 < termBudget site.settings := by
    simp only [termBudget]
    omega
  have uses := paid opened (steady_resembling governs same)
  simp only [Uses, Step.Ends, withTerms, World.openTerms, limited, Bool.false_eq_true, if_false,
    World.closeTerms] at uses ⊢
  revert uses
  rcases step opened with ⟨failure | expr, after⟩
  · exact fun failed => failed
  · rintro ⟨⟨afterGoverns, lengthens⟩, paid⟩
    have closed : after.Resembles { after with remaining := world.remaining } := ⟨rfl, rfl, rfl, rfl, rfl⟩
    have covered := paid.covered positive
    refine ⟨⟨steady_resembling afterGoverns closed, ⟨lengthens.functions, lengthens.definitions⟩, rfl⟩, ?_⟩
    have budget : opened.remaining = termBudget site.settings := rfl
    simp only [mostTerms]
    omega

theorem expression_terms (upheld : site.Upheld (steady site.setup).regime) {request : Request}
    (whole : request.argument = false) (governs : (steady site.setup).Governs world) :
    (site.expression request).Ends world (fun _ after => (steady site.setup).regime.To 0 world after)
      (steady site.setup).failed := by
  have alone : (request.argument || decide ((0 : Int) < 0)) = false := by simp [whole]
  have paid (start : World) (governs : (steady site.setup).Governs start) :=
    leaf_paid limited (Int.le_max_left 2 site.settings.maxParams) (Int.le_max_right _ _) upheld
      (levelsBelow site.settings 0) (Int.le_refl 0) request start governs
  simp only [expression, inner, budgeted, alone, Bool.false_eq_true, if_false, Gen.remember, Step.ends_bind,
    Step.ends_modify, Step.ends_pure]
  apply (withTerms_bounds limited paid governs).mono
  · rintro expr after ⟨leads, bound⟩
    have governs : (steady site.setup).Governs after := leads.kept
    have terse : after.Terse site.setup := governs.kept
    have related : world.Lengthens after ∧ after.remaining = world.remaining :=
      ⟨leads.related.toLengthens, leads.related.related⟩
    have expressed : Moment.Terse site.setup.settings (.expressed expr) := bound
    exact ⟨⟨terse.remember expressed, governs.paired.built, governs.paired.definitions⟩,
      ⟨related.1.functions, related.1.definitions⟩, related.2⟩
  · exact fun _ failed => failed

end

end Site

/-! ## Bodies -/

theorem steady_expresses {setup : Setup} (limited : setup.settings.exactReplay = false) :
    (steady setup).regime.Expresses setup := by
  rintro site rfl upheld request whole world governs
  have made := Site.expression_terms limited upheld whole governs
  have shaped := Site.expression_holds Regime.free_expressive (Site.upheld_free site) request world trivial
  apply (Step.Ends.and made shaped).mono
  · rintro expr after ⟨leads, -, -, -, whole⟩
    exact ⟨0, leads, rfl, whole⟩
  · exact fun _ failed => failed.1

end RandomC
