import RandomC.Proofs.Composites
import RandomC.Proofs.ExpressionShape

/-!
# The last resort of an expression

Where a constant is forbidden, none of the attempts at an expression makes one.  Such an expression is a
constant nevertheless when every attempt comes to nothing, and in no other case: the constant that follows the
attempts does not ask whether it is allowed.
-/

namespace RandomC

/-- The expression is nothing but a constant. -/
def Expr.isLiteral : Expr → Bool
  | .literal .. => true
  | _ => false

/-! ## Attempts -/

/-- So many attempts come to nothing, each one made from where the one before it was taken back to. -/
inductive Fruitless (setup : Setup) (attempt : Gen (Option Expr)) : Nat → World → World → Prop where
  | none {world : World} : Fruitless setup attempt 0 world world
  | more {count : Nat} {world failed last : World}
      (fails : attempt (world.remembering (.saved world.checkpoint)) = (.ok Option.none, failed))
      (rest : Fruitless setup attempt count (world.returning setup failed) last) :
      Fruitless setup attempt (count + 1) world last

section

variable {α : Type} {world : World}

/-- What an attempt makes is made; where it comes to nothing, what follows starts from the state that was gone
back to. -/
theorem Gen.attemptOr_apply {setup : Setup} {attempt : Gen (Option α)} {again : Gen α} :
    Gen.attemptOr setup attempt again world =
      match attempt (world.remembering (.saved world.checkpoint)) with
      | (.ok (some made), after) => (.ok made, after)
      | (.ok none, failed) => again (world.returning setup failed)
      | (.error failure, after) => (.error failure, after) := by
  have saved : Gen.save world = (.ok world.checkpoint, world.remembering (.saved world.checkpoint)) := rfl
  simp only [Gen.attemptOr, Step.bind_apply, saved]
  rcases attempt (world.remembering (.saved world.checkpoint)) with ⟨failure | made, after⟩
  · rfl
  · cases made with
    | some made => rfl
    | none => exact Step.bind_apply

theorem Gen.spanning_apply {step : Gen α} :
    Gen.spanning step world =
      match step world with
      | (.ok made, after) => (.ok made, after.remembering (.completed world.checkpoint after.checkpoint))
      | (.error failure, after) => (.error failure, after) := by
  simp only [Gen.spanning, Step.bind_apply, Step.get_apply]
  rcases step world with ⟨failure | made, after⟩
  · rfl
  · rfl

theorem Step.gives_any (step : Gen α) : step.Gives world fun _ _ => True := by
  simp only [Step.Gives, Step.Ends]
  split
  · trivial
  · trivial

end

namespace Site

variable {site : Site} {type : CType} {depth : Int} {request : Request} {world : World}

/-! ## Terms -/

/-- A constant is drawn, which cannot fail. -/
theorem constant_apply (type : CType) (world : World) :
    ∃ value drawn, site.constant type world = (.ok (.literal type value), drawn) := ⟨_, _, rfl⟩

/-- Where there is an expression, it is not a constant, whatever the state is. -/
abbrev Avoids (step : Gen (Option Expr)) : Prop :=
  ∀ world, step.Gives world fun made _ => IfSome (fun expr => expr.isLiteral = false) made

theorem Avoids.none : Avoids (pure Option.none) := fun _ => nofun

theorem Avoids.some {expr : Expr} (other : expr.isLiteral = false) : Avoids (pure (Option.some expr)) := by
  rintro _ _ ⟨⟩
  exact other

/-- Only the last one of some steps decides. -/
theorem Avoids.after {α : Type} {step : Gen α} {next : α → Gen (Option Expr)}
    (each : ∀ value, Avoids (next value)) : Avoids (step >>= next) :=
  fun _ => (Step.gives_any step).bind fun value after _ => each value after

theorem readTerm_avoids : Avoids (site.readTerm type) := by
  have read (candidate : Option Candidate) :
      Avoids (pure (candidate.map fun candidate => Expr.read type candidate.place)) := by
    cases candidate with
    | none => exact .none
    | some candidate => exact .some rfl
  apply Avoids.after
  intro band
  apply Avoids.after
  rintro (_ | candidate)
  · apply Avoids.after
    intro candidates
    apply Avoids.after
    rintro (_ | candidate)
    · apply Avoids.after
      exact fun _ => Avoids.after read
    · exact read (some candidate)
  · exact read (some candidate)

theorem assignTerm_avoids (inner : Inner) : Avoids (site.assignTerm inner type) := by
  apply Avoids.after
  intro _
  apply Avoids.after
  intro _
  apply Avoids.after
  intro value
  have assign (candidate : Option Candidate) :
      Avoids (pure (candidate.map fun candidate => Expr.assign type candidate.place value)) := by
    cases candidate with
    | none => exact .none
    | some candidate => exact .some rfl
  apply Avoids.after
  intro band
  apply Avoids.after
  intro candidates
  split
  · exact Avoids.after fun created => assign (some created)
  · apply Avoids.after
    exact fun _ => Avoids.after assign

theorem commaTerm_avoids (inner : Inner) : Avoids (some <$> site.commaTerm inner type) := by
  intro world
  apply Step.ends_map.mpr
  have comma : (site.commaTerm inner type).Gives world fun expr _ => expr.isLiteral = false := by
    apply (Step.gives_any _).bind
    intro leftType _ _
    apply (Step.gives_any _).bind
    intro _ _ _
    apply (Step.gives_any _).bind
    intro left _ _
    exact (Step.gives_any _).bind fun right _ _ => rfl
  apply comma.mono
  rintro expr _ other _ ⟨⟩
  exact other

theorem operatorForm_avoids (inner : Inner) : Avoids (site.operatorForm inner type) := by
  unfold operatorForm
  split
  · exact .none
  · apply Avoids.after
    intro operator
    split
    · exact .none
    · apply Avoids.after
      intro unary
      split
      · apply Avoids.after
        intro _
        exact Avoids.after fun operand => .some rfl
      · apply Avoids.after
        intro _
        apply Avoids.after
        intro left
        exact Avoids.after fun right => .some rfl

theorem callTerm_avoids (inner : Inner) : Avoids (site.callTerm inner type) := by
  apply Avoids.after
  rintro (_ | index)
  · exact .none
  · apply Avoids.after
    intro now
    apply Avoids.after
    intro _
    apply Avoids.after
    intro signature
    apply Avoids.after
    intro _
    exact Avoids.after fun arguments => .some rfl

theorem functionTerm_avoids (inner : Inner) : Avoids (site.functionTerm inner depth type) := by
  have call : Avoids (if depth < maxLevels site.settings then site.callTerm inner type else return none) := by
    split
    · exact callTerm_avoids inner
    · exact .none
  unfold functionTerm
  generalize (if depth < maxLevels site.settings then site.callTerm inner type else return none) = step at call
  dsimp only
  split
  · intro world
    have operator : Avoids (site.operatorForm inner type) := operatorForm_avoids inner
    apply (operator world).bind
    rintro (_ | expr) after other
    · exact call after
    · exact other
  · exact call

/-- Only the term that is a constant is one. -/
theorem term_avoids (inner : Option Inner) {kind : Term} (other : kind ≠ .constant) :
    Avoids (site.term inner depth type kind) := by
  cases inner with
  | none =>
      cases kind with
      | constant => exact absurd rfl other
      | read => exact readTerm_avoids
      | call => exact .none
      | assign => exact .none
      | comma => exact .none
  | some inner =>
      cases kind with
      | constant => exact absurd rfl other
      | read => exact readTerm_avoids
      | call => exact functionTerm_avoids inner
      | assign => exact assignTerm_avoids inner
      | comma => exact commaTerm_avoids inner

/-- Where constants are forbidden, an attempt does not make one. -/
theorem attempt_avoids (inner : Option Inner) (closed : Bool) (forbidden : request.noConstant = true) :
    Avoids (site.attempt (site.term inner depth type) request closed) := by
  intro world
  apply Step.Gives.idle (idle_chooseTerm_allowed _ _ _)
  rintro (_ | kind) after _ allowed
  · exact nofun
  · apply term_avoids inner _ after
    rintro rfl
    have barred : request.noConstant = false := allowed _ rfl
    rw [forbidden] at barred
    cases barred

/-! ## The last resort -/

section

variable {make : Term → Gen (Option Expr)} {closed : Bool} {count : Nat} {last : World}

/-- After attempts that came to nothing, a constant follows. -/
theorem attempts_fruitless
    (fruitless : Fruitless site.setup (site.attempt make request closed) count world last) :
    site.attempts make request closed count world = site.constant request.type last := by
  induction fruitless with
  | none => rfl
  | more fails _ ih =>
      rw [attempts, Gen.attemptOr_apply, fails]
      exact ih

/-- Where no attempt makes a constant, one can only follow them. -/
theorem attempts_literal {expr : Expr} {after : World} (avoids : Avoids (site.attempt make request closed))
    (literal : expr.isLiteral = true)
    (made : site.attempts make request closed count world = (.ok expr, after)) :
    ∃ last, Fruitless site.setup (site.attempt make request closed) count world last ∧
      site.constant request.type last = (.ok expr, after) := by
  induction count generalizing world with
  | zero => exact ⟨world, .none, made⟩
  | succ count ih =>
      have avoided := avoids (world.remembering (.saved world.checkpoint))
      rw [attempts, Gen.attemptOr_apply] at made
      rcases tried : site.attempt make request closed (world.remembering (.saved world.checkpoint)) with
        ⟨failure | (_ | other), failed⟩
      · rw [tried] at made
        cases made
      · rw [tried] at made
        obtain ⟨last, rest, constant⟩ := ih made
        exact ⟨last, .more tried rest, constant⟩
      · rw [tried] at made
        cases made
        have differs : expr.isLiteral = false := avoided.value tried expr rfl
        rw [literal] at differs
        cases differs

end

/-- How the expressions inside one at a depth are made, if levels may still be opened. -/
def below (site : Site) (depth : Int) : Option Inner :=
  if levelsBelow site.settings depth = 0 then none else some (site.inner (depth + 1))

/-- One of the attempts at an expression that is begun in a state. -/
def tries (site : Site) (depth : Int) (request : Request) (world : World) : Gen (Option Expr) :=
  site.attempt (site.term (site.below depth) depth request.type) request
    ((site.below depth).isNone || (! site.settings.exactReplay && decide (world.remaining ≤ 0)))

theorem levelsBelow_succ {settings : Settings} {levels : Nat}
    (opened : levelsBelow settings depth = levels + 1) : levelsBelow settings (depth + 1) = levels := by
  simp only [levelsBelow] at opened ⊢
  omega

/-- An expression at a depth is made over the expressions one level deeper. -/
theorem leaf_eq (site : Site) (depth : Int) (request : Request) :
    site.leaf (levelsBelow site.settings depth) depth request =
      Gen.spanning (site.oneTerm (site.below depth) depth request) := by
  unfold below
  cases opened : levelsBelow site.settings depth with
  | zero => rfl
  | succ levels =>
      have deeper : site.inner (depth + 1) = fun request =>
          site.budgeted (depth + 1) request (site.leaf levels (depth + 1) request) := by
        funext request
        rw [inner, levelsBelow_succ opened]
      rw [if_neg (Nat.succ_ne_zero levels), deeper, leaf]

/-- The budget is looked at before the first attempt only. -/
theorem oneTerm_apply (inner : Option Inner) (depth : Int) (request : Request) (world : World) :
    site.oneTerm inner depth request world =
      site.attempts (site.term inner depth request.type) request
        (inner.isNone || (! site.settings.exactReplay && decide (world.remaining ≤ 0))) 6 world := by
  have exhausted : termsExhausted site.settings world =
      (.ok (! site.settings.exactReplay && decide (world.remaining ≤ 0)), world) := rfl
  simp only [oneTerm, Step.bind_apply, exhausted]

/-- An expression that may not be a constant is one only where six attempts came to nothing before it. -/
theorem leaf_literal {expr : Expr} {after : World} (forbidden : request.noConstant = true)
    (literal : expr.isLiteral = true)
    (made : site.leaf (levelsBelow site.settings depth) depth request world = (.ok expr, after)) :
    ∃ last drawn, Fruitless site.setup (site.tries depth request world) 6 world last ∧
      site.constant request.type last = (.ok expr, drawn) ∧
      after = drawn.remembering (.completed world.checkpoint drawn.checkpoint) := by
  rw [leaf_eq, Gen.spanning_apply, oneTerm_apply] at made
  split at made
  · rename_i value drawn attempted
    cases made
    obtain ⟨last, fruitless, constant⟩ :=
      attempts_literal (attempt_avoids (site.below depth) _ forbidden) literal attempted
    exact ⟨last, drawn, fruitless, constant, rfl⟩
  · cases made

/-- Six attempts that come to nothing make the expression a constant. -/
theorem leaf_fruitless {last : World}
    (fruitless : Fruitless site.setup (site.tries depth request world) 6 world last) :
    ∃ expr after, site.leaf (levelsBelow site.settings depth) depth request world = (.ok expr, after) ∧
      expr.isLiteral = true := by
  obtain ⟨value, drawn, constant⟩ := site.constant_apply request.type last
  rw [leaf_eq, Gen.spanning_apply, oneTerm_apply, attempts_fruitless fruitless, constant]
  exact ⟨_, _, rfl, rfl⟩

end Site

end RandomC
