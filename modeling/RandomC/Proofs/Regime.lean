import RandomC.Proofs.Attempt

/-!
# Regimes

Some properties of a run need no more than a look at the few changes that its steps are made of: functions
are created and defined, statements are begun, terms are charged, moments are remembered, and the state goes
back to a snapshot.  A regime is a property of states together with a relation between the states before and
after a step, which depends on how many statements the step charged for what it made.  `Spends` says that a
step keeps to a regime, also where it fails, and `Holds` that it does so and makes no statements.
-/

namespace RandomC

namespace World

/-- The parts that regimes speak of are the same, but for the number of terms that may still be used. -/
structure Resembles (before after : World) : Prop where
  functions : after.flow.functions = before.flow.functions
  built : after.flow.built = before.flow.built
  definitions : after.flow.definitions = before.flow.definitions
  budget : after.flow.budget = before.flow.budget
  history : after.history = before.history

/-- The parts that regimes speak of are the same. -/
structure Matches (before after : World) : Prop extends before.Resembles after where
  remaining : after.remaining = before.remaining

/-- The parts that regimes speak of are the same, and so is the function whose body is generated. -/
structure Passes (before after : World) : Prop extends before.Matches after where
  caller : after.context.caller = before.context.caller

/-- A function was added, and nothing else that regimes speak of was changed.  Only of the first function of
a run the creation is not remembered. -/
structure Creates (setup : Setup) (signature : Signature) (before after : World) : Prop where
  functions : after.flow.functions = before.flow.functions ++ [signature]
  built : after.flow.built = before.flow.built ++ [false]
  definitions : after.flow.definitions = before.flow.definitions ++ [none]
  budget : after.flow.budget = before.flow.budget
  remaining : after.remaining = before.remaining
  params : (signature.params.length : Int) ≤ max 0 setup.settings.maxParams
  history : after.history = .created before.flow.functions.length signature :: before.history ∨
    before.flow.functions = [] ∧ before.history = [] ∧ after.history = []

/-- One more moment. -/
def remembering (moment : Moment) (world : World) : World :=
  { world with history := moment :: world.history }

/-- The state after going back from another one to the snapshot that was taken at `start`. -/
def returning (setup : Setup) (start now : World) : World :=
  let restored := now.restore setup start.snapshot
  restored.remembering (.restored start.checkpoint restored.checkpoint)

/-- A statement is begun, which is charged to the budget where there is a limit. -/
def beginning (world : World) : World :=
  let flow := world.flow
  let charged := { world with flow := flow.withBudget (if 0 < flow.budget then flow.budget - 1 else flow.budget) }
  charged.remembering (.begun world.checkpoint charged.checkpoint)

/-- A statement is begun that does nothing. -/
def filling (world : World) : World := world.remembering (.begun world.checkpoint world.checkpoint)

theorem Resembles.refl (world : World) : world.Resembles world := ⟨rfl, rfl, rfl, rfl, rfl⟩

theorem Resembles.trans {first middle last : World} (earlier : first.Resembles middle)
    (later : middle.Resembles last) : first.Resembles last where
  functions := later.functions.trans earlier.functions
  built := later.built.trans earlier.built
  definitions := later.definitions.trans earlier.definitions
  budget := later.budget.trans earlier.budget
  history := later.history.trans earlier.history

theorem Matches.refl (world : World) : world.Matches world := ⟨.refl world, rfl⟩

theorem Matches.trans {first middle last : World} (earlier : first.Matches middle)
    (later : middle.Matches last) : first.Matches last :=
  ⟨earlier.toResembles.trans later.toResembles, later.remaining.trans earlier.remaining⟩

theorem Passes.refl (world : World) : world.Passes world := ⟨.refl world, rfl⟩

theorem Passes.trans {first middle last : World} (earlier : first.Passes middle)
    (later : middle.Passes last) : first.Passes last :=
  ⟨earlier.toMatches.trans later.toMatches, later.caller.trans earlier.caller⟩

theorem Still.resembles {before after : World} (still : before.Still after) : before.Resembles after where
  functions := by rw [still.flow]
  built := by rw [still.flow]
  definitions := by rw [still.flow]
  budget := by rw [still.flow]
  history := still.history

theorem Rests.matches {before after : World} (rests : before.Rests after) : before.Matches after :=
  ⟨rests.toStill.resembles, rests.remaining⟩

theorem Rests.passes {before after : World} (rests : before.Rests after) : before.Passes after :=
  ⟨rests.matches, congrArg Context.caller rests.context⟩

end World

/-- What holds of all states (`inv`), of the states before and after a step that charged so many statements
(`rel`), and of the states in which a step fails (`failed`). -/
structure Regime where
  inv : World → Prop
  rel : Nat → World → World → Prop
  failed : World → Prop
  trans {first middle last : World} {count more : Nat} : rel count first middle → rel more middle last →
    rel (count + more) first last
  failing {world : World} : inv world → failed world
  stopping {before after : World} : failed before → after.flow = before.flow →
    after.history = before.history → failed after
  matching {before after : World} : inv before → before.Matches after → inv after ∧ rel 0 before after
  saving {world : World} : inv world →
    inv (world.remembering (.saved world.checkpoint)) ∧
      rel 0 world (world.remembering (.saved world.checkpoint))
  completing {start world : World} {count : Nat} : inv start → inv world → rel count start world →
    inv (world.remembering (.completed start.checkpoint world.checkpoint)) ∧
      rel 0 world (world.remembering (.completed start.checkpoint world.checkpoint))
  returning {start now : World} {count : Nat} (setup : Setup) : inv start → inv now → rel count start now →
    inv (start.returning setup now) ∧ rel 0 start (start.returning setup now)

namespace Regime

/-- A step that charged so many statements led from one state to another that the regime allows. -/
structure To (regime : Regime) (count : Nat) (before after : World) : Prop where
  kept : regime.inv after
  related : regime.rel count before after

/-- Run from `world`, the step keeps to the regime.  The value satisfies the postcondition, together with the
number of statements that were charged. -/
def Spends {α : Type} (regime : Regime) (step : Gen α) (world : World) (post : Nat → α → Prop) : Prop :=
  step.Ends world (fun value after => ∃ count, regime.To count world after ∧ post count value) regime.failed

/-- Run from any state that the regime allows, the step keeps to it, and charges no statements for the
value, which satisfies the postcondition. -/
def Holds {α : Type} (regime : Regime) (step : Gen α) (post : α → Prop) : Prop :=
  ∀ world, regime.inv world → regime.Spends step world fun count value => count = 0 ∧ post value

variable {regime : Regime} {α β : Type} {step : Gen α} {world before after : World} {count : Nat}

/-! ## Rules -/

theorem To.of_matches (kept : regime.inv before) (matched : before.Matches after) :
    regime.To 0 before after :=
  have allowed := regime.matching kept matched
  ⟨allowed.1, allowed.2⟩

theorem To.trans {last : World} {more : Nat} (first : regime.To count before after)
    (second : regime.To more after last) : regime.To (count + more) before last :=
  ⟨second.kept, regime.trans first.related second.related⟩

theorem To.zero_trans {last : World} (first : regime.To 0 before after) (second : regime.To count after last) :
    regime.To count before last := by
  simpa using first.trans second

theorem To.trans_zero {last : World} (first : regime.To count before after) (second : regime.To 0 after last) :
    regime.To count before last :=
  first.trans second

theorem Spends.pure {value : α} {post : Nat → α → Prop} (kept : regime.inv world)
    (holds : post 0 value) : regime.Spends (pure value) world post :=
  ⟨0, .of_matches kept (.refl world), holds⟩

theorem Spends.mono {post weaker : Nat → α → Prop} (spends : regime.Spends step world post)
    (weaken : ∀ count value, post count value → weaker count value) : regime.Spends step world weaker :=
  Step.Ends.mono spends (fun value _ ⟨count, leads, holds⟩ => ⟨count, leads, weaken count value holds⟩)
    fun _ failed => failed

/-- In a sequence, the second step starts from a state to which the first one led. -/
theorem Spends.bind {next : α → Gen β} {middle : Nat → α → Prop} {post : Nat → β → Prop}
    (first : regime.Spends step world middle)
    (second : ∀ count value after, regime.To count world after → middle count value →
      regime.Spends (next value) after fun more => post (count + more)) :
    regime.Spends (step >>= next) world post := by
  apply Step.ends_bind.mpr
  apply Step.Ends.mono first
  · rintro value after ⟨count, leads, holds⟩
    apply Step.Ends.mono (second count value after leads holds)
    · rintro made last ⟨more, further, final⟩
      exact ⟨count + more, leads.trans further, final⟩
    · exact fun _ failed => failed
  · exact fun _ failed => failed

/-- A sequence that begins with a step that makes no statements. -/
theorem Holds.then {next : α → Gen β} {middle : α → Prop} {post : Nat → β → Prop}
    (first : regime.Holds step middle) (kept : regime.inv world)
    (second : ∀ value after, regime.To 0 world after → middle value →
      regime.Spends (next value) after post) :
    regime.Spends (step >>= next) world post := by
  apply (first world kept).bind
  rintro _ value after leads ⟨rfl, holds⟩
  simpa using second value after leads holds

theorem Spends.get {next : World → Gen α} {post : Nat → α → Prop}
    (spends : regime.Spends (next world) world post) : regime.Spends (get >>= next) world post :=
  Step.ends_bind.mpr spends

namespace Holds

variable {post : α → Prop}

theorem pure {value : α} (holds : post value) : regime.Holds (pure value) post :=
  fun _ kept => .pure kept ⟨rfl, holds⟩

theorem bind {next : α → Gen β} {final : β → Prop} (first : regime.Holds step post)
    (second : ∀ value, post value → regime.Holds (next value) final) : regime.Holds (step >>= next) final :=
  fun _ kept => first.then kept fun value after leads holds => second value holds after leads.kept

theorem mono {weaker : α → Prop} (holds : regime.Holds step post)
    (weaken : ∀ value, post value → weaker value) : regime.Holds step weaker :=
  fun world kept => (holds world kept).mono fun _ value ends => ⟨ends.1, weaken value ends.2⟩

theorem map {image : α → β} {final : β → Prop} (holds : regime.Holds step fun value => final (image value)) :
    regime.Holds (image <$> step) final :=
  fun world kept => Step.ends_map.mpr (holds world kept)

theorem get {next : World → Gen α}
    (each : ∀ world, regime.inv world → regime.Holds (next world) post) :
    regime.Holds (get >>= next) post :=
  fun world kept => .get (each world kept world kept)

theorem mapM {list : List α} {make : α → Gen β} {each : β → Prop}
    (holds : ∀ element ∈ list, regime.Holds (make element) each) :
    regime.Holds (list.mapM make) fun values => ∀ value ∈ values, each value := by
  induction list with
  | nil => exact pure (by simp)
  | cons element rest ih =>
      rw [List.mapM_cons]
      apply bind (holds element (by simp))
      intro value held
      apply bind (ih fun other member => holds other (List.mem_cons_of_mem _ member))
      intro values all
      exact pure (List.forall_mem_cons.mpr ⟨held, all⟩)

end Holds

/-- Either the attempt makes a value, or it is taken back and what follows makes one, with the budget that
there was before. -/
theorem Spends.attemptOr {setup : Setup} {attempt : Gen (Option α)} {again : Gen α} {post : Nat → α → Prop}
    (kept : regime.inv world)
    (first : ∀ start, regime.inv start →
      regime.Spends attempt start fun count made => ∀ value, made = some value → post count value)
    (second : ∀ back, regime.inv back → back.flow.budget = world.flow.budget →
      regime.Spends again back post) :
    regime.Spends (Gen.attemptOr setup attempt again) world post := by
  have saved := regime.saving kept
  simp only [Spends, Gen.attemptOr, Gen.save, Gen.remember, Step.ends_bind, Step.ends_get, Step.ends_modify,
    Step.ends_pure]
  apply Step.Ends.mono (first _ saved.1)
  · rintro made after ⟨count, leads, holds⟩
    have leads : regime.To count world after := To.zero_trans ⟨saved.1, saved.2⟩ leads
    cases made with
    | some value => exact ⟨count, leads, holds value rfl⟩
    | none =>
        simp only [Gen.goBack, Gen.remember, Step.ends_bind, Step.ends_modify, Step.ends_get]
        have back := regime.returning setup kept leads.kept leads.related
        apply Step.Ends.mono (second _ back.1 rfl)
        · rintro value last ⟨count, further, holds⟩
          exact ⟨count, To.zero_trans ⟨back.1, back.2⟩ further, holds⟩
        · exact fun _ failed => failed
  · exact fun _ failed => failed

/-- A sequence that begins with a moment. -/
theorem Spends.remember {moment : Moment} {next : Unit → Gen α} {post : Nat → α → Prop}
    (allowed : regime.inv (world.remembering moment) ∧ regime.rel 0 world (world.remembering moment))
    (second : regime.Spends (next ()) (world.remembering moment) post) :
    regime.Spends (Gen.remember moment >>= next) world post := by
  apply Step.ends_bind.mpr
  apply Step.Ends.mono second
  · rintro value after ⟨count, further, holds⟩
    exact ⟨count, To.zero_trans ⟨allowed.1, allowed.2⟩ further, holds⟩
  · exact fun _ failed => failed

theorem Spends.spanning {post : Nat → α → Prop} (kept : regime.inv world)
    (spends : regime.Spends step world post) : regime.Spends (Gen.spanning step) world post := by
  simp only [Spends, Gen.spanning, Gen.remember, Step.ends_bind, Step.ends_get]
  apply Step.Ends.mono spends
  · rintro value after ⟨count, leads, holds⟩
    have completed := regime.completing kept leads.kept leads.related
    exact ⟨count, leads.trans_zero ⟨completed.1, completed.2⟩, holds⟩
  · exact fun _ failed => failed

theorem Spends.inContext {context : Context} {post : Nat → α → Prop} (kept : regime.inv world)
    (spends : ∀ start, regime.inv start → regime.Spends step start post) :
    regime.Spends (Gen.inContext context step) world post := by
  have entered : regime.To 0 world { world with context } :=
    .of_matches kept ⟨⟨rfl, rfl, rfl, rfl, rfl⟩, rfl⟩
  have inside := spends _ entered.kept
  simp only [Spends, Step.Ends, Gen.inContext] at inside ⊢
  revert inside
  rcases step { world with context } with ⟨failure | value, after⟩
  · exact fun failed => regime.stopping failed rfl rfl
  · rintro ⟨count, leads, holds⟩
    have left : regime.To 0 after { after with context := world.context } :=
      .of_matches leads.kept ⟨⟨rfl, rfl, rfl, rfl, rfl⟩, rfl⟩
    exact ⟨count, (entered.zero_trans leads).trans_zero left, holds⟩

theorem Holds.attemptOr {setup : Setup} {attempt : Gen (Option α)} {again : Gen α} {post : α → Prop}
    (first : regime.Holds attempt fun made => ∀ value, made = some value → post value)
    (second : regime.Holds again post) : regime.Holds (Gen.attemptOr setup attempt again) post := by
  intro world kept
  apply Spends.attemptOr kept
  · intro start kept
    exact (first start kept).mono fun _ _ ends value same => ⟨ends.1, ends.2 value same⟩
  · exact fun back kept _ => second back kept

theorem Holds.spanning {post : α → Prop} (holds : regime.Holds step post) :
    regime.Holds (Gen.spanning step) post :=
  fun world kept => (holds world kept).spanning kept

/-! ## Steps that regimes do not notice -/

/-- An idle step changes nothing that matters. -/
theorem Holds.idle {post : α → Prop} (idle : Idle step post) : regime.Holds step post := by
  intro world kept
  apply (idle world).mono
  · exact fun _ _ ends => ⟨0, .of_matches kept (World.Rests.matches ends.1), rfl, ends.2⟩
  · exact fun _ rests => regime.failing (regime.matching kept (World.Rests.matches rests)).1

end Regime

/-- The step changes nothing that regimes speak of, and stays in the body of the same function. -/
def Aside {α : Type} (step : Gen α) : Prop :=
  ∀ world, step.Ends world (fun _ after => world.Passes after) world.Passes

section

variable {α β : Type} {step : Gen α}

theorem Aside.bind {next : α → Gen β} (first : Aside step) (second : ∀ value, Aside (next value)) :
    Aside (step >>= next) := by
  intro world
  apply Step.ends_bind.mpr
  apply (first world).mono
  · intro value after earlier
    apply (second value after).mono
    · exact fun _ _ later => earlier.trans later
    · exact fun _ later => earlier.trans later
  · exact fun _ passed => passed

theorem Aside.pure {value : α} : Aside (pure value) := fun world => World.Passes.refl world

theorem Aside.get {next : World → Gen α} (each : ∀ world, Aside (next world)) : Aside (get >>= next) :=
  fun world => Step.ends_bind.mpr (each world world)

theorem Aside.map {image : α → β} (aside : Aside step) : Aside (image <$> step) :=
  fun world => Step.ends_map.mpr (aside world)

theorem Idle.aside {post : α → Prop} (idle : Idle step post) : Aside step := by
  intro world
  apply (idle world).mono
  · exact fun _ _ ends => World.Rests.passes ends.1
  · exact fun _ rests => World.Rests.passes rests

theorem Regime.Holds.aside {regime : Regime} (aside : Aside step) : regime.Holds step fun _ => True := by
  intro world kept
  apply (aside world).mono
  · exact fun _ _ passed => ⟨0, .of_matches kept passed.toMatches, rfl, trivial⟩
  · exact fun _ passed => regime.failing (regime.matching kept passed.toMatches).1

theorem aside_createGlobal {setup : Setup} (type : CType) (forAssignment : Bool) :
    Aside (createGlobal setup type forAssignment) := by
  have fresh : Aside Gen.freshGlobal := fun _ => ⟨⟨⟨rfl, rfl, rfl, rfl, rfl⟩, rfl⟩, rfl⟩
  apply fresh.bind
  intro name
  apply (idle_drawQualifiers setup.settings).aside.bind
  intro qualifiers
  apply (idle_drawConstant type).aside.bind
  exact fun _ _ => ⟨⟨⟨rfl, rfl, rfl, rfl, rfl⟩, rfl⟩, rfl⟩

theorem aside_createZeroGlobal (type : CType) : Aside (createZeroGlobal type) :=
  fun _ => ⟨⟨⟨rfl, rfl, rfl, rfl, rfl⟩, rfl⟩, rfl⟩

end

/-- Parameters are numbered, and there are no more of them than wanted. -/
theorem drawParams_matches (scalars : List CType) (limit : Int) (world : World) :
    (drawParams scalars limit).Ends world
      (fun params after => world.Matches after ∧ (params.length : Int) ≤ max 0 limit) world.Matches := by
  have drawn (count : Nat) (start : World) (matched : world.Matches start) :
      ((List.range count).mapM fun _ => do
        let name ← Gen.freshParam
        return (⟨name, ← Step.choose scalars⟩ : Variable) : Gen (List Variable)).Ends start
      (fun params after => world.Matches after ∧ params.length = (List.range count).length) world.Matches := by
    apply Step.ends_mapM (fun done params now => world.Matches now ∧ params.length = done.length)
    · rintro done element params state - ⟨matched, length⟩
      simp only [Gen.freshParam, Gen.changeFlow, Step.ends_bind, Step.ends_get, Step.ends_modify,
        Step.ends_pure]
      have named : state.Matches { state with flow.nextParam := state.flow.nextParam + 1 } :=
        ⟨⟨rfl, rfl, rfl, rfl, rfl⟩, rfl⟩
      apply (idle_choose scalars _).mono
      · intro type after ends
        have chosen := World.Rests.matches ends.1
        exact ⟨matched.trans (named.trans chosen), by simp [length]⟩
      · exact fun after rests => matched.trans (named.trans (World.Rests.matches rests))
    · exact ⟨matched, rfl⟩
  unfold drawParams
  split
  · apply Step.ends_bind.mpr
    apply (idle_below (limit + 1) world).mono
    · rintro count after ⟨rests, bound⟩
      apply (drawn count after (World.Rests.matches rests)).mono
      · rintro params last ⟨matched, length⟩
        rw [List.length_range] at length
        exact ⟨matched, by omega⟩
      · exact fun _ matched => matched
    · exact fun after rests => World.Rests.matches rests
  · apply (drawn 0 world (.refl world)).mono
    · rintro params last ⟨matched, length⟩
      rw [List.length_range] at length
      exact ⟨matched, by omega⟩
    · exact fun _ matched => matched

/-- Where a function is created, it is the last one. -/
theorem createFunction_creates (setup : Setup) (type : CType) (world : World) :
    (createFunction setup (some type)).Ends world
      (fun created after => (created = none → after = world) ∧ ∀ index, created = some index →
        index = world.flow.functions.length ∧ ∃ signature, world.Creates setup signature after)
      world.Matches := by
  unfold createFunction
  apply Step.ends_bind.mpr
  apply Step.ends_get.mpr
  dsimp only
  split
  · exact ⟨fun _ => rfl, nofun⟩
  · apply Step.ends_bind.mpr
    apply (drawParams_matches setup.scalars setup.settings.maxParams world).mono
    · rintro params after ⟨matched, bound⟩
      refine ⟨nofun, ?_⟩
      rintro _ ⟨⟩
      exact ⟨rfl, ⟨world.flow.nextFunction, type, params⟩, congrArg (· ++ _) matched.functions,
        congrArg (· ++ _) matched.built, congrArg (· ++ _) matched.definitions, matched.budget,
        matched.remaining, bound, .inl (congrArg (_ :: ·) matched.history)⟩
    · exact fun _ matched => matched

/-! ## What happens in expressions and blocks -/

/-- The regime stands what happens in expressions: terms are charged and functions called. -/
structure Regime.Expressive (regime : Regime) : Prop where
  resembling {before after : World} : regime.inv before → before.Resembles after →
    regime.inv after ∧ regime.rel 0 before after
  calling {world : World} (index : Int) : regime.inv world →
    regime.inv (world.remembering (.called index world.checkpoint)) ∧
      regime.rel 0 world (world.remembering (.called index world.checkpoint))
  expressing {world : World} (expr : Expr) : regime.inv world →
    regime.inv (world.remembering (.expressed expr)) ∧
      regime.rel 0 world (world.remembering (.expressed expr))

theorem Regime.Expressive.leads {regime : Regime} {before after : World} (expressive : regime.Expressive)
    (kept : regime.inv before) (resembles : before.Resembles after) : regime.To 0 before after :=
  have allowed := expressive.resembling kept resembles
  ⟨allowed.1, allowed.2⟩

/-- The regime stands what happens in blocks: statements are begun as long as the budget is not used up. -/
structure Regime.Begins (regime : Regime) : Prop where
  beginning {world : World} : regime.inv world → world.flow.budget ≠ 0 →
    regime.inv world.beginning ∧ regime.rel 1 world world.beginning
  filling {world : World} : regime.inv world → world.flow.budget ≠ 0 →
    regime.inv world.filling ∧ regime.rel 0 world world.filling

/-- The regime that demands nothing. -/
def Regime.free : Regime where
  inv _ := True
  rel _ _ _ := True
  failed _ := True
  trans _ _ := trivial
  failing _ := trivial
  stopping _ _ _ := trivial
  matching _ _ := ⟨trivial, trivial⟩
  saving _ := ⟨trivial, trivial⟩
  completing _ _ _ := ⟨trivial, trivial⟩
  returning _ _ _ _ := ⟨trivial, trivial⟩

theorem Regime.free_expressive : Regime.free.Expressive where
  resembling _ _ := ⟨trivial, trivial⟩
  calling _ _ := ⟨trivial, trivial⟩
  expressing _ _ := ⟨trivial, trivial⟩

end RandomC
