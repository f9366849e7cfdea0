import Mathlib.Algebra.Ring.Nat
import RandomC.Proofs.Contents
import RandomC.Proofs.Recursion

/-!
# The budget of statements

The budget is charged where a statement is begun and is set back with everything else where an attempt comes
to nothing.  What was spent of it is therefore the number of statements that are left in definitions: a
definition pays off what its body was charged, whatever was begun and dropped meanwhile.
-/

namespace RandomC

/-! ## The budget at every moment -/

/-- The shared states that the history holds of a moment.  The budget never changes but at such a moment. -/
def Moment.flows : Moment → List Flow
  | .created .. | .entered .. | .defined .. | .expressed _ => []
  | .called _ now | .saved now => [now.flow]
  | .begun start now | .restored start now | .completed start now => [start.flow, now.flow]

/-- At the moment the budget was an allowed one, and no statement was begun where it was used up. -/
def Moment.Within (allowed : Int → Prop) : Moment → Prop
  | .created .. | .entered .. | .defined .. | .expressed _ => True
  | .called _ now | .saved now => allowed now.flow.budget
  | .begun start now => (allowed start.flow.budget ∧ allowed now.flow.budget) ∧ start.flow.budget ≠ 0
  | .restored start now | .completed start now => allowed start.flow.budget ∧ allowed now.flow.budget

theorem Moment.Within.budgets {allowed : Int → Prop} {moment : Moment} (within : moment.Within allowed) :
    ∀ flow ∈ moment.flows, allowed flow.budget := by
  cases moment with
  | created | entered | defined | expressed => exact List.forall_mem_nil _
  | called _ now | saved now => exact List.forall_mem_singleton.mpr within
  | restored start now | completed start now =>
      exact List.forall_mem_cons.mpr ⟨within.1, List.forall_mem_singleton.mpr within.2⟩
  | begun start now =>
      exact List.forall_mem_cons.mpr ⟨within.1.1, List.forall_mem_singleton.mpr within.1.2⟩

/-- The budget is an allowed one, and it was so at all moments. -/
structure World.Within (allowed : Int → Prop) (world : World) : Prop where
  budget : allowed world.flow.budget
  moments : ∀ moment ∈ world.history, moment.Within allowed

section

variable {allowed : Int → Prop} {setup : Setup} {world before after : World}

theorem World.Within.remember {moment : Moment} (within : world.Within allowed)
    (added : moment.Within allowed) : (world.remembering moment).Within allowed :=
  ⟨within.budget, List.forall_mem_cons.mpr ⟨added, within.moments⟩⟩

theorem World.Within.creates {signature : Signature} (within : before.Within allowed)
    (creates : before.Creates setup signature after) : after.Within allowed where
  budget := creates.budget ▸ within.budget
  moments := by
    rcases creates.history with remembered | ⟨-, -, none⟩
    · rw [remembered]
      exact List.forall_mem_cons.mpr ⟨trivial, within.moments⟩
    · simp [none]

/-- Budgets stay allowed if they do so where a statement is charged. -/
theorem invariant_within (setup : Setup) (shaped : Definition → Prop)
    (charged : ∀ budget, allowed budget → budget ≠ 0 →
      allowed (if 0 < budget then budget - 1 else budget)) :
    Invariant setup shaped (World.Within allowed) where
  resembling within resembles :=
    ⟨resembles.budget ▸ within.budget, resembles.history ▸ within.moments⟩
  calling _ within := within.remember within.budget
  expressing _ within := within.remember trivial
  saving within := within.remember within.budget
  completing start within := within.remember ⟨start.budget, within.budget⟩
  returning := by
    intro start now after within later returns
    have budget : allowed after.flow.budget := returns.budget ▸ within.budget
    have restored : Moment.Within allowed (.restored start.checkpoint after.checkpoint) :=
      ⟨within.budget, budget⟩
    refine ⟨budget, ?_⟩
    rw [returns.history]
    exact List.forall_mem_cons.mpr ⟨restored, later.moments⟩
  beginning := by
    intro world within limited
    have budget : allowed world.beginning.flow.budget := charged _ within.budget limited
    have begun : Moment.Within allowed (.begun world.checkpoint world.beginning.checkpoint) :=
      ⟨⟨within.budget, budget⟩, limited⟩
    exact ⟨budget, List.forall_mem_cons.mpr ⟨begun, within.moments⟩⟩
  filling within limited := within.remember ⟨⟨within.budget, within.budget⟩, limited⟩
  entering _ within creates := (within.creates creates).remember trivial
  defining := by
    intro signature before created last definition within creates later _
    have completed : Moment.Within allowed (.completed created.checkpoint last.checkpoint) :=
      ⟨(within.creates creates).budget, later.budget⟩
    have defined : Moment.Within allowed (.defined before.flow.functions.length definition) := trivial
    have within := (later.remember completed).remember defined
    exact ⟨within.budget, within.moments⟩

/-- Budgets are allowed throughout a run, also if it fails. -/
theorem run_within (charged : ∀ budget, allowed budget → budget ≠ 0 →
      allowed (if 0 < budget then budget - 1 else budget))
    (start : allowed (Flow.initial setup).budget) (source : Random.Source) (log : Array Event) :
    (run setup (.start setup source log)).2.Within allowed := by
  exact (run_holds (invariant_within setup (Definition.Shaped setup False) charged)
    (fun _ _ => False.elim) source log ⟨start, List.forall_mem_nil _⟩).reached

end

/-! ## What was spent -/

/-- The number of statements in definitions for which the budget was charged. -/
def Flow.charge (flow : Flow) : Nat := ((flow.definitions.filterMap id).map Definition.charge).sum

/-- The budget, and what definitions have taken from it. -/
def World.account (world : World) : Int := world.flow.budget + world.flow.charge

section

variable {setup : Setup} {before after : World}

theorem World.account_eq (definitions : after.flow.definitions = before.flow.definitions)
    (budget : after.flow.budget = before.flow.budget) : after.account = before.account := by
  rw [World.account, World.account, Flow.charge, Flow.charge, definitions, budget]

theorem World.Creates.account_eq {signature : Signature} (creates : before.Creates setup signature after) :
    after.account = before.account := by
  simp [World.account, Flow.charge, creates.definitions, creates.budget]

/-- A definition that takes a place kept for it adds its statements to those of all definitions. -/
theorem Flow.charge_withDefinition {flow : Flow} {first : List (Option Definition)}
    (kept : first ++ [none] <+: flow.definitions) (definition : Definition) :
    (flow.withDefinition first.length definition).charge = flow.charge + definition.charge := by
  obtain ⟨rest, appended⟩ := kept
  have placed : (first ++ none :: rest).set first.length (some definition) = first ++ some definition :: rest := by
    rw [List.set_append_right _ _ (Nat.le_refl _), Nat.sub_self, List.set_cons_zero]
  rw [List.append_assoc, List.singleton_append] at appended
  simp only [Flow.charge, Flow.withDefinition, ← appended, placed]
  simp
  omega

/-- The policy that keeps account of the budget: a step takes from it what it charged for what it made. -/
def accounting : Policy where
  inv world := 0 ≤ world.flow.budget
  rel count before after := after.account + count = before.account
  failed _ := True
  trans _ first second := by
    rw [← first, ← second]
    omega
  failing _ := trivial
  stopping _ _ _ := trivial
  matching limited matched := by
    refine ⟨matched.budget ▸ limited, ?_⟩
    simpa using World.account_eq matched.definitions matched.budget
  saving limited := ⟨limited, Int.add_zero _⟩
  completing _ limited _ _ := ⟨limited, Int.add_zero _⟩
  returning limited _ _ _ returns := by
    refine ⟨returns.budget ▸ limited, ?_⟩
    simpa using World.account_eq returns.definitions returns.budget

theorem accounting_expressive : accounting.Expressive where
  resembling {before after} limited resembles := by
    have limited : 0 ≤ before.flow.budget := limited
    have kept : 0 ≤ after.flow.budget := resembles.budget ▸ limited
    refine ⟨kept, ?_⟩
    simpa [accounting] using World.account_eq resembles.definitions resembles.budget
  calling _ limited := ⟨limited, Int.add_zero _⟩
  expressing _ limited := ⟨limited, Int.add_zero _⟩

theorem accounting_building (setup : Setup) (shaped : Definition → Prop) :
    accounting.Building setup shaped where
  beginning := by
    intro world limited left
    have limited : 0 ≤ world.flow.budget := limited
    have positive : 0 < world.flow.budget := by omega
    have budget : world.beginning.flow.budget = world.flow.budget - 1 := if_pos positive
    have account : world.beginning.account + (1 : Nat) = world.account := by
      have charge : world.beginning.flow.charge = world.flow.charge := rfl
      rw [World.account, World.account, budget, charge]
      omega
    refine ⟨?_, account⟩
    show 0 ≤ world.beginning.flow.budget
    omega
  filling limited _ := ⟨limited, Int.add_zero _⟩
  entering {_ before after} _ governs creates := by
    have limited : 0 ≤ before.flow.budget := governs.kept
    have kept : 0 ≤ after.flow.budget := creates.budget ▸ limited
    exact kept
  defining := by
    intro signature before created numbered last returnLocal definition governs creates matched lastGoverns
      relates _
    refine ⟨lastGoverns.kept, ?_⟩
    have spent : last.account + definition.charge = numbered.account := relates.related
    have numbered_eq := World.account_eq matched.definitions matched.budget
    have created_eq := creates.account_eq
    have kept : before.flow.definitions ++ [none] <+: last.flow.definitions := by
      have longer := relates.definitions
      rwa [show (numbered.remembering _).flow.definitions = numbered.flow.definitions from rfl,
        matched.definitions, creates.definitions] at longer
    have defined : (created.defining before.flow.functions.length definition last).account =
        last.account + definition.charge := by
      have charge := Flow.charge_withDefinition kept definition
      rw [governs.paired.definitions] at charge
      simp only [World.account, World.defining, charge]
      show last.flow.budget + _ = _
      omega
    show _ + ((0 : Nat) : Int) = _
    omega

end

/-! ## Where the budget is used up -/

section

variable {site : Site} {depth : Int} {inLoop : Bool} {world : World}

/-- A block comes to nothing where the budget is used up. -/
theorem Site.block_exhausted (exhausted : world.flow.budget = 0) :
    site.block depth inLoop world =
      (.ok [], world.remembering (.completed world.checkpoint world.checkpoint)) := by
  rw [Site.block_eq]
  simp only [Gen.spanning, Site.blockOf, Gen.remember, Step.bind_apply, Step.get_apply, if_pos exhausted,
    Step.pure_apply]
  rfl

/-- What a block still lacks where the budget is used up stays away. -/
theorem Site.statements_exhausted (exhausted : world.flow.budget = 0) (make : Gen (Option Block))
    (count : Nat) : ∃ log, site.statements make count world = (.ok [], { world with log }) := by
  cases count with
  | zero => exact ⟨world.log, rfl⟩
  | succ count =>
      refine ⟨world.log.push .budgetExhausted, ?_⟩
      simp only [Site.statements, Step.bind_apply, Step.get_apply, if_pos exhausted]
      rfl

end

/-! ## Runs -/

/-- The shared states at the moments of a run and at its end, also when it fails. -/
def flows (setup : Setup) (source : Random.Source) (log : Array Event) : List Flow :=
  (run setup (.start setup source log)).2.flow :: (moments setup source log).flatMap Moment.flows

section

variable {setup : Setup} {source : Random.Source} {log : Array Event}

theorem flows_within (allowed : Int → Prop)
    (charged : ∀ budget, allowed budget → budget ≠ 0 →
      allowed (if 0 < budget then budget - 1 else budget))
    (start : allowed (Flow.initial setup).budget) :
    ∀ flow ∈ flows setup source log, allowed flow.budget := by
  have within := run_within charged start source log
  simp only [flows, List.forall_mem_cons, List.forall_mem_flatMap]
  exact ⟨within.budget, fun moment member => (within.moments moment member).budgets⟩

theorem flows_limited (limited : 0 ≤ setup.settings.stopByStmt) :
    ∀ flow ∈ flows setup source log, 0 ≤ flow.budget ∧ flow.budget ≤ setup.settings.stopByStmt := by
  apply flows_within fun budget => 0 ≤ budget ∧ budget ≤ setup.settings.stopByStmt
  · intro budget bounds left
    split <;> omega
  · simp [Flow.initial, limited]

theorem flows_unlimited (unlimited : setup.settings.stopByStmt < 0) :
    ∀ flow ∈ flows setup source log, flow.budget = -1 := by
  apply flows_within (· = -1)
  · rintro budget rfl _
    decide
  · simp [Flow.initial, Int.not_le.mpr unlimited]

theorem moments_begun {start now : Checkpoint} (member : .begun start now ∈ moments setup source log) :
    start.flow.budget ≠ 0 := by
  have within := @run_within (fun _ => True) setup (fun _ _ _ => trivial) trivial source log
  exact (within.moments _ member).2

/-- What a run that succeeds has spent of the budget is what its definitions were charged. -/
theorem run_spent (limited : 0 ≤ setup.settings.stopByStmt)
    (succeeds : (run setup (.start setup source log)).1 = .ok ()) :
    setup.settings.stopByStmt - (run setup (.start setup source log)).2.flow.budget =
      (run setup (.start setup source log)).2.flow.charge := by
  have start : (World.start setup source log).account = setup.settings.stopByStmt := by
    simp [World.account, World.start, Flow.initial, Flow.charge, limited]
  have positive : 0 ≤ (World.start setup source log).flow.budget := by
    simp [World.start, Flow.initial, limited]
  have ends := run_ends_in (accounting_building setup (Definition.Shaped setup False))
    (accounting_expressive.regime.expresses setup) (fun _ _ => False.elim) source log positive
  have account : (run setup (.start setup source log)).2.account + (0 : Nat) =
      (World.start setup source log).account := (ends.of_ok succeeds).related.related
  rw [start, World.account] at account
  omega

end

/-- The budget of statements is kept throughout every run.  Where there is a limit, the budget lies between
nothing and the limit at every moment; what a run that succeeds has spent of it is the number of statements
in the definitions of its functions, apart from those that do nothing, so that a program has no more of them
than the limit.  Whatever was dropped is not counted, since going back sets the budget to what it was.  No
statement is begun while the budget is used up: what a block still lacks stays away, and so does what would
be in blocks inside it.  Without a limit, the budget is always -1. -/
theorem run_accounts_for_budget (setup : Setup) (source : Random.Source) (log : Array Event) :
    (0 ≤ setup.settings.stopByStmt →
      (∀ flow ∈ flows setup source log, 0 ≤ flow.budget ∧ flow.budget ≤ setup.settings.stopByStmt) ∧
      ((run setup (.start setup source log)).1 = .ok () → ∃ definitions : List Definition,
        definitions.map some = (run setup (.start setup source log)).2.flow.definitions ∧
        definitions.map (·.signature) = (run setup (.start setup source log)).2.flow.functions ∧
        setup.settings.stopByStmt - (run setup (.start setup source log)).2.flow.budget =
          ((definitions.map Definition.charge).sum : Nat))) ∧
    (setup.settings.stopByStmt < 0 → ∀ flow ∈ flows setup source log, flow.budget = -1) ∧
    (∀ start now, .restored start now ∈ moments setup source log → now.flow.budget = start.flow.budget) ∧
    (∀ start now, .begun start now ∈ moments setup source log → start.flow.budget ≠ 0) ∧
    (∀ (site : Site) (world : World), world.flow.budget = 0 →
      (∀ depth inLoop, site.block depth inLoop world =
        (.ok [], world.remembering (.completed world.checkpoint world.checkpoint))) ∧
      ∀ make count, ∃ log, site.statements make count world = (.ok [], { world with log })) ∧
    ∀ (settings : Settings) (program : Program), 0 ≤ settings.stopByStmt →
      (generate settings source).result = .ok program →
        ((program.definitions.map Definition.charge).sum : Nat) ≤ settings.stopByStmt := by
  refine ⟨fun limited => ⟨flows_limited limited, fun succeeds => ?_⟩, flows_unlimited, ?_,
    fun _ _ => moments_begun, fun site world exhausted => ⟨fun _ _ => Site.block_exhausted exhausted,
      Site.statements_exhausted exhausted⟩, ?_⟩
  · obtain ⟨good, complete⟩ := run_good succeeds
    obtain ⟨definitions, all, own, -⟩ := good.aligned.all_definitions complete
    refine ⟨definitions, all, own, ?_⟩
    rw [run_spent limited succeeds, Flow.charge, ← all]
    simp
  · intro start now member
    obtain ⟨later, earlier, split⟩ := List.append_of_mem member
    have sound := moments_sound setup source log
    rw [split] at sound
    have same : now = start := sound.sound.1
    rw [same]
  · intro settings program limited returned
    obtain ⟨origin, makes⟩ := exists_origin returned
    have limited : 0 ≤ origin.setup.settings.stopByStmt := makes.settings_eq ▸ limited
    have spent := run_spent limited makes.succeeds
    have bounds := @flows_limited origin.setup origin.source origin.log limited _ List.mem_cons_self
    have charge : origin.world.flow.charge = (program.definitions.map Definition.charge).sum := by
      rw [Flow.charge, ← makes.definitions_eq.1]
      simp
    rw [← makes.settings_eq, ← charge]
    have same : origin.world = (run origin.setup (.start origin.setup origin.source origin.log)).2 := rfl
    rw [same]
    omega

/-- The small setup without a limit on statements. -/
def unlimitedSetup : Setup := { smallSetup with settings := { smallSettings with stopByStmt := -5 } }

/-- A small run spends all of its budget of two on the statements of its two definitions, although it begins
three; without a limit it begins more, and its budget is -1 at the end. -/
theorem run_accounts_for_budget_small :
    (∃ definitions : List Definition,
      definitions.map some = (run smallSetup (.start smallSetup (.ofSeed 2 false) #[])).2.flow.definitions ∧
        ((definitions.map Definition.charge).sum : Nat) = (2 : Int)) ∧
    ((moments smallSetup (.ofSeed 2 false) #[]).countP (· matches .begun ..) = 3 ∧
      ∀ start now, .begun start now ∈ moments smallSetup (.ofSeed 2 false) #[] → start.flow.budget ≠ 0) ∧
    (∃ program : Program, (generate smallSettings (.ofSeed 2 false)).result = .ok program ∧
      ((program.definitions.map Definition.charge).sum : Nat) ≤ (2 : Int)) ∧
    ((moments unlimitedSetup (.ofSeed 2 false) #[]).countP (· matches .begun ..) = 6 ∧
      (run unlimitedSetup (.start unlimitedSetup (.ofSeed 2 false) #[])).2.flow.budget = -1) := by
  obtain ⟨limited, -, -, begun, -, programs⟩ := run_accounts_for_budget smallSetup (.ofSeed 2 false) #[]
  obtain ⟨-, unlimited, -⟩ := run_accounts_for_budget unlimitedSetup (.ofSeed 2 false) #[]
  have limit : (0 : Int) ≤ smallSettings.stopByStmt := by decide
  refine ⟨?_, ⟨by decide +kernel, begun⟩, ?_, by decide +kernel, unlimited (by decide) _ List.mem_cons_self⟩
  · obtain ⟨definitions, all, -, spent⟩ := (limited limit).2 (eq_ok_of_isOk (by decide +kernel))
    have used : (run smallSetup (.start smallSetup (.ofSeed 2 false) #[])).2.flow.budget = 0 := by
      decide +kernel
    rw [used] at spent
    exact ⟨definitions, all, spent.symm⟩
  · have isOk : (generate smallSettings (.ofSeed 2 false)).result.isOk = true := by decide +kernel
    obtain ⟨program, returned⟩ := exists_of_isOk isOk
    exact ⟨program, returned, programs smallSettings program limit returned⟩

end RandomC
