import RandomC.Proofs.Alone
import RandomC.Proofs.Calls
import RandomC.Proofs.Program
import RandomC.Proofs.Visible

/-!
# Exact replays

An exact replay generates one function, which calls nothing.  Without an initial environment its settings
about pointers, builtin and inline functions, parameters, further functions, arrays and the size of pointers
make no difference.
-/

namespace RandomC

/-! ## The entry function -/

section

variable {setup : Setup} {other : Settings} {source : Random.Source} {log : Array Event}

theorem aside_drawSignature_entry : Aside (drawSignature setup entryNumber) := by
  have entry : drawSignature setup entryNumber = (do
      let result ← setup.layouts.chooseType setup.scalars .uint32
      discard <| Step.coin (if setup.settings.volatiles then 50 else 0)
      discard <| Step.coin (if setup.settings.consts then 10 else 0)
      return ⟨entryNumber, result, []⟩) := rfl
  rw [entry]
  apply (Site.aside_chooseType _ _ _).bind
  intro result
  apply (idle_coin _).discard.aside.bind
  intro _
  exact (idle_coin _).discard.aside.bind fun _ => .pure

/-- Once it is added, the entry function is alone. -/
theorem addEntry_alone (tracing : source.tracing = false) (decisions : source.decisions = #[]) :
    (addEntry setup).Ends (.start setup source log) (fun _ after => after.Alone)
      fun after => after.flow.functions = [] := by
  have untraced := (blind_addEntry setup).untraced (show (World.start setup source log).source.tracing = false
    from tracing) decisions
  have added : (addEntry setup).Ends (.start setup source log)
      (fun _ after => after.flow.functions.length = 1 ∧ after.context.caller = 0)
      fun after => after.flow.functions = [] := by
    unfold addEntry
    apply Step.ends_bind.mpr
    apply (aside_drawSignature_entry _).mono
    · intro signature after passes
      have none : after.flow.functions = [] := passes.functions
      refine ⟨?_, passes.caller⟩
      change (after.flow.functions ++ [signature]).length = 1
      simp [none]
    · exact fun after passes => passes.functions
  revert untraced added
  simp only [Step.Ends]
  rcases addEntry setup (.start setup source log) with ⟨failure | signature, after⟩
  · exact fun _ none => none
  · exact fun untraced added => ⟨untraced.1, untraced.2, added.1, added.2⟩

/-- The entry function is added in the same way. -/
theorem addEntry_withUnused : addEntry (setup.withUnused other) = addEntry setup := rfl

/-- Without records, the run takes the same course under settings that differ where they are not used, and the
entry function stays alone. -/
theorem run_withUnused (exact : setup.settings.exactReplay = true)
    (masked : setup.env.arrays = [] ∨ other.maxArrayLenPerDim = setup.settings.maxArrayLenPerDim)
    (tracing : source.tracing = false) (decisions : source.decisions = #[]) :
    run (setup.withUnused other) (.start (setup.withUnused other) source log) =
        run setup (.start setup source log) ∧
      (run setup).Ends (.start setup source log) (fun _ after => after.flow.functions.length = 1)
        fun after => after.flow.functions.length ≤ 1 := by
  have started := @addEntry_alone setup source log tracing decisions
  have same : World.start (setup.withUnused other) source log = World.start setup source log := rfl
  have body : Coincide (do
        buildBody setup 0
        let flow := (← get).flow
        Gen.report (.finished flow.functions.length flow.created.length)) (do
        buildBody (setup.withUnused other) 0
        let flow := (← get).flow
        Gen.report (.finished flow.functions.length flow.created.length)) := by
    have built : Coincide (buildBody setup 0) (buildBody (setup.withUnused other) 0) := by
      apply Coincide.get
      exact fun _ _ => coincide_ensureBuilt exact masked
    apply built.bind
    intro _
    apply Coincide.get
    exact fun _ _ => .report _
  rw [Step.Ends, run_eq, run_eq, same, addEntry_withUnused, Step.discard_bind_apply, Step.discard_bind_apply]
  revert started
  simp only [Step.Ends]
  rcases addEntry setup (.start setup source log) with ⟨failure | signature, world⟩
  · intro none
    exact ⟨rfl, by simp [none]⟩
  · intro alone
    obtain ⟨same, stays⟩ := body world alone
    refine ⟨same, ?_⟩
    have single := stays.functions
    clear same stays
    revert single
    dsimp only
    generalize (buildBody setup 0 >>= _) world = ended
    rcases ended with ⟨failure | _, after⟩
    · exact Nat.le_of_eq
    · exact id

/-- A run that succeeds leaves the entry function alone; no run leaves more functions. -/
theorem run_alone (exact : setup.settings.exactReplay = true) :
    (run setup).Ends (.start setup source log) (fun _ after => after.flow.functions.length = 1)
      fun after => after.flow.functions.length ≤ 1 := by
  -- What is recorded of the decisions makes no difference, so the source may be one that does not trace.
  have silent := (blind_run setup).shared Random.steady_silent (.start setup source log)
    (.start setup source.silent log) rfl rfl rfl
  have flow := silent.2.part_eq World.flow fun _ _ => rfl
  have alone := (@run_withUnused setup setup.settings source.silent log exact (.inr rfl) rfl rfl).2
  revert silent flow alone
  simp only [Step.Ends]
  rcases run setup (.start setup source log) with ⟨failure | _, after⟩ <;>
    rcases run setup (.start setup source.silent log) with ⟨_ | _, reached⟩ <;>
    rintro ⟨⟨⟩, -⟩ (flow : reached.flow = after.flow) <;> simp only [flow] <;> exact id

end

/-! ## Names in the body -/

/-- The state as if there were no functions. -/
def Flow.withoutFunctions (flow : Flow) : Flow :=
  { flow with functions := [], built := [], definitions := [], nextFunction := 1, nextParam := 1, nextLocal := 0 }

section

variable {setup : Setup} {flow : Flow} {params : List Variable} {returnLocal name : String}

theorem Aligned.withoutFunctions (aligned : Aligned setup flow) : Aligned setup flow.withoutFunctions where
  built_length := rfl
  definitions_length := rfl
  definitions_built := rfl
  length_le := by
    change (0 : Int) ≤ maxFunctions setup.settings
    unfold maxFunctions
    omega
  numbers := rfl
  nextFunction := rfl
  nextParam_pos := Nat.le_refl 1
  params := rfl
  nextLocal := rfl
  returnLocals := by
    intro index definition found
    simp [Flow.withoutFunctions] at found
  nextGlobal := aligned.nextGlobal
  created := aligned.created
  pending := aligned.pending
  candidates := aligned.candidates

/-- The body of the only function does not refer to functions. -/
theorem Flow.serves_withoutFunctions (single : flow.functions.length ≤ 1) :
    flow.Serves 0 flow.withoutFunctions where
  functions index signature later found := by
    have bound := (List.getElem?_eq_some_iff.mp found).1
    omega
  candidates := List.Subset.refl _

theorem Named.kind_ne_function (named : Named setup params flow.withoutFunctions name)
    (numbers : Numbers params) : nameKind? name.toList ≠ some .function := by
  cases named with
  | @composite kind index bound =>
      rw [kind_compositeName]
      cases kind <;> exact nofun
  | @global number bound =>
      rw [kind_globalName]
      exact nofun
  | function member => cases member
  | param member =>
      obtain ⟨number, same⟩ := numbers _ member
      rw [same, kind_paramName]
      exact nofun

/-- The only function calls nothing. -/
theorem Definition.Formed.calls_eq_nil {definition : Definition} (formed : definition.Formed setup 0 flow)
    (single : flow.functions.length ≤ 1) : definition.calls = [] := by
  apply List.eq_nil_iff_forall_not_mem.mpr
  intro call member
  obtain ⟨position, callee, later, present, -⟩ := formed.calls_fit call member
  have bound := (List.getElem?_eq_some_iff.mp present).1
  omega

/-- Behind its first line, the definition of the only function contains no name of a function. -/
theorem Definition.Formed.kind_ne_function {definition : Definition} {number : Nat} (sound : setup.Sound)
    (aligned : Aligned setup flow) (formed : definition.Formed setup 0 flow)
    (single : flow.functions.length ≤ 1)
    (numbers : Numbers definition.signature.params) (known : setup.Knows definition.signature.result)
    (own : definition.returnLocal = localName number) :
    ∀ line ∈ definition.lines.tail, ∀ name ∈ names line.text, nameKind? name.toList ≠ some .function := by
  have alone := formed.serve (Flow.serves_withoutFunctions single)
  have own_ne : nameKind? definition.returnLocal.toList ≠ some .function := by
    rw [own, kind_localName]
    exact nofun
  have accumulator_ne : nameKind? accumulator.toList ≠ some .function := by decide
  have counter_ne : nameKind? "i".toList ≠ some .function := by decide
  have body := definition.bodyLines_named sound aligned.withoutFunctions alone numbers known own
  intro line member name written
  simp only [lines, List.tail_cons, List.mem_cons] at member
  rcases member with rfl | rfl | inBody
  · have named : Named setup definition.signature.params flow.withoutFunctions name ∨
        name = definition.returnLocal := definition.resultLine_named sound known own name written
    rcases named with named | rfl
    · exact named.kind_ne_function numbers
    · exact own_ne
  · rcases definition.accumulatorLine_named sound aligned.withoutFunctions alone.seeds name written
      with named | rfl
    · exact named.kind_ne_function numbers
    · exact accumulator_ne
  · obtain ⟨above, below, split⟩ := List.append_of_mem inBody
    rw [split] at body
    rcases body.line name written with (named | rfl | rfl) | ⟨rfl, -⟩
    · exact named.kind_ne_function numbers
    · exact accumulator_ne
    · exact own_ne
    · exact counter_ne

end

/-! ## Programs -/

theorem generateWritable_withUnused {settings other : Settings} {source : Random.Source}
    (exact : settings.exactReplay = true) (off : settings.initialEnvironment = false)
    (tracing : source.tracing = false) (decisions : source.decisions = #[]) :
    generateWritable (settings.withUnused other) source = generateWritable settings source := by
  have without (settings : Settings) (off : settings.initialEnvironment = false) (scalars : List CType)
      (layouts : Layouts) : buildEnvironment settings scalars layouts = pure () := by
    simp [buildEnvironment, Environment.onlyIf, off]
  have alsoOff : (settings.withUnused other).initialEnvironment = false := off
  -- Before the functions, the settings that are not used are not looked at.
  have composites : Composite.generate (settings.withUnused other) = Composite.generate settings := rfl
  have events : firstEvents (settings.withUnused other) = firstEvents settings := rfl
  have intSize : (settings.withUnused other).intSize = settings.intSize := rfl
  have longLong : (settings.withUnused other).longLong = settings.longLong := rfl
  have seed : (settings.withUnused other).seed = settings.seed := rfl
  have untraced := (Composite.blind_generate settings
    (CType.scalars settings.intSize settings.longLong)).shared Random.steady_recordless
    { Composite.State.initial source with sheet := headedSheet settings.seed }
    { Composite.State.initial source with sheet := headedSheet settings.seed } ⟨rfl, tracing, decisions⟩ rfl rfl
  unfold generateWritable
  simp only [without settings off, without _ alsoOff, Step.pure_apply, composites, events, intSize, longLong,
    seed]
  revert untraced
  dsimp only
  rcases Composite.generate settings _ _ with ⟨failure | layouts, composites⟩
  · exact fun _ => rfl
  · intro untraced
    let setup : Setup := ⟨settings, CType.scalars settings.intSize settings.longLong, layouts, .empty⟩
    have silent := untraced.2.streams.1.2
    have same : run ⟨settings.withUnused other, setup.scalars, layouts, .empty⟩ (.start
          ⟨settings.withUnused other, setup.scalars, layouts, .empty⟩ composites.source
          (firstEvents settings layouts .empty)) =
        run setup (.start setup composites.source (firstEvents settings layouts .empty)) :=
      (run_withUnused exact (.inl rfl) silent.1 silent.2).1
    have finished : finish ⟨settings.withUnused other, setup.scalars, layouts, .empty⟩ = finish setup := rfl
    have started : (⟨⟨composites.source, []⟩, composites.sheet, .empty⟩ : Environment.Building).source =
        composites.source := rfl
    dsimp only
    dsimp only [setup] at same finished
    rw [finished, started, same]

theorem generate_withUnused {settings other : Settings} {source : Random.Source}
    (exact : settings.exactReplay = true) (off : settings.initialEnvironment = false)
    (tracing : source.tracing = false) (decisions : source.decisions = #[]) :
    generate (settings.withUnused other) source = generate settings source := by
  unfold generate
  rw [generateWritable_withUnused exact off tracing decisions]
  rfl

/-- However an exact replay runs, there is no function but the entry function, with any initial environment.  If
the run succeeds, the definition of the entry function calls nothing, and behind its first line no name of a
function stands in it.

Where there is no initial environment, an exact replay ends in the same way, with the same program or the same
failure, after the same draws, for settings that differ only where they are not used. -/
theorem exact_replay_calls_nothing :
    (∀ (setup : Setup) (source : Random.Source) (log : Array Event), setup.settings.exactReplay = true →
      let ended := run setup (.start setup source log)
      ended.2.flow.functions.length ≤ 1 ∧
        (ended.1 = .ok () → ∃ (entry : Signature) (definition : Definition),
          ended.2.flow.functions = [entry] ∧ entry.name = "func_1" ∧
            ended.2.flow.definitions = [some definition] ∧ definition.signature = entry ∧
            definition.calls = [] ∧
            (setup.Sound → ∀ line ∈ definition.lines.tail, ∀ name ∈ names line.text,
              nameKind? name.toList ≠ some .function))) ∧
      ∀ (settings other : Settings) (source : Random.Source), settings.exactReplay = true →
        settings.initialEnvironment = false →
          let outcome := generate settings source
          let again := generate (settings.withUnused other) source
          again.result = outcome.result ∧ again.source.position = outcome.source.position ∧
            again.readings = outcome.readings ∧ again.log = outcome.log := by
  constructor
  · intro setup source log exact ended
    have alone := @run_alone setup source log exact
    have atMost : ended.2.flow.functions.length ≤ 1 :=
      (alone.mono (fun _ _ => Nat.le_of_eq) fun _ atMost => atMost).reached
    refine ⟨atMost, ?_⟩
    intro succeeds
    have single := alone.of_ok succeeds
    obtain ⟨good, complete⟩ := run_good succeeds
    obtain ⟨entry, functions⟩ := List.length_eq_one_iff.mp single
    obtain ⟨definition, found⟩ :=
      good.aligned.exists_definition complete (show 0 < _ from single ▸ Nat.zero_lt_one)
    have here : ended.2.flow.functions[0]? = some entry := by rw [functions]; rfl
    obtain ⟨signature, own⟩ := good.aligned.returnLocals 0 definition found
    obtain rfl : definition.signature = entry := Option.some.inj (signature.symm.trans here)
    have formed := good.formed.definitions 0 definition found
    refine ⟨definition.signature, definition, functions, ?_, ?_, rfl, formed.calls_eq_nil atMost, ?_⟩
    · rw [Signature.name, good.aligned.number here]
      decide
    · have one : ended.2.flow.definitions.length = 1 := good.aligned.definitions_length.trans single
      obtain ⟨only, definitions⟩ := List.length_eq_one_iff.mp one
      have first : ended.2.flow.definitions[0]? = some (some definition) := found
      rw [definitions] at first ⊢
      exact congrArg (fun only => [only]) (Option.some.inj first)
    · intro sound
      have member : definition.signature ∈ ended.2.flow.functions := List.mem_of_getElem? here
      exact formed.kind_ne_function sound good.aligned atMost (good.aligned.numbers_params member)
        (good.formed.functions _ member).1 own
  · intro settings other source exact off outcome again
    have first := agrees_generate settings Random.steady_silent
      (show source.silent = source.silent.silent from rfl)
    have second := agrees_generate (settings.withUnused other) Random.steady_silent
      (show source.silent = source.silent.silent from rfl)
    have same := @generate_withUnused settings other source.silent exact off rfl rfl
    rw [same] at second
    exact ⟨second.result.trans first.result.symm,
      Random.steady_silent.position (second.source.trans first.source.symm),
      second.readings.trans first.readings.symm, second.log.trans first.log.symm⟩

/-- The settings of an exact replay with short blocks. -/
def exactSettings : Settings := { smallSettings with exactReplay := true }

/-- The setup of an exact replay without an initial environment. -/
def exactSetup : Setup := { smallSetup with settings := exactSettings }

theorem exactSetup_sound : exactSetup.Sound where
  globals := nofun
  arrays := nofun
  pointers := nofun
  nextId := Int.le_refl 0
  scalars := names_scalars 4 true

/-- A small replay succeeds with the entry function alone, and it is the same replay when there may be ten
functions, with builtins and without pointers. -/
theorem exact_replay_calls_nothing_small :
    exactSetup.settings.exactReplay = true ∧ exactSettings.initialEnvironment = false ∧
      (∃ (entry : Signature) (definition : Definition),
        (run exactSetup (.start exactSetup (.ofSeed 0 false) #[])).2.flow.functions = [entry] ∧
          definition.signature = entry ∧ definition.calls = [] ∧
          ∀ line ∈ definition.lines.tail, ∀ name ∈ names line.text, nameKind? name.toList ≠ some .function) ∧
      (generate exactSettings (.ofSeed 0 true)).result.isOk ∧
      (generate (exactSettings.withUnused { maxFuncs := 10, builtins := true, pointers := false })
        (.ofSeed 0 true)).result = (generate exactSettings (.ofSeed 0 true)).result := by
  have exact : exactSetup.settings.exactReplay = true := rfl
  have succeeds : (run exactSetup (.start exactSetup (.ofSeed 0 false) #[])).1 = .ok () :=
    eq_ok_of_isOk (by decide +kernel)
  obtain ⟨entry, definition, functions, -, -, own, calls, mentioned⟩ :=
    (exact_replay_calls_nothing.1 exactSetup (.ofSeed 0 false) #[] exact).2 succeeds
  refine ⟨exact, rfl, ⟨entry, definition, functions, own, calls, mentioned exactSetup_sound⟩, ?_, ?_⟩
  · decide +kernel
  · exact (exact_replay_calls_nothing.2 exactSettings _ (.ofSeed 0 true) exact rfl).1

end RandomC
