import Mathlib.Data.Set.List
import RandomC.Proofs.Results
import RandomC.Proofs.Statement

/-!
# Every function gets its body

A body that is built inside another one starts with more functions than the other one did, so the number
of functions that may still be created carries the induction.  At the end of a run every function has a
definition, and the state is good.
-/

namespace RandomC

variable {setup : Setup}

/-! ## Definitions -/

/-- The state in which the body of the function at an index begins: its return local has a number. -/
def World.enter (index : Nat) (world : World) : World :=
  { world with
    flow := world.flow.withLocal
    context := .of index
    history := .entered index (localName world.flow.nextLocal) :: world.history }

theorem World.Awaits.bound {world : World} {index : Nat} (awaits : world.Awaits setup index) :
    index < world.flow.functions.length := by
  have last := awaits.last
  omega

theorem World.Awaits.nextLocal {world : World} {index : Nat} (awaits : world.Awaits setup index) :
    world.flow.nextLocal = index := by
  have numbered := awaits.aligned.nextLocal
  have last := awaits.last
  simp only [Flow.withLocal] at numbered
  omega

/-- Where the body of the last function begins, the state is good. -/
theorem World.Awaits.enter {world : World} {index : Nat} (awaits : world.Awaits setup index) :
    (world.enter index).Good setup where
  aligned := awaits.aligned
  begun := by
    have functions : (world.enter index).flow.functions.length = index + 1 := awaits.last
    rw [functions, World.enter, awaits.nextLocal]
    exact awaits.begun.succ
  formed :=
    have wider : world.flow.Widens world.flow.withLocal := ⟨List.prefix_rfl, List.prefix_rfl⟩
    ⟨awaits.formed.functions, awaits.formed.created, awaits.formed.qualified, awaits.formed.pending,
      fun other definition found => (awaits.formed.definitions other definition found).mono wider⟩
  history := ⟨⟨index, rfl, by rw [awaits.nextLocal]⟩, awaits.history⟩

/-- The site of the body of a function, in the state in which the body is to be built. -/
def Site.ofBody (setup : Setup) (build : Option (Int → Gen Unit)) (signature : Signature) (world : World) :
    Site :=
  ⟨setup, .ofParams signature.params (localName world.flow.nextLocal), build⟩

theorem World.Awaits.fits {world : World} {index : Nat} {build : Option (Int → Gen Unit)}
    (awaits : world.Awaits setup index) {signature : Signature}
    (found : world.flow.functions[index]? = some signature)
    (builds : ∀ make, build = some make → Builds setup make) :
    (Site.ofBody setup build signature world).Fits index (world.enter index) where
  running := rfl
  bound := awaits.bound
  params := ⟨signature, found, rfl⟩
  complete later after := by
    have last := awaits.last
    have built : world.flow.built.length = world.flow.functions.length := awaits.aligned.built_length
    have none : world.flow.built[later]? = none := List.getElem?_eq_none (by omega)
    simp [World.enter, Flow.withLocal, none]
  locals := rfl
  scope := rfl
  returns := by simp [Site.ofBody, localName, Scope.ofParams]
  builds := builds

/-- A definition was made for the function at an index, in a state that has only grown meanwhile. -/
structure World.Defines (setup : Setup) (index : Nat) (before : World) (definition : Definition)
    (after : World) : Prop where
  good : after.Good setup
  flow : before.flow.Extends after.flow
  complete : ∀ later, before.flow.built.length ≤ later → after.flow.built[later]? ≠ some false
  context : after.context = before.context
  history : before.history <:+ after.history
  signature : before.flow.functions[index]? = some definition.signature
  returnLocal : definition.returnLocal = localName index
  formed : definition.Formed setup index after.flow

theorem World.Defines.remember {moment : Moment} {index : Nat} {definition : Definition}
    {before after : World} (defines : before.Defines setup index definition after)
    (sound : moment.Sound setup after.history) :
    before.Defines setup index definition { after with history := moment :: after.history } where
  good := (defines.good.remember sound).1
  flow := defines.flow
  complete := defines.complete
  context := defines.context
  history := defines.history.trans (List.suffix_cons _ _)
  signature := defines.signature
  returnLocal := defines.returnLocal
  formed := defines.formed

theorem inContext_ends {α : Type} {context : Context} {step : Gen α} {world : World}
    {ok : α → World → Prop} {failed : World → Prop}
    (ends : step.Ends { world with context }
      (fun value after => ok value { after with context := world.context })
      fun after => failed { after with context := world.context }) :
    (Gen.inContext context step).Ends world ok failed := by
  revert ends
  simp only [Step.Ends, Gen.inContext]
  rcases step { world with context } with ⟨failure | value, after⟩
  · exact id
  · exact id

theorem mix_keeps {site : Site} {caller : Nat} {world : World} (fits : site.Fits caller world)
    (good : world.Good site.setup) :
    Keeps site.setup World.Proceeds site.mix world fun made after => ∀ name expr,
      made = some (name, expr) → (∃ v ∈ site.setup.env.writable, v.name = name ∧ expr.type = v.type) ∧
        expr.Formed site.setup caller site.scope.params after.flow := by
  unfold Site.mix
  dsimp only
  split
  · exact .pure good nofun
  · apply Keeps.idle (idle_choose _) good
    intro v start good still member
    have known : site.setup.Knows v.type := .global (List.mem_filter.mp member).1
    apply (Site.expression_makes (.plain v.type) start known (fits.still still) good).proceeds.bind
    intro expr after good _ admits
    apply Keeps.pure good
    intro name other same
    cases same
    exact ⟨⟨v, member, rfl, admits.type⟩, admits.formed⟩

theorem buildDefinition_ends {build : Option (Int → Gen Unit)} {world : World} {index : Nat}
    (builds : ∀ make, build = some make → Builds setup make) (awaits : world.Awaits setup index) :
    (buildDefinition setup build index).Ends world (world.Defines setup index)
      fun after => HistorySound setup after.history := by
  have bound := awaits.bound
  have found := List.getElem?_eq_getElem bound
  generalize world.flow.functions[index] = signature at found
  apply Step.ends_bind.mpr
  apply functionAt_ends found
  simp only [Gen.freshLocal, Gen.changeFlow, Gen.remember, Step.ends_bind, Step.ends_get,
    Step.ends_modify, Step.ends_pure]
  apply inContext_ends
  change Step.Ends _ (world.enter index) _ _
  have good := awaits.enter
  have fits := awaits.fits found builds
  have body := Site.block_makes 0 false (world.enter index) fits good
  apply Step.ends_bind.mpr
  apply Step.Ends.mono body
  · intro body middle ends
    rcases ends with ⟨good, proceeds, admits⟩
    apply Step.ends_bind.mpr
    apply Step.Ends.mono (mix_keeps (fits.mono proceeds) good)
    · intro mix after ends
      rcases ends with ⟨good, rest, mixed⟩
      have proceeds := proceeds.trans rest
      refine ⟨⟨good.aligned, good.begun, good.formed, good.history⟩, ?_, ?_, rfl, ?_, found, ?_, ?_⟩
      · exact ⟨proceeds.flow.functions, proceeds.flow.built, proceeds.flow.definitions,
          proceeds.flow.created, proceeds.flow.candidates, proceeds.flow.pending⟩
      · exact proceeds.complete
      · exact (List.suffix_cons _ _).trans proceeds.history
      · rw [awaits.nextLocal]
      · exact ⟨rfl, admits.mono rest.flow.widens, mixed⟩
    · exact fun _ sound => sound
  · exact fun _ sound => sound

/-! ## Bodies -/

theorem Flow.Extends.withDefinition {before after : Flow} {index : Nat} {definition : Definition}
    (extended : before.Extends after) (bound : index < before.built.length)
    (same : before.definitions.length = before.built.length) :
    (before.withDefinition index definition).Extends (after.withDefinition index definition) where
  functions := extended.functions
  built := by
    rcases extended.built with ⟨rest, appended⟩
    simp only [Flow.withDefinition, ← appended]
    rw [List.set_append_left _ _ bound]
    exact List.prefix_append _ _
  definitions := by
    rcases extended.definitions with ⟨rest, appended⟩
    simp only [Flow.withDefinition, ← appended]
    rw [List.set_append_left _ _ (same ▸ bound)]
    exact List.prefix_append _ _
  created := extended.created
  candidates := extended.candidates
  pending := extended.pending

/-- The definition that was made takes the place that was kept for it. -/
theorem World.Defines.settles {before after : World} {index : Nat} {definition : Definition}
    (awaits : before.Awaits setup index) (defines : before.Defines setup index definition after) :
    before.Settles setup index { after with flow := after.flow.withDefinition index definition } := by
  have bound : index < before.flow.built.length := (List.getElem?_eq_some_iff.mp awaits.unbuilt).1
  have lengths := awaits.aligned.definitions_length.trans awaits.aligned.built_length.symm
  have signature := defines.flow.widens.function defines.signature
  constructor
  · constructor
    · exact defines.good.aligned.withDefinition signature defines.returnLocal
    · exact defines.good.begun
    · exact defines.good.formed.withDefinition defines.formed
    · exact defines.good.history
  · exact ⟨definition, defines.flow.withDefinition bound lengths⟩
  · intro later from_index
    simp only [Flow.withDefinition]
    by_cases same : index = later
    · subst later
      rw [List.getElem?_set_self (Nat.lt_of_lt_of_le bound defines.flow.built.length_le)]
      simp
    · rw [List.getElem?_set_ne same]
      have last := awaits.last
      have built := awaits.aligned.built_length
      simp only [Flow.withLocal] at built
      exact defines.complete later (by omega)
  · exact defines.context
  · exact defines.history

theorem ensureBuilt_builds {build : Option (Int → Gen Unit)}
    (builds : ∀ make, build = some make → Builds setup make) :
    Builds setup fun index => ensureBuilt setup build index := by
  intro index world awaits
  apply Step.ends_bind.mpr
  apply builtAt_ends awaits.unbuilt
  simp only [Bool.false_eq_true, if_false, Gen.spanning, Step.ends_bind, Step.ends_get]
  apply (buildDefinition_ends builds awaits).mono
  · intro definition after defines
    have extended : world.checkpoint.Extends after.checkpoint := by
      refine ⟨defines.flow, ?_⟩
      simp only [World.checkpoint, defines.context]
      exact List.prefix_rfl
    have completed := defines.remember
      (show Moment.Sound setup after.history (.completed world.checkpoint after.checkpoint) from extended)
    have defined := completed.remember (show Moment.Sound setup _ (.defined index definition) from trivial)
    simp only [Gen.remember, Step.ends_modify, Step.ends_pure]
    have bound : index < after.flow.functions.length :=
      Nat.lt_of_lt_of_le awaits.bound defines.flow.functions.length_le
    apply define_ends (defines.good.aligned.definitions_length ▸ bound)
      (defines.good.aligned.built_length ▸ bound)
    exact defined.settles awaits
  · exact fun _ sound => sound

/-- Induction on the number of functions that may still be created. -/
theorem bodies_builds (free : Nat) : ∀ make, bodies setup free = some make → Builds setup make := by
  induction free with
  | zero => exact nofun
  | succ free ih =>
      intro make given
      cases given
      exact ensureBuilt_builds ih

/-! ## Runs -/

/-- Every function has a definition. -/
def Flow.Complete (flow : Flow) : Prop := ∀ index : Nat, flow.built[index]? ≠ some false

/-- Builds the body of the function at an index, and those of the functions that this creates. -/
def buildBody (setup : Setup) (index : Int) : Gen Unit := do
  ensureBuilt setup (nextBodies setup (← get).flow) index

theorem buildBody_builds : Builds setup (buildBody setup) := by
  intro index world awaits
  apply Step.ends_bind.mpr
  apply Step.ends_get.mpr
  exact ensureBuilt_builds (bodies_builds _) index world awaits

/-- A function that has its body is left alone. -/
theorem ensureBuilt_of_built {build : Option (Int → Gen Unit)} {index : Nat} {world : World}
    (built : world.flow.built[index]? = some true) :
    ensureBuilt setup build index world = (.ok (), world) := by
  simp only [ensureBuilt, Step.bind_apply, builtAt_apply built, if_true, Step.pure_apply]

/-- Where every function has a definition, there is nothing left to do. -/
theorem buildFrom_of_complete {left index : Nat} {world : World} (aligned : Aligned setup world.flow)
    (complete : world.flow.Complete) : buildFrom setup left index world = (.ok (), world) := by
  induction left generalizing index with
  | zero => rfl
  | succ left ih =>
      by_cases present : index < world.flow.functions.length
      · have built := aligned.built present (complete index)
        have here : buildFrom setup (left + 1) index world =
            (do
              ensureBuilt setup (nextBodies setup world.flow) index
              buildFrom setup left (index + 1)) world := by
          rw [buildFrom]
          exact congrFun (if_pos present) world
        rw [here, Step.bind_apply, ensureBuilt_of_built built]
        exact ih
      · rw [buildFrom]
        exact congrFun (if_neg present) world

/-- The state before the first function, but for the number of the next one. -/
theorem initial_aligned : Aligned setup { Flow.initial setup with nextFunction := 1 } where
  built_length := rfl
  definitions_length := rfl
  definitions_built := rfl
  length_le := by
    simp only [Flow.initial, maxFunctions, List.length_nil]
    omega
  numbers := rfl
  nextFunction := rfl
  nextParam_pos := Nat.le_refl 1
  params := rfl
  nextLocal := rfl
  returnLocals := nofun
  nextGlobal := by simp [Flow.initial]
  created := rfl
  pending := rfl
  candidates := by simp [Flow.initial]

theorem initial_formed : Flow.Formed setup { Flow.initial setup with nextFunction := 1 } :=
  ⟨nofun, nofun, nofun, nofun, nofun⟩

theorem idle_drawSignature :
    Idle (drawSignature setup entryNumber) fun signature =>
      signature.number = entryNumber ∧ signature.params = [] ∧ setup.Knows signature.result := by
  simp only [drawSignature, ne_eq, not_true, if_false]
  apply (idle_chooseType .uint32).bind
  intro result known
  apply (idle_coin _).discard.bind
  intro _ _
  apply (idle_coin _).discard.bind
  exact fun _ _ => .pure ⟨rfl, rfl, known⟩

/-- The state holds nothing but the entry function, which has the given signature. -/
structure World.Opened (setup : Setup) (signature : Signature) (world : World) : Prop where
  number : signature.number = entryNumber
  params : signature.params = []
  flow : world.flow = Flow.withFunction signature { Flow.initial setup with nextFunction := 1 }
  history : world.history = []

/-- The entry function is the first one, and its result has a type that is known. -/
theorem addEntry_opens (source : Random.Source) (log : Array Event) :
    (addEntry setup).Ends (.start setup source log)
      (fun _ after => ∃ signature, setup.Knows signature.result ∧ after.Opened setup signature)
      fun after => after.history = [] := by
  apply Step.ends_bind.mpr
  apply (idle_drawSignature _).mono
  · intro signature after ends
    rcases ends with ⟨still, number, params, known⟩
    simp only [addFunction, Gen.changeFlow, Step.ends_bind, Step.ends_modify, Step.ends_pure]
    refine ⟨signature, known, number, params, ?_, still.history⟩
    rw [still.flow, Flow.withFunction, params]
    rfl
  · exact fun _ still => still.history

/-- The entry function waits for its body if the type of its result is known. -/
theorem World.Opened.awaits {signature : Signature} {world : World} (opened : world.Opened setup signature)
    (known : setup.Knows signature.result) : world.Awaits setup 0 where
  last := by rw [opened.flow]; rfl
  unbuilt := by rw [opened.flow]; rfl
  aligned := by
    have room : ((Flow.initial setup).functions.length : Int) < maxFunctions setup.settings := by
      simp only [Flow.initial, maxFunctions, List.length_nil]
      omega
    rw [opened.flow]
    exact initial_aligned.withFunction room opened.number (by rw [opened.params]; rfl)
  begun := nofun
  formed := by
    rw [opened.flow]
    exact initial_formed.withFunction ⟨known, by simp [opened.params]⟩
  history := opened.history ▸ trivial

/-- The entry function is the first one, and waits for its body. -/
theorem addEntry_ends (source : Random.Source) (log : Array Event) :
    (addEntry setup).Ends (.start setup source log)
      (fun _ after => after.Awaits setup 0) fun after => HistorySound setup after.history := by
  apply (addEntry_opens source log).mono
  · exact fun _ after ⟨_, known, opened⟩ => opened.awaits known
  · exact fun _ none => none ▸ trivial

/-- Building the body of the entry function leaves nothing to do for the loop over all functions. -/
theorem run_eq (source : Random.Source) (log : Array Event) :
    run setup (.start setup source log) = (do
      discard <| addEntry setup
      buildBody setup 0
      let flow := (← get).flow
      Gen.report (.finished flow.functions.length flow.created.length)) (.start setup source log) := by
  have added := @addEntry_ends setup source log
  revert added
  simp only [run, Step.discard_bind_apply, Step.Ends]
  rcases addEntry setup (.start setup source log) with ⟨failure | signature, world⟩
  · exact fun _ => rfl
  · intro awaits
    have present := awaits.bound
    have built := buildBody_builds 0 world awaits
    revert built
    generalize limit : max world.flow.functions.length (maxFunctions setup.settings).toNat = left
    cases left with
    | zero => omega
    | succ left =>
        simp only [buildFrom, buildBody, Step.Ends, Step.bind_apply, Step.get_apply, present, if_true,
          limit, Int.natCast_zero]
        rcases ensureBuilt setup (nextBodies setup world.flow) 0 world with ⟨failure | _, after⟩
        · exact fun _ => rfl
        · intro settles
          have complete : after.flow.Complete := fun index => settles.complete index (Nat.zero_le _)
          simp only [buildFrom_of_complete settles.good.aligned complete]

/-- A run fails with a sound history, or it ends in a good state in which every function has a
definition. -/
theorem run_ends (source : Random.Source) (log : Array Event) :
    (run setup).Ends (.start setup source log)
      (fun _ after => after.Good setup ∧ after.flow.Complete)
      fun after => HistorySound setup after.history := by
  apply Step.Ends.congr _ (run_eq source log)
  apply Step.ends_bind.mpr
  apply Step.ends_discard.mpr
  apply (addEntry_ends source log).mono
  · intro _ world awaits
    apply Step.ends_bind.mpr
    apply (buildBody_builds 0 world awaits).mono
    · intro _ after settles
      have complete : after.flow.Complete := fun index => settles.complete index (Nat.zero_le _)
      have good := settles.good
      exact ⟨⟨good.aligned, good.begun, good.formed, good.history⟩, complete⟩
    · exact fun _ sound => sound
  · exact fun _ sound => sound

/-- A run that succeeds ends in a good state in which every function has a definition. -/
theorem run_good {source : Random.Source} {log : Array Event}
    (succeeds : (run setup (.start setup source log)).1 = .ok ()) :
    (run setup (.start setup source log)).2.Good setup ∧
      (run setup (.start setup source log)).2.flow.Complete :=
  (run_ends source log).of_ok succeeds

theorem Aligned.exists_definition {flow : Flow} {index : Nat} (aligned : Aligned setup flow)
    (complete : flow.Complete) (bound : index < flow.functions.length) :
    ∃ definition, flow.definitions[index]? = some (some definition) := by
  rw [← aligned.definitions_length] at bound
  have found := List.getElem?_eq_getElem bound
  generalize flow.definitions[index] = entry at found
  cases entry with
  | some definition => exact ⟨definition, found⟩
  | none =>
      have unbuilt : flow.built[index]? = some false := by
        rw [← aligned.definitions_built, List.getElem?_map, found]
        rfl
      exact absurd unbuilt (complete index)

/-- Where every function has a definition, the definitions are those of the functions, in order. -/
theorem Aligned.all_definitions {flow : Flow} (aligned : Aligned setup flow) (complete : flow.Complete) :
    ∃ definitions : List Definition, definitions.map some = flow.definitions ∧
      definitions.map (·.signature) = flow.functions ∧
      definitions.map (·.returnLocal) = (List.range flow.functions.length).map localName := by
  have present : flow.definitions ∈ Set.range (List.map some) := by
    rw [Set.range_list_map]
    intro entry member
    obtain ⟨index, found⟩ := List.getElem?_of_mem member
    have bound := (List.getElem?_eq_some_iff.mp found).1
    obtain ⟨definition, same⟩ := aligned.exists_definition complete (aligned.definitions_length ▸ bound)
    exact ⟨definition, Option.some.inj (same.symm.trans found)⟩
  rcases present with ⟨definitions, all⟩
  have length : definitions.length = flow.functions.length := by
    rw [← aligned.definitions_length, ← all, List.length_map]
  have own (index : Nat) (bound : index < definitions.length) :
      flow.functions[index]? = some definitions[index].signature ∧
        definitions[index].returnLocal = localName index := by
    apply aligned.returnLocals
    simp [← all, bound]
  refine ⟨definitions, all, ?_, ?_⟩
  · apply List.ext_getElem
    · simpa using length
    · intro index bound inFunctions
      rw [List.length_map] at bound
      have found := (own index bound).1
      rw [List.getElem?_eq_getElem inFunctions] at found
      simpa using (Option.some.inj found).symm
  · apply List.ext_getElem
    · simpa using length
    · intro index bound inRange
      rw [List.length_map] at bound
      simpa using (own index bound).2

theorem Aligned.number {flow : Flow} {index : Nat} {signature : Signature}
    (aligned : Aligned setup flow) (found : flow.functions[index]? = some signature) :
    signature.number = index + 1 := by
  have numbers := congrArg (·[index]?) aligned.numbers
  have bound := (List.getElem?_eq_some_iff.mp found).1
  simp only [List.getElem?_map, found, Option.map_some, List.getElem?_range' bound] at numbers
  simpa [Nat.add_comm] using numbers

end RandomC
