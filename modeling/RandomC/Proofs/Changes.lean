import RandomC.Proofs.Draws

/-!
# Changes of the shared state

There are three: a global is created, a function is created, and a function gets its definition.  Each
keeps the state aligned and well-formed and extends it, except that a new function waits for its body: its
return local is still to be numbered, and its definition takes the place that was kept for it.
-/

namespace RandomC

variable {setup : Setup}

/-! ## Creating a global -/

/-- The state with one more global. -/
def Flow.withGlobal (v : GlobalVar) (initial : Initial) (flow : Flow) : Flow :=
  { flow with
    nextGlobal := flow.nextGlobal + 1
    created := flow.created ++ [v]
    candidates := flow.candidates ++ [v.candidate]
    pending := flow.pending ++ [⟨v, initial⟩] }

section

variable {flow : Flow} {v : GlobalVar} {initial : Initial}

theorem Flow.extends_withGlobal : flow.Extends (flow.withGlobal v initial) where
  functions := List.prefix_rfl
  built := List.prefix_rfl
  definitions := List.prefix_rfl
  created := List.prefix_append _ _
  candidates := List.prefix_append _ _
  pending := List.prefix_append _ _

theorem Aligned.withGlobal (aligned : Aligned setup flow) (name : v.name = globalName flow.nextGlobal) :
    Aligned setup (flow.withGlobal v initial) where
  built_length := aligned.built_length
  definitions_length := aligned.definitions_length
  definitions_built := aligned.definitions_built
  length_le := aligned.length_le
  numbers := aligned.numbers
  nextFunction := aligned.nextFunction
  nextParam_pos := aligned.nextParam_pos
  params := aligned.params
  nextLocal := aligned.nextLocal
  returnLocals := aligned.returnLocals
  nextGlobal := by
    have next := aligned.nextGlobal
    simp only [Flow.withGlobal, List.length_append, List.length_singleton]
    omega
  created := by
    simp only [Flow.withGlobal, List.map_append, List.length_append, List.length_singleton,
      List.range_succ, aligned.created, List.map_cons, List.map_nil, name, aligned.nextGlobal]
  pending := by
    simp only [Flow.withGlobal, List.map_append, aligned.pending, List.map_cons, List.map_nil]
  candidates := by
    simp only [Flow.withGlobal, List.map_append, aligned.candidates, List.append_assoc, List.map_cons,
      List.map_nil]

theorem Flow.Formed.withGlobal (formed : flow.Formed setup) (known : setup.Knows v.type)
    (suits : v.Suits setup.settings) (plain : initial.Plain) : (flow.withGlobal v initial).Formed setup where
  functions := formed.functions
  created := by
    intro other member
    rcases List.mem_append.mp member with old | new
    · exact formed.created other old
    · obtain rfl := List.mem_singleton.mp new
      exact known
  qualified := List.forall_mem_append.mpr ⟨formed.qualified, List.forall_mem_singleton.mpr suits⟩
  pending := by
    intro other member
    rcases List.mem_append.mp member with old | new
    · exact formed.pending other old
    · obtain rfl := List.mem_singleton.mp new
      exact plain
  definitions index definition found := (formed.definitions index definition found).mono extends_withGlobal.widens

theorem World.Good.withGlobal {before : World} (after : World) (good : before.Good setup)
    (flow : after.flow = before.flow.withGlobal v initial)
    (context : after.context = before.context) (history : after.history = before.history)
    (name : v.name = globalName before.flow.nextGlobal) (known : setup.Knows v.type)
    (suits : v.Suits setup.settings) (plain : initial.Plain) : after.Good setup ∧ before.Grows after := by
  constructor
  · constructor
    · exact flow ▸ good.aligned.withGlobal name
    · rw [flow, history]
      exact good.begun
    · exact flow ▸ good.formed.withGlobal known suits plain
    · exact history ▸ good.history
  · constructor
    · constructor
      · exact flow ▸ Flow.extends_withGlobal
      · intro index bound
        rw [flow, Flow.withGlobal, List.getElem?_eq_none bound]
        simp
      · rw [context]
      · rw [context]
      · exact history ▸ List.suffix_rfl
    · exact context

end

/-- The created global is on offer, and is assignable where it is created to be assigned. -/
theorem createGlobal_keeps {type : CType} {forAssignment : Bool} {world : World}
    (good : world.Good setup) (known : setup.Knows type) :
    Keeps setup World.Grows (createGlobal setup type forAssignment) world fun candidate after =>
      candidate ∈ after.flow.candidates ∧ (forAssignment → candidate.assignable) := by
  unfold Keeps createGlobal Gen.freshGlobal
  simp only [Gen.changeFlow, Step.ends_bind, Step.ends_get, Step.ends_modify, Step.ends_pure]
  apply (idle_drawQualifiers setup.settings _).mono
  · rintro qualifiers drawn ⟨began, consts, volatiles⟩
    apply (idle_drawConstant type _).mono
    · intro literal after drawn
      rcases drawn with ⟨still, plain⟩
      have same := began.trans still
      simp only [Gen.declareLater, Gen.addGlobal, Gen.changeFlow, Step.ends_bind, Step.ends_modify,
        Step.ends_pure]
      generalize made : (⟨globalName world.flow.nextGlobal, type, qualifiers.1 && ! forAssignment,
        qualifiers.2⟩ : GlobalVar) = v
      have suits : v.Suits setup.settings := by
        rw [← made]
        exact ⟨fun isConst => consts (Bool.and_eq_true _ _ ▸ isConst).1, volatiles⟩
      have result := good.withGlobal { after with flow := world.flow.withGlobal v (.literal literal) }
        rfl same.context same.history (by rw [← made]) (by rw [← made]; exact known) suits plain
      rw [same.flow]
      refine ⟨result.1, result.2, by simp, ?_⟩
      intro wanted
      simp [← made, GlobalVar.candidate, wanted]
    · intro after still
      exact (began.trans still).history ▸ good.history
  · intro after still
    exact still.history ▸ good.history

theorem createZeroGlobal_keeps {type : CType} {world : World} (good : world.Good setup)
    (known : setup.Knows type) :
    Keeps setup World.Grows (createZeroGlobal type) world fun candidate after =>
      candidate ∈ after.flow.candidates := by
  unfold Keeps createZeroGlobal Gen.freshGlobal
  simp only [Gen.changeFlow, Gen.declareLater, Gen.addGlobal, Step.ends_bind, Step.ends_get,
    Step.ends_modify, Step.ends_pure]
  generalize made : (⟨globalName world.flow.nextGlobal, type, false, false⟩ : GlobalVar) = v
  have suits : v.Suits setup.settings := by
    rw [← made]
    exact ⟨fun isConst => absurd isConst Bool.false_ne_true,
      fun isVolatile => absurd isVolatile Bool.false_ne_true⟩
  have result := good.withGlobal { world with flow := world.flow.withGlobal v .zero }
    rfl rfl rfl (by rw [← made]) (by rw [← made]; exact known) suits trivial
  exact ⟨result.1, result.2, by simp⟩

/-! ## Charging the budget -/

/-- The state with another budget of statements. -/
def Flow.withBudget (budget : Int) (flow : Flow) : Flow := { flow with budget }

theorem Flow.extends_withBudget {flow : Flow} {budget : Int} : flow.Extends (flow.withBudget budget) :=
  ⟨List.prefix_rfl, List.prefix_rfl, List.prefix_rfl, List.prefix_rfl, List.prefix_rfl, List.prefix_rfl⟩

/-- The budget does not matter for what a state holds. -/
theorem World.Good.withBudget {before : World} (after : World) {budget : Int} (good : before.Good setup)
    (flow : after.flow = before.flow.withBudget budget) (context : after.context = before.context)
    (history : after.history = before.history) : after.Good setup ∧ before.Grows after := by
  have aligned : Aligned setup (before.flow.withBudget budget) := { good.aligned with }
  have formed : (before.flow.withBudget budget).Formed setup :=
    ⟨good.formed.functions, good.formed.created, good.formed.qualified, good.formed.pending,
      fun index definition found =>
      (good.formed.definitions index definition found).mono Flow.extends_withBudget.widens⟩
  constructor
  · constructor
    · exact flow ▸ aligned
    · rw [flow, history]
      exact good.begun
    · exact flow ▸ formed
    · exact history ▸ good.history
  · constructor
    · constructor
      · exact flow ▸ Flow.extends_withBudget
      · intro index bound
        rw [flow, Flow.withBudget, List.getElem?_eq_none bound]
        simp
      · rw [context]
      · rw [context]
      · exact history ▸ List.suffix_rfl
    · exact context

/-! ## Creating a function -/

/-- The state with one more function, which has no body yet. -/
def Flow.withFunction (signature : Signature) (flow : Flow) : Flow :=
  { flow with
    functions := flow.functions ++ [signature]
    built := flow.built ++ [false]
    definitions := flow.definitions ++ [none]
    nextFunction := flow.nextFunction + 1
    nextParam := flow.nextParam + signature.params.length }

/-- The state in which the next local variable is numbered. -/
def Flow.withLocal (flow : Flow) : Flow := { flow with nextLocal := flow.nextLocal + 1 }

/-- The state in which the function at an index has a definition. -/
def Flow.withDefinition (index : Nat) (definition : Definition) (flow : Flow) : Flow :=
  { flow with
    built := flow.built.set index true
    definitions := flow.definitions.set index (some definition) }

/-- The last function was just created and waits for its body.  But for its return local, the state is
good. -/
structure World.Awaits (setup : Setup) (world : World) (index : Nat) : Prop where
  last : world.flow.functions.length = index + 1
  unbuilt : world.flow.built[index]? = some false
  aligned : Aligned setup world.flow.withLocal
  begun : Begun index world.history
  formed : world.flow.Formed setup
  history : HistorySound setup world.history

section

variable {flow : Flow} {signature : Signature}

theorem Aligned.withFunction (aligned : Aligned setup flow)
    (room : (flow.functions.length : Int) < maxFunctions setup.settings)
    (number : signature.number = flow.nextFunction)
    (params : signature.params.map (·.name) =
      (List.range' flow.nextParam signature.params.length).map paramName) :
    Aligned setup (flow.withFunction signature).withLocal where
  built_length := by simp [Flow.withFunction, Flow.withLocal, aligned.built_length]
  definitions_length := by simp [Flow.withFunction, Flow.withLocal, aligned.definitions_length]
  definitions_built := by simp [Flow.withFunction, Flow.withLocal, aligned.definitions_built]
  length_le := by
    simp only [Flow.withFunction, Flow.withLocal, List.length_append, List.length_singleton]
    omega
  numbers := by
    have next := aligned.nextFunction
    simp only [Flow.withFunction, Flow.withLocal, List.map_append, aligned.numbers, List.length_append,
      List.length_singleton, List.range'_concat, List.map_cons, List.map_nil, number, next]
    simp [Nat.add_comm]
  nextFunction := by simp [Flow.withFunction, Flow.withLocal, aligned.nextFunction]
  nextParam_pos := Nat.le_add_right_of_le aligned.nextParam_pos
  params := by
    have positive := aligned.nextParam_pos
    have split : flow.nextParam + signature.params.length - 1 =
        flow.nextParam - 1 + signature.params.length := by omega
    have start : 1 + (flow.nextParam - 1) = flow.nextParam := by omega
    simp only [Flow.withFunction, Flow.withLocal, List.flatMap_append, List.map_append, aligned.params,
      List.flatMap_cons, List.flatMap_nil, List.append_nil, params]
    rw [split, ← List.range'_append_1, start, List.map_append]
  nextLocal := by simp [Flow.withFunction, Flow.withLocal, aligned.nextLocal]
  returnLocals := by
    intro index definition found
    simp only [Flow.withFunction, Flow.withLocal] at found ⊢
    rcases Nat.lt_or_ge index flow.definitions.length with old | new
    · rw [List.getElem?_append_left old] at found
      have known := aligned.returnLocals index definition found
      rw [List.getElem?_append_left (aligned.definitions_length ▸ old)]
      exact known
    · -- The new function has no definition.
      rw [List.getElem?_append_right new] at found
      simp [List.getElem?_singleton] at found
  nextGlobal := aligned.nextGlobal
  created := aligned.created
  pending := aligned.pending
  candidates := aligned.candidates

theorem Flow.Formed.withFunction (formed : flow.Formed setup)
    (known : setup.Knows signature.result ∧ ∀ v ∈ signature.params, setup.Knows v.type) :
    (flow.withFunction signature).Formed setup where
  functions := by
    intro other member
    rcases List.mem_append.mp member with old | new
    · exact formed.functions other old
    · obtain rfl := List.mem_singleton.mp new
      exact known
  created := formed.created
  qualified := formed.qualified
  pending := formed.pending
  definitions := by
    intro index definition found
    have extended : flow.Extends (flow.withFunction signature) :=
      ⟨List.prefix_append _ _, List.prefix_append _ _, List.prefix_append _ _, List.prefix_rfl,
        List.prefix_rfl, List.prefix_rfl⟩
    simp only [Flow.withFunction] at found
    rcases Nat.lt_or_ge index flow.definitions.length with old | new
    · rw [List.getElem?_append_left old] at found
      exact (formed.definitions index definition found).mono extended.widens
    · rw [List.getElem?_append_right new] at found
      simp [List.getElem?_singleton] at found

/-- A function takes its place behind the others, and its definition the place that was kept for it. -/
theorem Flow.extends_withFunction_withDefinition {definition : Definition} (aligned : Aligned setup flow) :
    flow.Extends ((flow.withFunction signature).withDefinition flow.functions.length definition) where
  functions := List.prefix_append _ _
  built := by
    simp only [Flow.withFunction, Flow.withDefinition, ← aligned.built_length]
    rw [List.set_append_right _ _ (Nat.le_refl _)]
    exact List.prefix_append _ _
  definitions := by
    simp only [Flow.withFunction, Flow.withDefinition, ← aligned.definitions_length]
    rw [List.set_append_right _ _ (Nat.le_refl _)]
    exact List.prefix_append _ _
  created := List.prefix_rfl
  candidates := List.prefix_rfl
  pending := List.prefix_rfl

theorem Aligned.withDefinition {index : Nat} {definition : Definition} (aligned : Aligned setup flow)
    (found : flow.functions[index]? = some definition.signature)
    (returnLocal : definition.returnLocal = localName index) :
    Aligned setup (flow.withDefinition index definition) where
  built_length := by simp [Flow.withDefinition, aligned.built_length]
  definitions_length := by simp [Flow.withDefinition, aligned.definitions_length]
  definitions_built := by
    simp only [Flow.withDefinition, List.map_set, aligned.definitions_built, Option.isSome_some]
  length_le := aligned.length_le
  numbers := aligned.numbers
  nextFunction := aligned.nextFunction
  nextParam_pos := aligned.nextParam_pos
  params := aligned.params
  nextLocal := aligned.nextLocal
  returnLocals := by
    intro other known member
    simp only [Flow.withDefinition] at member ⊢
    by_cases same : index = other
    · subst other
      rw [List.getElem?_set_self'] at member
      obtain ⟨_, _, equal⟩ := Option.map_eq_some_iff.mp member
      cases equal
      exact ⟨found, returnLocal⟩
    · rw [List.getElem?_set_ne same] at member
      exact aligned.returnLocals other known member
  nextGlobal := aligned.nextGlobal
  created := aligned.created
  pending := aligned.pending
  candidates := aligned.candidates

theorem Flow.Formed.withDefinition {index : Nat} {definition : Definition} (formed : flow.Formed setup)
    (new : definition.Formed setup index flow) :
    (flow.withDefinition index definition).Formed setup where
  functions := formed.functions
  created := formed.created
  qualified := formed.qualified
  pending := formed.pending
  definitions := by
    intro other known member
    -- Definitions refer to functions and candidates only, which are the same.
    have wider : flow.Widens (flow.withDefinition index definition) :=
      ⟨List.prefix_rfl, List.prefix_rfl⟩
    simp only [Flow.withDefinition] at member
    by_cases same : index = other
    · subst other
      rw [List.getElem?_set_self'] at member
      obtain ⟨_, _, equal⟩ := Option.map_eq_some_iff.mp member
      cases equal
      exact new.mono wider
    · rw [List.getElem?_set_ne same] at member
      exact (formed.definitions other known member).mono wider

end

/-! ## The steps that create and define functions -/

/-- The parameters have the next names, one after the other, and nothing else was changed. -/
structure Numbered (scalars : List CType) (before : World) (params : List Variable) (after : World) :
    Prop where
  names : params.map (·.name) =
    (List.range' before.flow.nextParam params.length).map paramName
  types : ∀ v ∈ params, v.type ∈ scalars
  flow : after.flow = { before.flow with nextParam := before.flow.nextParam + params.length }
  context : after.context = before.context
  history : after.history = before.history

theorem Numbered.nil {scalars : List CType} {before after : World} (still : before.Still after) :
    Numbered scalars before [] after :=
  ⟨rfl, by simp, still.flow, still.context, still.history⟩

/-- One more parameter. -/
theorem Numbered.snoc {scalars : List CType} {before middle after : World} {params : List Variable}
    {type : CType} (numbered : Numbered scalars before params middle)
    (flow : after.flow = { middle.flow with nextParam := middle.flow.nextParam + 1 })
    (context : after.context = middle.context) (history : after.history = middle.history)
    (scalar : type ∈ scalars) :
    Numbered scalars before (params ++ [⟨paramName middle.flow.nextParam, type⟩]) after where
  names := by
    simp only [List.map_append, numbered.names, List.length_append, List.length_singleton,
      List.range'_concat, List.map_cons, List.map_nil, numbered.flow, Nat.one_mul]
  types := by
    intro v member
    rcases List.mem_append.mp member with old | new
    · exact numbered.types v old
    · obtain rfl := List.mem_singleton.mp new
      exact scalar
  flow := by
    rw [flow, numbered.flow]
    simp [Nat.add_assoc]
  context := context.trans numbered.context
  history := history.trans numbered.history

theorem drawParams_ends (scalars : List CType) (limit : Int) (world : World) :
    (drawParams scalars limit).Ends world (Numbered scalars world)
      fun after => after.history = world.history := by
  have drawn (count : Nat) (start : World) (still : world.Still start) :
      ((List.range count).mapM fun _ => do
        let name ← Gen.freshParam
        return (⟨name, ← Step.choose scalars⟩ : Variable) : Gen (List Variable)).Ends start
      (Numbered scalars world) fun after => after.history = world.history := by
    apply Step.ends_mapM (fun _ => Numbered scalars world) _ (Numbered.nil still)
    intro done element params state _ numbered
    simp only [Gen.freshParam, Gen.changeFlow, Step.ends_bind, Step.ends_get, Step.ends_modify,
      Step.ends_pure]
    apply (idle_choose scalars _).mono
    · intro type after ends
      exact numbered.snoc ends.1.flow ends.1.context ends.1.history ends.2
    · intro after still
      exact still.history.trans numbered.history
  unfold drawParams
  split
  · apply Step.ends_bind.mpr
    apply (idle_below (limit + 1) world).mono
    · intro count after ends
      have rests : world.Rests after := ends.1
      simpa using drawn count after rests.toStill
    · exact fun after rests => rests.history
  · exact drawn 0 world (.refl world)

/-- The function at an index was added to the call graph. -/
structure World.Adds (setup : Setup) (before : World) (index : Nat) (after : World) : Prop where
  position : index = before.flow.functions.length
  awaits : after.Awaits setup index
  flow : ∃ signature, after.flow = before.flow.withFunction signature
  context : after.context = before.context
  history : before.history <:+ after.history

/-- A function is created last and waits for its body; where there may be no more functions, nothing
happens. -/
theorem createFunction_ends {type : CType} {world : World} (good : world.Good setup)
    (known : setup.Knows type) :
    (createFunction setup (some type)).Ends world
      (fun created after =>
        (created = none → world.Still after) ∧ ∀ index, created = some index → world.Adds setup index after)
      fun after => HistorySound setup after.history := by
  unfold createFunction
  apply Step.ends_bind.mpr
  apply Step.ends_get.mpr
  dsimp only
  split
  · constructor
    · exact fun _ => .refl world
    · intro index impossible
      cases impossible
  · rename_i room
    apply Step.ends_bind.mpr
    apply (drawParams_ends _ _ world).mono
    · intro params after numbered
      simp only [Gen.changeFlow, addFunction, Gen.remember, Gen.report, Step.ends_bind, Step.ends_modify,
        Step.ends_pure, numbered.flow]
      have history : world.history <:+
          .created world.flow.functions.length ⟨world.flow.nextFunction, type, params⟩ :: after.history :=
        numbered.history ▸ List.suffix_cons _ _
      generalize made : (⟨world.flow.nextFunction, type, params⟩ : Signature) = signature at history ⊢
      have count : params.length = signature.params.length := by rw [← made]
      constructor
      · intro impossible
        cases impossible
      intro index same
      cases same
      refine ⟨rfl, ?_, ⟨signature, by rw [count]; rfl⟩, numbered.context, history⟩
      constructor
      · simp
      · simp [← good.aligned.built_length]
      · rw [count]
        apply good.aligned.withFunction (by omega) (by rw [← made])
        rw [← made]
        exact numbered.names
      · exact good.begun.mono history
      · rw [count]
        apply good.formed.withFunction
        rw [← made]
        exact ⟨known, fun v member => .scalar (numbered.types v member)⟩
      · exact ⟨trivial, numbered.history ▸ good.history⟩
    · intro after same
      exact same ▸ good.history

/-- The function at an index of the list. -/
theorem functionAt_apply {index : Nat} {signature : Signature} {world : World}
    (found : world.flow.functions[index]? = some signature) :
    functionAt index world = (.ok signature, world) := by
  simp only [functionAt, Step.bind_apply, Step.get_apply, Step.element_eq_pure found, Step.pure_apply]

theorem functionAt_ends {index : Nat} {signature : Signature} {world : World}
    {ok : Signature → World → Prop} {failed : World → Prop}
    (found : world.flow.functions[index]? = some signature) (holds : ok signature world) :
    (functionAt index).Ends world ok failed := by
  simpa only [Step.Ends, functionAt_apply found] using holds

theorem builtAt_apply {index : Nat} {built : Bool} {world : World}
    (found : world.flow.built[index]? = some built) : builtAt index world = (.ok built, world) := by
  simp only [builtAt, Step.bind_apply, Step.get_apply, Step.element_eq_pure found, Step.pure_apply]

theorem builtAt_ends {index : Nat} {built : Bool} {world : World} {ok : Bool → World → Prop}
    {failed : World → Prop} (found : world.flow.built[index]? = some built) (holds : ok built world) :
    (builtAt index).Ends world ok failed := by
  simpa only [Step.Ends, builtAt_apply found] using holds

/-- A function that exists is given its definition. -/
theorem define_ends {index : Nat} {definition : Definition} {world : World} {ok : Unit → World → Prop}
    {failed : World → Prop} (defined : index < world.flow.definitions.length)
    (built : index < world.flow.built.length)
    (holds : ok () { world with flow := world.flow.withDefinition index definition }) :
    (define index definition).Ends world ok failed := by
  simp only [define, Gen.changeFlow, Step.ends_bind, Step.ends_get, Step.replace_eq_pure defined,
    Step.replace_eq_pure built, Step.ends_pure, Step.ends_modify]
  exact holds

end RandomC
