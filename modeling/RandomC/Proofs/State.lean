import Mathlib.Data.List.Basic
import RandomC.Generation.Definition

/-!
# States of a run

Two notions about the shared state: `Flow.Extends` says that no list was shortened or overwritten, and
`Aligned` that the lists and counters agree with each other.  Going back to a snapshot is exact where the
state has only been extended since, because the snapshot's lengths then cut the lists where they ended.
-/

namespace RandomC

/-! ## Extension -/

/-- Every list of `before` is an initial part of the same list of `after`. -/
structure Flow.Extends (before after : Flow) : Prop where
  functions : before.functions <+: after.functions
  built : before.built <+: after.built
  definitions : before.definitions <+: after.definitions
  created : before.created <+: after.created
  candidates : before.candidates <+: after.candidates
  pending : before.pending <+: after.pending

theorem Flow.Extends.refl (flow : Flow) : flow.Extends flow :=
  ⟨List.prefix_rfl, List.prefix_rfl, List.prefix_rfl, List.prefix_rfl, List.prefix_rfl, List.prefix_rfl⟩

theorem Flow.Extends.trans {first middle last : Flow} (earlier : first.Extends middle)
    (later : middle.Extends last) : first.Extends last where
  functions := earlier.functions.trans later.functions
  built := earlier.built.trans later.built
  definitions := earlier.definitions.trans later.definitions
  created := earlier.created.trans later.created
  candidates := earlier.candidates.trans later.candidates
  pending := earlier.pending.trans later.pending

/-- Nothing that was there at `start` is gone or different now. -/
structure Checkpoint.Extends (start now : Checkpoint) : Prop where
  flow : start.flow.Extends now.flow
  locals : start.context.locals <+: now.context.locals

/-! ## Alignment -/

/-- The lists and counters of a state agree.  Each kind of name is numbered without gaps, in the order of
creation. -/
structure Aligned (setup : Setup) (flow : Flow) : Prop where
  built_length : flow.built.length = flow.functions.length
  definitions_length : flow.definitions.length = flow.functions.length
  definitions_built : flow.definitions.map Option.isSome = flow.built
  length_le : (flow.functions.length : Int) ≤ maxFunctions setup.settings
  numbers : flow.functions.map (·.number) = (List.range' 1 flow.functions.length).map Int.ofNat
  nextFunction : flow.nextFunction = flow.functions.length + 1
  nextParam_pos : 1 ≤ flow.nextParam
  params : (flow.functions.flatMap (·.params)).map (·.name) =
    (List.range' 1 (flow.nextParam - 1)).map paramName
  nextLocal : flow.nextLocal = flow.functions.length
  returnLocals : ∀ (index : Nat) (definition : Definition),
    flow.definitions[index]? = some (some definition) →
      flow.functions[index]? = some definition.signature ∧
        definition.returnLocal = localName index
  nextGlobal : flow.nextGlobal = setup.env.nextId + flow.created.length
  created : flow.created.map (·.name) =
    (List.range flow.created.length).map fun count : Nat => globalName (setup.env.nextId + count)
  pending : flow.pending.map (·.v) = flow.created
  candidates : flow.candidates = (setup.env.globals ++ flow.created).map GlobalVar.candidate

/-- The number of the next parameter tells how many there are. -/
theorem Aligned.nextParam_sub_one {setup : Setup} {flow : Flow} (aligned : Aligned setup flow) :
    flow.nextParam - 1 = (flow.functions.flatMap (·.params)).length := by
  simpa only [List.length_map, List.length_range'] using (congrArg List.length aligned.params).symm

/-- A candidate stands for one of the globals. -/
theorem Aligned.exists_candidate {setup : Setup} {flow : Flow} {candidate : Candidate}
    (aligned : Aligned setup flow) (member : candidate ∈ flow.candidates) :
    ∃ v ∈ setup.env.globals ++ flow.created, v.candidate = candidate := by
  rw [aligned.candidates] at member
  exact List.mem_map.mp member

/-- A function whose body is not missing has one. -/
theorem Aligned.built {setup : Setup} {flow : Flow} {index : Nat} (aligned : Aligned setup flow)
    (bound : index < flow.functions.length) (complete : flow.built[index]? ≠ some false) :
    flow.built[index]? = some true := by
  have bound : index < flow.built.length := aligned.built_length ▸ bound
  have found := List.getElem?_eq_getElem bound
  cases which : flow.built[index] with
  | true => rw [found, which]
  | false => exact absurd (which ▸ found) complete

/-- Going back from a state that extends the one of the snapshot leads to exactly that state: the parts of
the context that the snapshot does not hold have to be the same already. -/
theorem World.checkpoint_restore {setup : Setup} {start : Checkpoint} {world : World}
    (candidates : start.flow.candidates.length = setup.env.globals.length + start.flow.created.length)
    (extended : start.flow.Extends world.flow) (context : world.context = start.context) :
    (world.restore setup start.snapshot).checkpoint = start := by
  have cut {α : Type} {before after : List α} (initial : before <+: after) :
      after.take before.length = before := (List.prefix_iff_eq_take.mp initial).symm
  rcases start with ⟨flow, start⟩
  cases flow
  cases start
  simp only [World.restore, World.checkpoint, Checkpoint.snapshot, context] at *
  simp only [← candidates, cut extended.functions, cut extended.built, cut extended.definitions,
    cut extended.created, cut extended.candidates, cut extended.pending, List.take_length]

end RandomC
