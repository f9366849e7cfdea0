import RandomC.Proofs.Regime

/-!
# Policies

A policy leads to a regime under which functions and definitions are only added, so that going back to a
snapshot is exact, and a definition takes the place that was kept for it.  An invariant is the policy that
demands a property of every state.
-/

namespace RandomC

namespace World

/-- There are as many places for bodies and definitions as there are functions. -/
structure Paired (world : World) : Prop where
  built : world.flow.built.length = world.flow.functions.length
  definitions : world.flow.definitions.length = world.flow.functions.length

/-- Functions and definitions were only added. -/
structure Lengthens (before after : World) : Prop where
  functions : before.flow.functions <+: after.flow.functions
  definitions : before.flow.definitions <+: after.flow.definitions

/-- The state went back to the snapshot that was taken at `start`. -/
structure Returns (start now after : World) : Prop where
  functions : after.flow.functions = start.flow.functions
  definitions : after.flow.definitions = start.flow.definitions
  budget : after.flow.budget = start.flow.budget
  remaining : after.remaining = now.remaining
  history : after.history = .restored start.checkpoint after.checkpoint :: now.history

/-- The function at an index was given its definition, which was begun at `start`. -/
def defining (start : World) (index : Nat) (definition : Definition) (world : World) : World :=
  let completed := world.remembering (.completed start.checkpoint world.checkpoint)
  { completed.remembering (.defined index definition) with flow := world.flow.withDefinition index definition }

theorem Resembles.paired {before after : World} (resembles : before.Resembles after)
    (paired : before.Paired) : after.Paired where
  built := by rw [resembles.built, resembles.functions, paired.built]
  definitions := by rw [resembles.definitions, resembles.functions, paired.definitions]

theorem Resembles.lengthens {before after : World} (resembles : before.Resembles after) :
    before.Lengthens after :=
  ⟨resembles.functions ▸ List.prefix_rfl, resembles.definitions ▸ List.prefix_rfl⟩

theorem Lengthens.refl (world : World) : world.Lengthens world := ⟨List.prefix_rfl, List.prefix_rfl⟩

theorem Lengthens.trans {first middle last : World} (earlier : first.Lengthens middle)
    (later : middle.Lengthens last) : first.Lengthens last :=
  ⟨earlier.functions.trans later.functions, earlier.definitions.trans later.definitions⟩

theorem Creates.lengthens {setup : Setup} {signature : Signature} {before after : World}
    (creates : before.Creates setup signature after) : before.Lengthens after where
  functions := creates.functions ▸ List.prefix_append _ _
  definitions := creates.definitions ▸ List.prefix_append _ _

theorem Creates.paired {setup : Setup} {signature : Signature} {before after : World}
    (creates : before.Creates setup signature after) (paired : before.Paired) : after.Paired where
  built := by simp [creates.built, creates.functions, paired.built]
  definitions := by simp [creates.definitions, creates.functions, paired.definitions]

theorem Creates.functions_length {setup : Setup} {signature : Signature} {before after : World}
    (creates : before.Creates setup signature after) :
    after.flow.functions.length = before.flow.functions.length + 1 := by
  simp [creates.functions]

/-- Going back leads to the functions and definitions there were, since more were only added. -/
theorem Lengthens.returning {start now : World} (lengthens : start.Lengthens now) (setup : Setup)
    (paired : start.Paired) (nowPaired : now.Paired) :
    start.Returns now (start.returning setup now) ∧ (start.returning setup now).Paired := by
  have functions := (List.prefix_iff_eq_take.mp lengthens.functions).symm
  have definitions := (List.prefix_iff_eq_take.mp lengthens.definitions).symm
  refine ⟨⟨functions, definitions, rfl, rfl, rfl⟩, ?_, ?_⟩
  · simp only [World.returning, remembering, restore, snapshot, Checkpoint.snapshot, checkpoint,
      List.length_take, nowPaired.built, paired.built]
  · simp only [World.returning, remembering, restore, snapshot, Checkpoint.snapshot, checkpoint,
      List.length_take, nowPaired.definitions, paired.definitions]

end World

/-! ## Charged statements -/

mutual

/-- The number of statements that were charged for a statement: itself and those in its blocks, but none that
does nothing. -/
def Statement.charge : Statement → Nat
  | .ifElse _ yes no => 1 + chargeOf yes + chargeOf no
  | .loop _ body => 1 + chargeOf body
  | .filler => 0
  | .assign .. | .leave _ | .nextRound | .leaveLoop | .updateElement .. => 1

/-- The number of statements that were charged for a block. -/
def chargeOf : List Statement → Nat
  | [] => 0
  | statement :: rest => statement.charge + chargeOf rest

end

/-- The number of statements that were charged for a definition. -/
def Definition.charge (definition : Definition) : Nat := chargeOf definition.body

theorem chargeOf_append (first second : Block) :
    chargeOf (first ++ second) = chargeOf first + chargeOf second := by
  induction first with
  | nil => simp [chargeOf]
  | cons statement rest ih => simp [chargeOf, ih, Nat.add_assoc]

/-! ## Policies -/

/-- What is demanded of states, of the states before and after a step, and of the states in which a step
fails, besides that functions and definitions are only added. -/
structure Policy where
  inv : World → Prop
  rel : Nat → World → World → Prop
  failed : World → Prop
  trans {first middle last : World} {count more : Nat} : first.Lengthens middle →
    rel count first middle → rel more middle last → rel (count + more) first last
  failing {world : World} : inv world → failed world
  stopping {before after : World} : failed before → after.flow = before.flow →
    after.history = before.history → failed after
  matching {before after : World} : inv before → before.Matches after → inv after ∧ rel 0 before after
  saving {world : World} : inv world →
    inv (world.remembering (.saved world.checkpoint)) ∧
      rel 0 world (world.remembering (.saved world.checkpoint))
  completing {start world : World} {count : Nat} : inv start → inv world → start.Lengthens world →
    rel count start world →
      inv (world.remembering (.completed start.checkpoint world.checkpoint)) ∧
        rel 0 world (world.remembering (.completed start.checkpoint world.checkpoint))
  returning {start now after : World} {count : Nat} : inv start → inv now → start.Lengthens now →
    rel count start now → start.Returns now after → inv after ∧ rel 0 start after

namespace Policy

variable {policy : Policy} {setup : Setup} {shaped : Definition → Prop} {world before after : World}

/-- The state is one under the policy. -/
structure Governs (policy : Policy) (world : World) : Prop where
  kept : policy.inv world
  paired : world.Paired

/-- A step that charged so many statements led from one state to another under the policy. -/
structure Relates (policy : Policy) (count : Nat) (before after : World) : Prop
    extends before.Lengthens after where
  related : policy.rel count before after

/-- One more moment leaves the lists as they are. -/
theorem Governs.remember {moment : Moment} (governs : policy.Governs world)
    (allowed : policy.inv (world.remembering moment) ∧ policy.rel 0 world (world.remembering moment)) :
    policy.Governs (world.remembering moment) ∧ policy.Relates 0 world (world.remembering moment) :=
  ⟨⟨allowed.1, governs.paired.built, governs.paired.definitions⟩, ⟨List.prefix_rfl, List.prefix_rfl⟩,
    allowed.2⟩

/-- The regime under which functions and definitions are only added and the policy is followed. -/
def regime (policy : Policy) : Regime where
  inv := policy.Governs
  rel := policy.Relates
  failed := policy.failed
  trans first second :=
    ⟨first.toLengthens.trans second.toLengthens, policy.trans first.toLengthens first.related second.related⟩
  failing governs := policy.failing governs.kept
  stopping := policy.stopping
  matching governs matched :=
    have allowed := policy.matching governs.kept matched
    ⟨⟨allowed.1, matched.paired governs.paired⟩, matched.lengthens, allowed.2⟩
  saving governs := governs.remember (policy.saving governs.kept)
  completing start governs relates :=
    governs.remember (policy.completing start.kept governs.kept relates.toLengthens relates.related)
  returning setup start governs relates :=
    have returns := relates.toLengthens.returning setup start.paired governs.paired
    have allowed := policy.returning start.kept governs.kept relates.toLengthens relates.related returns.1
    ⟨⟨allowed.1, returns.2⟩, ⟨returns.1.functions ▸ List.prefix_rfl, returns.1.definitions ▸ List.prefix_rfl⟩,
      allowed.2⟩

/-- The policy stands what happens in expressions. -/
structure Expressive (policy : Policy) : Prop where
  resembling {before after : World} : policy.inv before → before.Resembles after →
    policy.inv after ∧ policy.rel 0 before after
  calling {world : World} (index : Int) : policy.inv world →
    policy.inv (world.remembering (.called index world.checkpoint)) ∧
      policy.rel 0 world (world.remembering (.called index world.checkpoint))
  expressing {world : World} (expr : Expr) : policy.inv world →
    policy.inv (world.remembering (.expressed expr)) ∧
      policy.rel 0 world (world.remembering (.expressed expr))

theorem Expressive.regime (expressive : policy.Expressive) : policy.regime.Expressive where
  resembling governs resembles :=
    have allowed := expressive.resembling governs.kept resembles
    ⟨⟨allowed.1, resembles.paired governs.paired⟩, resembles.lengthens, allowed.2⟩
  calling index governs := governs.remember (expressive.calling index governs.kept)
  expressing expr governs := governs.remember (expressive.expressing expr governs.kept)

/-- The policy stands what happens in bodies: statements are begun, and functions are given definitions that
are shaped as wanted. -/
structure Building (setup : Setup) (shaped : Definition → Prop) (policy : Policy) : Prop where
  beginning {world : World} : policy.inv world → world.flow.budget ≠ 0 →
    policy.inv world.beginning ∧ policy.rel 1 world world.beginning
  filling {world : World} : policy.inv world → world.flow.budget ≠ 0 →
    policy.inv world.filling ∧ policy.rel 0 world world.filling
  /-- The body of a function is begun where the function was just created. -/
  entering {signature : Signature} {before after : World} (returnLocal : String) : policy.Governs before →
    before.Creates setup signature after →
      policy.inv (after.remembering (.entered before.flow.functions.length returnLocal))
  /-- Between the creation of the function and the begin of its body, its return local was numbered. -/
  defining {signature : Signature} {before created numbered last : World} {returnLocal : String}
    {definition : Definition} : policy.Governs before → before.Creates setup signature created →
      created.Matches numbered → policy.Governs last →
      policy.Relates definition.charge
        (numbered.remembering (.entered before.flow.functions.length returnLocal)) last →
      shaped definition →
        policy.inv (created.defining before.flow.functions.length definition last) ∧
          policy.rel 0 before (created.defining before.flow.functions.length definition last)

theorem Building.begins (building : policy.Building setup shaped) : policy.regime.Begins where
  beginning governs limited :=
    have allowed := building.beginning governs.kept limited
    ⟨⟨allowed.1, governs.paired.built, governs.paired.definitions⟩, ⟨List.prefix_rfl, List.prefix_rfl⟩,
      allowed.2⟩
  filling governs limited := governs.remember (building.filling governs.kept limited)

end Policy

/-- The property of states survives every change that a run makes; functions are only given definitions that
are shaped as wanted. -/
structure Invariant (setup : Setup) (shaped : Definition → Prop) (inv : World → Prop) : Prop where
  resembling {before after : World} : inv before → before.Resembles after → inv after
  calling {world : World} (index : Int) : inv world →
    inv (world.remembering (.called index world.checkpoint))
  expressing {world : World} (expr : Expr) : inv world → inv (world.remembering (.expressed expr))
  saving {world : World} : inv world → inv (world.remembering (.saved world.checkpoint))
  completing {start world : World} : inv start → inv world →
    inv (world.remembering (.completed start.checkpoint world.checkpoint))
  returning {start now after : World} : inv start → inv now → start.Returns now after → inv after
  beginning {world : World} : inv world → world.flow.budget ≠ 0 → inv world.beginning
  filling {world : World} : inv world → world.flow.budget ≠ 0 → inv world.filling
  entering {signature : Signature} {before after : World} (returnLocal : String) : inv before →
    before.Creates setup signature after →
      inv (after.remembering (.entered before.flow.functions.length returnLocal))
  defining {signature : Signature} {before created last : World} {definition : Definition} : inv before →
    before.Creates setup signature created → inv last → shaped definition →
      inv (created.defining before.flow.functions.length definition last)

namespace Invariant

variable {setup : Setup} {shaped : Definition → Prop} {inv : World → Prop}

/-- The policy that demands the property everywhere, and nothing of what a step changes. -/
def policy (invariant : Invariant setup shaped inv) : Policy where
  inv := inv
  rel _ _ _ := True
  failed := inv
  trans _ _ _ := trivial
  failing kept := kept
  stopping kept flow history := invariant.resembling kept
    ⟨by rw [flow], by rw [flow], by rw [flow], by rw [flow], history⟩
  matching kept matched := ⟨invariant.resembling kept matched.toResembles, trivial⟩
  saving kept := ⟨invariant.saving kept, trivial⟩
  completing start kept _ _ := ⟨invariant.completing start kept, trivial⟩
  returning start now _ _ returns := ⟨invariant.returning start now returns, trivial⟩

theorem expressive (invariant : Invariant setup shaped inv) : invariant.policy.Expressive where
  resembling kept resembles := ⟨invariant.resembling kept resembles, trivial⟩
  calling index kept := ⟨invariant.calling index kept, trivial⟩
  expressing expr kept := ⟨invariant.expressing expr kept, trivial⟩

theorem building (invariant : Invariant setup shaped inv) : invariant.policy.Building setup shaped where
  beginning kept limited := ⟨invariant.beginning kept limited, trivial⟩
  filling kept limited := ⟨invariant.filling kept limited, trivial⟩
  entering returnLocal governs creates := invariant.entering returnLocal governs.kept creates
  defining governs creates _ last _ holds :=
    ⟨invariant.defining governs.kept creates last.kept holds, trivial⟩

end Invariant

end RandomC
