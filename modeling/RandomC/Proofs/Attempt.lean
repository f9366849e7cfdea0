import RandomC.Proofs.Changes

/-!
# Attempts

An attempt that comes to nothing is taken back exactly: the state has only grown since the snapshot, so
cutting its lists leads to the state of the snapshot.  The moments that attempts and completed steps leave
in the history are sound.
-/

namespace RandomC

section

variable {α : Type} {setup : Setup} {relation : World → World → Prop} [Progress relation]
variable {world : World}

/-- Every moment that is added in a good state has to be sound itself. -/
theorem World.Good.remember {moment : Moment} (good : world.Good setup)
    (sound : moment.Sound setup world.history) :
    ({ world with history := moment :: world.history } : World).Good setup ∧
      world.Grows { world with history := moment :: world.history } := by
  constructor
  · exact ⟨good.aligned, good.begun.mono (List.suffix_cons _ _), good.formed, sound, good.history⟩
  · constructor
    · constructor
      · exact .refl _
      · intro index bound
        rw [List.getElem?_eq_none bound]
        simp
      · rfl
      · rfl
      · exact List.suffix_cons _ _
    · rfl

/-- A sequence that begins with a moment. -/
theorem Keeps.remember {moment : Moment} {next : Unit → Gen α} {post : α → World → Prop}
    (good : world.Good setup) (sound : moment.Sound setup world.history)
    (second : ∀ after, after.Good setup → world.Grows after → after.flow = world.flow →
      Keeps setup relation (next ()) after post) :
    Keeps setup relation (Gen.remember moment >>= next) world post := by
  have remembered := good.remember sound
  have keeps : Keeps setup relation (Gen.remember moment) world fun _ after =>
      world.Grows after ∧ after.flow = world.flow :=
    ⟨remembered.1, Progress.of_grows remembered.2, remembered.2, rfl⟩
  exact keeps.bind fun _ after good _ ends => second after good ends.1 ends.2

/-- Going back from a state that has grown leads to the state of the snapshot, with a longer history. -/
theorem goBack_ends {start : World} {failed : World → Prop} (good : start.Good setup)
    (saved : .saved start.checkpoint ∈ start.history) (now : world.Good setup)
    (grows : start.Grows world) :
    (Gen.goBack setup start.checkpoint).Ends world
      (fun _ after => after.Good setup ∧ start.Grows after) failed := by
  simp only [Gen.goBack, Gen.remember, Step.ends_bind, Step.ends_modify, Step.ends_get]
  have lengths : start.flow.candidates.length =
      setup.env.globals.length + start.flow.created.length := by
    rw [good.aligned.candidates, List.length_map, List.length_append]
  have back : (world.restore setup start.checkpoint.snapshot).checkpoint = start.checkpoint :=
    World.checkpoint_restore lengths grows.flow grows.context
  have history : (world.restore setup start.checkpoint.snapshot).history = world.history := rfl
  generalize world.restore setup start.checkpoint.snapshot = restored at back history
  have flow : restored.flow = start.flow := congrArg Checkpoint.flow back
  have context : restored.context = start.context := congrArg Checkpoint.context back
  have restoredGood : restored.Good setup := by
    constructor
    · exact flow ▸ good.aligned
    · rw [flow, history]
      exact good.begun.mono grows.history
    · exact flow ▸ good.formed
    · exact history ▸ now.history
  have sound : Moment.Sound setup restored.history (.restored start.checkpoint restored.checkpoint) :=
    ⟨back, history ▸ grows.history.subset saved⟩
  have remembered := restoredGood.remember sound
  refine ⟨remembered.1, ⟨?_, ?_, ?_, ?_, ?_⟩, context⟩
  · exact flow ▸ .refl _
  · intro index bound
    rw [flow, List.getElem?_eq_none bound]
    simp
  · rw [context]
  · rw [context]
  · exact (history ▸ grows.history).trans (List.suffix_cons _ _)

/-- Either the attempt makes a value, or what follows starts from the state before the attempt.  Where the
attempt comes to nothing, it must not have touched the context. -/
theorem Keeps.attemptOr {attempt : Gen (Option α)} {again : Gen α} {post : α → World → Prop}
    (good : world.Good setup)
    (first : ∀ start, start.Good setup → world.Grows start →
      Keeps setup relation attempt start fun made after =>
        (∀ value, made = some value → post value after) ∧ (made = none → start.Grows after))
    (second : ∀ start, start.Good setup → world.Grows start → Keeps setup relation again start post) :
    Keeps setup relation (Gen.attemptOr setup attempt again) world post := by
  have remembered : Moment.Sound setup world.history (.saved world.checkpoint) :=
    ⟨good.aligned, good.begun⟩
  have saved := good.remember remembered
  simp only [Keeps, Gen.attemptOr, Gen.save, Gen.remember, Step.ends_bind, Step.ends_get,
    Step.ends_modify, Step.ends_pure]
  generalize begun : ({ world with history := .saved world.checkpoint :: world.history } : World) = start
    at saved
  have same : start.checkpoint = world.checkpoint := by rw [← begun]; rfl
  apply Step.Ends.mono (first start saved.1 saved.2)
  · intro made after ends
    rcases ends with ⟨good', related, formed, nothing⟩
    cases made with
    | some value =>
        exact ⟨good', Progress.trans (Progress.of_grows saved.2) related, formed value rfl⟩
    | none =>
        rw [← same]
        apply Step.ends_bind.mpr
        apply (goBack_ends saved.1 (by rw [same, ← begun]; simp) good' (nothing rfl)).mono
        · intro _ back ends
          have grows : world.Grows back := Progress.trans saved.2 ends.2
          apply Step.Ends.mono (second back ends.1 grows)
          · intro value last final
            exact ⟨final.1, Progress.trans (Progress.of_grows grows) final.2.1, final.2.2⟩
          · exact fun _ sound => sound
        · exact fun _ never => never
  · exact fun _ sound => sound

/-- A step whose completion is remembered. -/
theorem Keeps.spanning {step : Gen α} (post : α → Flow → Prop)
    (keeps : Keeps setup relation step world fun value after => post value after.flow) :
    Keeps setup relation (Gen.spanning step) world fun value after => post value after.flow := by
  simp only [Keeps, Gen.spanning, Step.ends_bind, Step.ends_get]
  apply Step.Ends.mono keeps
  · intro value after ends
    have proceeds := Progress.proceeds ends.2.1
    have extended : world.checkpoint.Extends after.checkpoint :=
      ⟨proceeds.flow, proceeds.locals ▸ List.prefix_rfl⟩
    have remembered := ends.1.remember
      (show Moment.Sound setup after.history (.completed world.checkpoint after.checkpoint) from extended)
    exact ⟨remembered.1, Progress.trans ends.2.1 (Progress.of_grows remembered.2), ends.2.2⟩
  · exact fun _ sound => sound

/-- The term budget of an expression does not matter. -/
theorem Keeps.withTerms {step : Gen α} {settings : Settings} (post : α → Flow → Prop)
    (keeps : ∀ start, world.Still start →
      Keeps setup relation step start fun value after => post value after.flow) :
    Keeps setup relation (withTerms settings step) world fun value after => post value after.flow := by
  have opened : world.Still (world.openTerms settings).2 := by
    simp only [World.openTerms]
    split <;> exact ⟨rfl, rfl, rfl⟩
  have closed (saved : Option Int) (after : World) : after.Still (after.closeTerms saved) := by
    cases saved <;> exact ⟨rfl, rfl, rfl⟩
  have inside := keeps _ opened
  simp only [Keeps, Step.Ends, RandomC.withTerms] at inside ⊢
  revert inside
  rcases step (world.openTerms settings).2 with ⟨failure | value, after⟩
  · intro inside
    show HistorySound setup (World.closeTerms _ after).history
    rw [(closed _ after).history]
    exact inside
  · intro inside
    have still := closed (world.openTerms settings).1 after
    refine ⟨still.good inside.1, ?_, still.flow ▸ inside.2.2⟩
    exact Progress.trans (Progress.of_still opened) (Progress.trans inside.2.1 (Progress.of_still still))

end

end RandomC
