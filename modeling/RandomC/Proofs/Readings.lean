import Mathlib.Logic.Function.Iterate
import RandomC.Proofs.BlindBody
import RandomC.Proofs.BlindSetup

/-!
# Readings

A draw moves the source on by some number of raw values.  The readings of a run follow each other without a
gap: each one starts where the one before it stopped, whatever was taken back in between, and the last one
stops where the source is left.
-/

namespace RandomC

namespace Random

/-! ## Positions -/

/-- The position after `count` more raw values. -/
def Position.advance (count : Nat) (position : Position) : Position :=
  ⟨position.drawn + count, Random.advance^[count] position.state⟩

/-- The position belongs to the stream of a seed: the state follows from the number of values drawn. -/
def Position.On (seed : Int) (position : Position) : Prop :=
  position.state = Random.advance^[position.drawn] (seedState seed)

theorem Position.advance_advance (count more : Nat) (position : Position) :
    (position.advance count).advance more = position.advance (count + more) := by
  simp only [Position.advance, Nat.add_assoc, ← Function.iterate_add_apply, Nat.add_comm more]

theorem Position.On.advance {seed : Int} {position : Position} (on : position.On seed) (count : Nat) :
    (position.advance count).On seed := by
  simp only [On] at on
  simp only [On, Position.advance, on, ← Function.iterate_add_apply, Nat.add_comm count]

theorem on_ofSeed (seed : Int) (tracing : Bool) : (Source.ofSeed seed tracing).position.On seed := rfl

@[simp] theorem position_record (decision : Decision) (source : Source) :
    (source.record decision).position = source.position := by
  unfold Source.record
  split <;> rfl

/-- What is drawn is drawn from the source as it goes on: nothing is skipped, and nothing drawn twice. -/
theorem Draws.advances {α : Type} {action : StateM Source α} (draws : Draws action) (source : Source) :
    ∃ count, (action source).2.position = source.position.advance count := by
  induction draws generalizing source with
  | pure value => exact ⟨0, rfl⟩
  | next => exact ⟨1, rfl⟩
  | record decision => exact ⟨0, position_record decision source⟩
  | bind start rest ihStart ihRest =>
      obtain ⟨count, started⟩ := ihStart source
      obtain ⟨more, ended⟩ := ihRest _ _
      exact ⟨count + more, by rw [← Position.advance_advance, ← started]; exact ended⟩

/-! ## Chains of readings -/

/-- Readings, the last one first, that follow each other without a gap from `start` to the position that is
given last. -/
inductive Taken (start : Position) : List Reading → Position → Prop
  | none : Taken start [] start
  | draw {readings : List Reading} {stop : Position} (count : Nat) (earlier : Taken start readings stop) :
      Taken start (⟨stop, stop.advance count⟩ :: readings) (stop.advance count)

namespace Taken

variable {start middle stop : Position} {readings earlier later : List Reading}

theorem append (first : Taken start earlier middle) (second : Taken middle later stop) :
    Taken start (later ++ earlier) stop := by
  induction second with
  | none => exact first
  | draw count _ ih => exact .draw count ih

/-- All positions of a chain belong to the stream on which it starts. -/
theorem on {seed : Int} (taken : Taken start readings stop) (started : start.On seed) :
    stop.On seed ∧ ∀ reading ∈ readings, reading.start.On seed ∧ reading.stop.On seed := by
  induction taken with
  | none => exact ⟨started, List.forall_mem_nil _⟩
  | draw count _ ih =>
      have advanced := ih.1.advance count
      exact ⟨advanced, List.forall_mem_cons.mpr ⟨⟨ih.1, advanced⟩, ih.2⟩⟩

/-- The number of values drawn only grows during a chain. -/
theorem drawn_le (taken : Taken start readings stop) :
    ∀ reading ∈ readings, reading.start.drawn ≤ reading.stop.drawn ∧ reading.stop.drawn ≤ stop.drawn := by
  induction taken with
  | none => exact List.forall_mem_nil _
  | @draw readings stop count _ ih =>
      have grown : stop.drawn ≤ (stop.advance count).drawn := Nat.le_add_right _ _
      refine List.forall_mem_cons.mpr ⟨⟨grown, Nat.le_refl _⟩, ?_⟩
      intro reading member
      exact ⟨(ih reading member).1, Nat.le_trans (ih reading member).2 grown⟩

/-- No reading starts before an earlier one has stopped. -/
theorem ordered (taken : Taken start readings stop) :
    readings.Pairwise fun later earlier => earlier.stop.drawn ≤ later.start.drawn := by
  induction taken with
  | none => exact .nil
  | draw count earlier ih => exact .cons (fun reading member => (earlier.drawn_le reading member).2) ih

end Taken

/-! ## Streams -/

/-- Nothing but draws has happened to the stream since it was `first`, and they are all recorded. -/
def Stream.Continues (first later : Stream) : Prop :=
  ∃ readings, later.readings = readings ++ first.readings ∧
    Taken first.source.position readings later.source.position

theorem Stream.Continues.refl (stream : Stream) : stream.Continues stream := ⟨[], rfl, .none⟩

theorem Stream.Continues.trans {first middle last : Stream} (early : first.Continues middle)
    (late : middle.Continues last) : first.Continues last := by
  obtain ⟨readings, begun, taken⟩ := early
  obtain ⟨more, ended, further⟩ := late
  exact ⟨more ++ readings, by rw [ended, begun, List.append_assoc], taken.append further⟩

theorem Stream.Continues.draw {α : Type} {action : StateM Source α} {first later : Stream}
    (continues : first.Continues later) (draws : Draws action) : first.Continues (later.draw action).2 := by
  obtain ⟨readings, all, taken⟩ := continues
  obtain ⟨count, advanced⟩ := draws.advances later.source
  refine ⟨⟨later.source.position, (action later.source).2.position⟩ :: readings, ?_, ?_⟩
  · exact congrArg _ all
  · change Taken _ _ (action later.source).2.position
    rw [advanced]
    exact taken.draw count

/-- One stream stands on both sides, and continues an earlier one. -/
theorem agreeing_continues (first : Stream) :
    Agreeing fun stream other => other = stream ∧ first.Continues stream where
  draw draws := by
    rintro ⟨rfl, continues⟩
    exact ⟨rfl, rfl, continues.draw draws⟩

end Random

/-! ## Steps -/

/-- A step that sees of the stream only what it draws does nothing to it but to draw. -/
theorem Blind.continues {σ α : Type} [Drawing σ] [LawfulDrawing σ] {step : Step σ α} (blind : Blind step)
    (state : σ) : (Drawing.stream state).Continues (Drawing.stream (step state).2) := by
  -- The run stands beside itself, so that what is related is the stream at the start and the one reached.
  have alike : Alike (fun stream other => other = stream ∧ (Drawing.stream state).Continues stream)
      state state := ⟨⟨rfl, .refl _⟩, (LawfulDrawing.withStream_stream state).symm⟩
  exact (blind _ state state (Random.agreeing_continues _) alike).2.streams.2

/-- The readings that a step takes where there are none before. -/
theorem Blind.taken {σ α : Type} [Drawing σ] [LawfulDrawing σ] {step : Step σ α} (blind : Blind step)
    (state : σ) {source : Random.Source} (fresh : Drawing.stream state = source) :
    Random.Taken source.position (Drawing.stream (step state).2).readings
      (Drawing.stream (step state).2).source.position := by
  obtain ⟨readings, all, taken⟩ := blind.continues state
  rw [fresh] at all taken
  rw [all]
  simpa using taken

/-! ## Programs -/

theorem taken_generateWritable (settings : Settings) (source : Random.Source) :
    Random.Taken source.position (generateWritable settings source).readings
      (generateWritable settings source).source.position := by
  have composites := (Composite.blind_generate settings (CType.scalars settings.intSize settings.longLong)).taken
    { Composite.State.initial source with sheet := headedSheet settings.seed } rfl
  unfold generateWritable
  dsimp only
  revert composites
  rcases Composite.generate settings _ _ with ⟨failure | layouts, composites⟩
  · exact id
  · intro made
    have building := (blind_buildEnvironment settings
      (CType.scalars settings.intSize settings.longLong) layouts).taken
      ⟨composites.source, composites.sheet, .empty⟩ rfl
    dsimp only
    revert building
    rcases buildEnvironment settings _ layouts _ with ⟨failure | _, building⟩
    · exact made.append
    · intro built
      let setup : Setup := ⟨settings, CType.scalars settings.intSize settings.longLong, layouts, building.env⟩
      have running := (blind_run setup).taken
        (.start setup building.source (firstEvents settings layouts building.env)) rfl
      dsimp only
      revert running
      rcases run setup _ with ⟨failure | _, world⟩
      · exact (made.append built).append
      · exact (made.append built).append

/-! ## What is put back -/

theorem stream_goBack (setup : Setup) (start : Checkpoint) (world : World) :
    Drawing.stream (Gen.goBack setup start world).2 = Drawing.stream world := rfl

theorem stream_inContext {α : Type} (context : Context) (step : Gen α) (world : World) :
    Drawing.stream (Gen.inContext context step world).2 = Drawing.stream (step { world with context }).2 := rfl

theorem stream_withTerms {α : Type} (settings : Settings) (step : Gen α) (world : World) :
    Drawing.stream (withTerms settings step world).2 =
      Drawing.stream (step (world.openTerms settings).2).2 := by
  have closing (saved : Option Int) (after : World) :
      Drawing.stream (after.closeTerms saved) = Drawing.stream after := by cases saved <;> rfl
  exact closing _ _

/-- However a run ends, it draws from its source as the source goes on.  Each draw starts where the one before
it stopped, the first one at the seed, and the source is left where the last one stopped; at each of these
points the state is what the number of values drawn makes of the seed, and that number never falls.  Whatever
is put back after a step, a snapshot, a context or a term budget, the source and the record of what was drawn
stay as the step left them, and what is recorded of a decision does not move the source. -/
theorem generate_draws_once (settings : Settings) (seed : Int) (tracing : Bool) :
    let outcome := generate settings (.ofSeed seed tracing)
    Random.Taken ⟨0, Random.seedState seed⟩ outcome.readings outcome.source.position ∧
      (∀ reading ∈ outcome.readings, reading.start.On seed ∧ reading.stop.On seed) ∧
      outcome.source.position.On seed ∧
      (outcome.readings.Pairwise fun later earlier => earlier.stop.drawn ≤ later.start.drawn) ∧
      (∀ reading ∈ outcome.readings,
        reading.start.drawn ≤ reading.stop.drawn ∧ reading.stop.drawn ≤ outcome.source.drawn) ∧
      (∀ (setup : Setup) (start : Checkpoint) (world : World),
        Drawing.stream (Gen.goBack setup start world).2 = Drawing.stream world) ∧
      (∀ {α : Type} (context : Context) (step : Gen α) (world : World),
        Drawing.stream (Gen.inContext context step world).2 = Drawing.stream (step { world with context }).2) ∧
      (∀ {α : Type} (settings : Settings) (step : Gen α) (world : World),
        Drawing.stream (withTerms settings step world).2 =
          Drawing.stream (step (world.openTerms settings).2).2) ∧
      ∀ (decision : Random.Decision) (source : Random.Source),
        (source.record decision).position = source.position := by
  intro outcome
  have taken : Random.Taken ⟨0, Random.seedState seed⟩ outcome.readings outcome.source.position := by
    subst outcome
    unfold generate
    split
    · exact taken_generateWritable settings (.ofSeed seed tracing)
    · exact .none
  -- What follows holds of any chain of readings; the program is forgotten so that nothing evaluates it.
  clear_value outcome
  have on := taken.on (Random.on_ofSeed seed tracing)
  exact ⟨taken, on.2, on.1, taken.ordered, taken.drawn_le, stream_goBack, stream_inContext, stream_withTerms,
    Random.position_record⟩

end RandomC
