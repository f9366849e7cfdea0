import RandomC.Environment.Builder
import RandomC.Composite.Generator
import RandomC.Generation.Place
import RandomC.Proofs.Step

/-!
# Blind steps

A step sees of the random source only the values that it draws.  `Blind` says so: run from two states that
differ only in their streams, it gives the same value as long as the streams show the same values, and
leads to states that again differ only in their streams.  What is known of streams carries over to whole
runs in this way.
-/

namespace RandomC

/-! ## Draws -/

namespace Random

/-- What draws are made of: raw values, and decisions that are recorded. -/
inductive Draws : {α : Type} → StateM Source α → Prop
  | pure {α : Type} (value : α) : Draws (pure value)
  | next : Draws Source.next
  | record (decision : Decision) : Draws (modify (Source.record decision))
  | bind {α β : Type} {first : StateM Source α} {next : α → StateM Source β} (start : Draws first)
      (rest : ∀ value, Draws (next value)) : Draws (first >>= next)

theorem draws_below (bound : Int) : Draws (Source.below bound) := by
  unfold Source.below
  split
  · exact .pure 0
  · exact .bind .next fun raw => .bind (.record _) fun _ => .pure _

theorem draws_coin (percent : Int) : Draws (Source.coin percent) :=
  .bind .next fun _ => .bind (.record _) fun _ => .pure _

theorem draws_redraw (reject : Nat → Bool) (left raw tries : Nat) :
    Draws (Source.redraw reject left raw tries) := by
  induction left generalizing raw tries with
  | zero => exact .pure (raw, tries)
  | succ left ih =>
      rw [Source.redraw]
      split
      · exact .bind .next fun raw => ih raw (tries + 1)
      · exact .pure (raw, tries)

theorem draws_belowUnless (bound : Int) (reject : Nat → Bool) : Draws (Source.belowUnless bound reject) := by
  unfold Source.belowUnless
  split
  · exact .pure (Except.ok 0)
  · apply Draws.bind .next
    intro first
    apply Draws.bind (draws_redraw _ _ _ _)
    rintro ⟨raw, tries⟩
    dsimp only
    split
    · exact .pure (Except.error tries)
    · exact .bind (.record _) fun _ => .pure _

/-- Streams that are related show the same values, and stay related when something is drawn from both. -/
structure Agreeing (related : Stream → Stream → Prop) : Prop where
  draw {α : Type} {action : StateM Source α} {first second : Stream} : Draws action → related first second →
    (first.draw action).1 = (second.draw action).1 ∧
      related (first.draw action).2 (second.draw action).2

end Random

theorem draws_literal (type : CType) (longLong : Bool) : Random.Draws (Literal.draw type longLong) := by
  apply Random.Draws.bind .next
  intro raw
  split
  · exact .pure _
  · split
    · exact .pure _
    · split
      · exact .pure _
      · exact .bind .next fun _ => .pure _

theorem draws_initial : Random.Draws Literal.drawInitial := .bind .next fun _ => .pure _

/-! ## States -/

/-- The stream is a part of the state like any other. -/
class LawfulDrawing (σ : Type) [Drawing σ] : Prop where
  stream_withStream (stream : Random.Stream) (state : σ) :
    Drawing.stream (Drawing.withStream stream state) = stream
  withStream_withStream (stream earlier : Random.Stream) (state : σ) :
    Drawing.withStream stream (Drawing.withStream earlier state) = Drawing.withStream stream state
  withStream_stream (state : σ) : Drawing.withStream (Drawing.stream state) state = state

attribute [simp] LawfulDrawing.stream_withStream LawfulDrawing.withStream_withStream
  LawfulDrawing.withStream_stream

instance : LawfulDrawing Composite.State := ⟨fun _ _ => rfl, fun _ _ _ => rfl, fun _ => rfl⟩

instance : LawfulDrawing Environment.Building := ⟨fun _ _ => rfl, fun _ _ _ => rfl, fun _ => rfl⟩

instance : LawfulDrawing World := ⟨fun _ _ => rfl, fun _ _ _ => rfl, fun _ => rfl⟩

section

variable {σ α β : Type} [Drawing σ]

/-- The states are the same but for their streams, and these are related. -/
structure Alike (related : Random.Stream → Random.Stream → Prop) (first second : σ) : Prop where
  streams : related (Drawing.stream first) (Drawing.stream second)
  rest : second = Drawing.withStream (Drawing.stream second) first

/-- The step sees of the stream only the values that it draws. -/
def Blind (step : Step σ α) : Prop :=
  ∀ (related : Random.Stream → Random.Stream → Prop) (first second : σ), Random.Agreeing related →
    Alike related first second →
      (step first).1 = (step second).1 ∧ Alike related (step first).2 (step second).2

/-! ## Rules -/

namespace Blind

variable {step : Step σ α}

theorem pure {value : α} : Blind (pure value : Step σ α) := fun _ _ _ _ alike => ⟨rfl, alike⟩

theorem fail {failure : Failure} : Blind (throw failure : Step σ α) := fun _ _ _ _ alike => ⟨rfl, alike⟩

theorem bind {next : α → Step σ β} (start : Blind step) (rest : ∀ value, Blind (next value)) :
    Blind (step >>= next) := by
  intro related first second agreeing alike
  have begun := start related first second agreeing alike
  rw [Step.bind_apply, Step.bind_apply]
  revert begun
  rcases step first with ⟨failure | value, middle⟩ <;> rcases step second with ⟨other | same, reached⟩ <;>
    rintro ⟨⟨⟩, alike⟩
  · exact ⟨rfl, alike⟩
  · exact rest value related middle reached agreeing alike

theorem map {image : α → β} (blind : Blind step) : Blind (image <$> step) := by
  rw [map_eq_pure_bind]
  exact blind.bind fun _ => .pure

theorem discard (blind : Blind step) : Blind (discard step) := blind.map

theorem mapM {list : List α} {make : α → Step σ β} (each : ∀ element, Blind (make element)) :
    Blind (list.mapM make) := by
  induction list with
  | nil => exact .pure
  | cons element rest ih =>
      rw [List.mapM_cons]
      exact (each element).bind fun _ => ih.bind fun _ => .pure

/-- What follows does not depend on the stream of the state that is looked at. -/
theorem get {next : σ → Step σ α}
    (unseen : ∀ stream state, next (Drawing.withStream stream state) = next state)
    (each : ∀ state, Blind (next state)) : Blind (get >>= next) := by
  intro related first second agreeing alike
  have same : next second = next first := by rw [alike.rest, unseen]
  simp only [Step.bind_apply, Step.get_apply, same]
  exact each first related first second agreeing alike

variable [LawfulDrawing σ]

/-- The change leaves the stream alone, and does not depend on it. -/
theorem modify {change : σ → σ}
    (unseen : ∀ stream state,
      change (Drawing.withStream stream state) = Drawing.withStream stream (change state)) :
    Blind (modify change : Step σ Unit) := by
  have kept (state : σ) : Drawing.stream (change state) = Drawing.stream state := by
    have same := unseen (Drawing.stream state) state
    rw [LawfulDrawing.withStream_stream] at same
    rw [same, LawfulDrawing.stream_withStream]
  intro related first second agreeing alike
  refine ⟨rfl, ?_, ?_⟩
  · change related (Drawing.stream (change first)) (Drawing.stream (change second))
    rw [kept, kept]
    exact alike.streams
  · change change second = Drawing.withStream (Drawing.stream (change second)) (change first)
    rw [kept, ← unseen, ← alike.rest]

/-- A step that is run in a changed state, of which parts are put back afterwards. -/
theorem framed {enter : σ → σ} {leave : σ → σ → σ} (blind : Blind step)
    (entering : ∀ stream state,
      enter (Drawing.withStream stream state) = Drawing.withStream stream (enter state))
    (leaving : ∀ stream before after, leave before (Drawing.withStream stream after) =
      Drawing.withStream stream (leave before after))
    (unseen : ∀ stream before after, leave (Drawing.withStream stream before) after = leave before after) :
    Blind (fun state => ((step (enter state)).1, leave state (step (enter state)).2) : Step σ α) := by
  intro related first second agreeing alike
  have entered := (modify entering related first second agreeing alike).2
  obtain ⟨same, left⟩ := blind related _ _ agreeing entered
  refine ⟨same, ?_⟩
  have outer : leave second = leave first := by
    funext after
    rw [alike.rest, unseen]
  change Alike related (leave first _) (leave second _)
  rw [outer]
  exact (modify (fun stream after => leaving stream first after) related _ _ agreeing left).2

theorem draw {action : StateM Random.Source α} (draws : Random.Draws action) :
    Blind (Step.draw action : Step σ α) := by
  intro related first second agreeing alike
  obtain ⟨same, streams⟩ := agreeing.draw draws alike.streams
  refine ⟨congrArg Except.ok same, ?_, ?_⟩
  · simpa [Step.draw] using streams
  · have drawn (stream : Random.Stream) : Drawing.withStream stream second = Drawing.withStream stream first := by
      rw [alike.rest, LawfulDrawing.withStream_withStream]
    simp [Step.draw, drawn]

end Blind

/-- If there are steps, one for each request, they are blind. -/
def BlindSteps {ι : Type} (steps : Option (ι → Step σ α)) : Prop :=
  ∀ make ∈ steps, ∀ request, Blind (make request)

theorem BlindSteps.none {ι : Type} : BlindSteps (none : Option (ι → Step σ α)) :=
  fun _ absent => absurd absent (Option.not_mem_none _)

theorem BlindSteps.some {ι : Type} {make : ι → Step σ α} (each : ∀ request, Blind (make request)) :
    BlindSteps (some make) := by
  rintro _ ⟨⟩
  exact each

/-! ## Choices -/

theorem Blind.decideIf {isOpen : Bool} {decision : Step σ Bool} (blind : Blind decision) :
    Blind (Step.decideIf isOpen decision) := by
  unfold Step.decideIf
  split
  · exact blind
  · exact .pure

theorem blind_element (list : List α) (index : Int) : Blind (Step.element list index : Step σ α) := by
  unfold Step.element
  dsimp only
  split
  · exact .pure
  · exact .fail

theorem blind_replace (list : List α) (index : Int) (value : α) :
    Blind (Step.replace list index value : Step σ (List α)) := by
  unfold Step.replace
  generalize (if index < 0 then index + list.length else index) = position
  dsimp only
  split
  · exact .fail
  · exact .pure

section

variable [LawfulDrawing σ]

theorem blind_below (bound : Int) : Blind (Step.below bound : Step σ Nat) := .draw (Random.draws_below bound)

theorem blind_coin (percent : Int) : Blind (Step.coin percent : Step σ Bool) :=
  .draw (Random.draws_coin percent)

theorem blind_belowLimit (bound : Int) (limit : Nat) : Blind (Step.belowLimit bound limit : Step σ Bool) :=
  (blind_below bound).bind fun _ => .pure

theorem blind_oneIn (bound : Int) : Blind (Step.oneIn bound : Step σ Bool) := blind_belowLimit bound 1

theorem blind_belowUnless (bound : Int) (reject : Nat → Bool) :
    Blind (Step.belowUnless bound reject : Step σ Nat) := by
  apply (Blind.draw (Random.draws_belowUnless bound reject)).bind
  intro outcome
  cases outcome with
  | ok value => exact .pure
  | error tries => exact .fail

theorem blind_choose (list : List α) : Blind (Step.choose list : Step σ α) :=
  (blind_below _).bind fun value => blind_element list value

theorem blind_drawQualifier (inUse : Bool) (percent : Nat) :
    Blind (drawQualifier inUse percent : Step σ Bool) :=
  (blind_belowLimit 100 percent).decideIf

theorem blind_drawQualifiers (settings : Settings) :
    Blind (drawQualifiers settings : Step σ (Bool × Bool)) := by
  unfold drawQualifiers
  apply (blind_drawQualifier _ _).bind
  intro isConst
  apply (blind_drawQualifier _ _).bind
  intro isVolatile
  dsimp only
  split
  · apply (blind_oneIn 2).bind
    intro spared
    split <;> exact .pure
  · exact .pure

theorem blind_chooseType (scalars : List CType) (layouts : Layouts) (fallback : CType) :
    Blind (layouts.chooseType scalars fallback : Step σ CType) := by
  unfold Layouts.chooseType
  dsimp only
  split
  · exact .pure
  · apply (blind_below _).bind
    intro number
    unfold Layouts.typeAt
    dsimp only
    split
    · exact blind_element _ _
    · split <;> exact .pure

theorem blind_selectPlace (type : CType) (candidates : List Candidate) (forAssignment : Bool) :
    Blind (selectPlace type candidates forAssignment : Step σ (Option Candidate)) := by
  unfold selectPlace
  generalize (if forAssignment then candidates.filter (·.assignable) else candidates) = places
  dsimp only
  split
  · exact .pure
  · exact (blind_choose _).bind fun _ => .pure

end

end

end RandomC
