import Mathlib.Algebra.Ring.Nat
import Mathlib.Logic.Function.Iterate
import RandomC.Random.Source

/-!
# Values of a stream

A source draws one value after another, and each is the upper 31 bits of the next state.  So what is drawn later
follows from the state alone, and passing over some values is taking as many steps of the recurrence.
-/

namespace RandomC.Random

theorem toNat_advance (state : BitVec 48) :
    (advance state).toNat = (0x5DEECE66D * state.toNat + 0xB) % 2 ^ 48 := by
  simp [advance, multiplier, increment, BitVec.toNat_add, BitVec.toNat_mul]

theorem output_eq (state : BitVec 48) : output state = state.toNat / 2 ^ 17 := by
  simp [output, BitVec.toNat_ushiftRight, Nat.shiftRight_eq_div_pow]

/-- The raw value that is drawn after `count` others. -/
def Source.valueAfter (count : Nat) (source : Source) : Nat :=
  (Source.next ((fun source => (Source.next source).2)^[count] source)).1

theorem valueAfter_eq (count : Nat) (source : Source) :
    source.valueAfter count = output (advance^[count + 1] source.state) := by
  induction count generalizing source with
  | zero => rfl
  | succ count ih =>
      have later : source.valueAfter (count + 1) = (Source.next source).2.valueAfter count := by
        rw [Source.valueAfter, Function.iterate_succ_apply]
        rfl
      rw [later, ih, Function.iterate_succ_apply advance (count + 1)]
      rfl

namespace Source

/-- A value of a stream has 31 bits. -/
theorem valueAfter_lt (count : Nat) (source : Source) : source.valueAfter count < 2 ^ 31 := by
  have bound := (advance^[count + 1] source.state).isLt
  rw [valueAfter_eq, output_eq]
  omega

/-- The source after `count` values have been drawn. -/
def skip (count : Nat) (source : Source) : Source := (fun source => (next source).2)^[count] source

/-- Drawing moves the state on, and is counted. -/
theorem skip_eq (count : Nat) (source : Source) :
    source.skip count = { source with state := advance^[count] source.state, drawn := source.drawn + count } := by
  induction count generalizing source with
  | zero => rfl
  | succ count ih => exact (ih (next source).2).trans (by simp [next, Nat.add_assoc, Nat.add_comm 1])

theorem skip_skip (first second : Nat) (source : Source) :
    (source.skip first).skip second = source.skip (second + first) :=
  (Function.iterate_add_apply _ second first source).symm

@[simp] theorem skip_drawn (count : Nat) (source : Source) : (source.skip count).drawn = source.drawn + count := by
  rw [skip_eq]

@[simp] theorem skip_state (count : Nat) (source : Source) :
    (source.skip count).state = advance^[count] source.state := by
  rw [skip_eq]

@[simp] theorem skip_tracing (count : Nat) (source : Source) : (source.skip count).tracing = source.tracing := by
  rw [skip_eq]

@[simp] theorem skip_decisions (count : Nat) (source : Source) :
    (source.skip count).decisions = source.decisions := by
  rw [skip_eq]

/-- A draw gives the next value of the stream. -/
theorem next_eq (source : Source) : next source = (source.valueAfter 0, source.skip 1) := rfl

theorem valueAfter_skip (index count : Nat) (source : Source) :
    (source.skip count).valueAfter index = source.valueAfter (index + count) :=
  congrArg (fun source => (next source).1) (skip_skip count index source)

end Source

end RandomC.Random
