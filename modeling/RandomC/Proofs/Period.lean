import Mathlib.Algebra.Ring.Periodic
import Mathlib.Data.BitVec
import Mathlib.Dynamics.PeriodicPts.Lemmas
import Mathlib.Tactic.LinearCombination
import Mathlib.Tactic.Ring
import RandomC.Proofs.Values

/-!
# The period of the source

A source runs through all its states before one of them comes back.  From whatever state, `2 ^ k` steps add an odd
multiple of `2 ^ k`.  So the state is the same again after `2 ^ 48` steps, while half as many flip its top bit.  That
bit is among those that a value shows, which is why the values repeat no earlier than the states.
-/

namespace RandomC.Random

open Function

/-! ## States -/

/-- A number of steps that is a power of two adds an odd multiple of this power. -/
theorem advance_two_pow (k : Nat) : ∃ slope offset : BitVec 48, ∀ state,
    advance^[2 ^ k] state = state + 2 ^ k * (2 * (2 * slope * state + offset) + 1) := by
  induction k with
  | zero =>
      refine ⟨0x177BB399B, 5, fun state => ?_⟩
      have multiplied : multiplier = 4 * 0x177BB399B + 1 := by decide
      have added : increment = 2 * 5 + 1 := by decide
      rw [pow_zero, pow_zero, iterate_one, advance, multiplied, added]
      ring
  | succ k ih =>
      -- The second half of the steps adds the same odd number as the first one, up to a multiple of 4, so that the
      -- sum of both is twice an odd number.
      obtain ⟨slope, offset, steps⟩ := ih
      refine ⟨slope * (1 + 2 ^ (k + 1) * slope), offset + 2 ^ k * slope * (2 * offset + 1), fun state => ?_⟩
      rw [pow_succ, mul_two, iterate_add_apply, steps, steps]
      ring

/-- In words of 48 bits, this power of two is zero. -/
theorem two_pow_width : (2 : BitVec 48) ^ 48 = 0 := by decide

theorem advance_half_cycle (state : BitVec 48) : advance^[2 ^ 47] state = state + 2 ^ 47 := by
  obtain ⟨slope, offset, steps⟩ := advance_two_pow 47
  rw [steps]
  linear_combination (2 * slope * state + offset) * two_pow_width

theorem advance_whole_cycle (state : BitVec 48) : advance^[2 ^ 48] state = state := by
  obtain ⟨slope, offset, steps⟩ := advance_two_pow 48
  rw [steps]
  linear_combination (2 * (2 * slope * state + offset) + 1) * two_pow_width

/-- States that differ in the top bit show different values. -/
theorem output_half_cycle (state : BitVec 48) : output (state + 2 ^ 47) ≠ output state := by
  have bound := state.isLt
  have top : (2 ^ 47 : BitVec 48).toNat = 2 ^ 47 := by decide
  rw [output_eq, output_eq, BitVec.toNat_add, top]
  omega

theorem minimalPeriod_advance (state : BitVec 48) : minimalPeriod advance state = 2 ^ 48 := by
  have half : ¬ IsPeriodicPt advance (2 ^ 47) state := by
    intro back
    rw [IsPeriodicPt, IsFixedPt, advance_half_cycle] at back
    exact output_half_cycle state (congrArg output back)
  exact minimalPeriod_eq_prime_pow half (advance_whole_cycle state)

/-- A state comes back after the multiples of the period only. -/
theorem advance_eq_self_iff (state : BitVec 48) (count : Nat) : advance^[count] state = state ↔ 2 ^ 48 ∣ count := by
  rw [← minimalPeriod_advance state, ← isPeriodicPt_iff_minimalPeriod_dvd, IsPeriodicPt, IsFixedPt]

/-- Every state is reached from every other one, and in one round this happens once. -/
theorem existsUnique_advance (first last : BitVec 48) : ∃! count, count < 2 ^ 48 ∧ advance^[count] first = last := by
  have apart {one other : Nat} (less : one < 2 ^ 48) (alsoLess : other < 2 ^ 48) :
      advance^[one] first = advance^[other] first ↔ one = other := by
    rw [← minimalPeriod_advance first] at less alsoLess
    exact iterate_eq_iterate_iff_of_lt_minimalPeriod less alsoLess
  -- A round has as many steps as there are states, so that the states met in it are all of them.
  have injective : Injective fun count : Fin (2 ^ 48) => advance^[count] first :=
    fun one other same => Fin.ext ((apart one.isLt other.isLt).mp same)
  obtain ⟨count, reached⟩ := injective.surjective_of_finite BitVec.equivFin.symm.toEquiv last
  refine ⟨count, ⟨count.isLt, reached⟩, ?_⟩
  rintro other ⟨less, alsoReached⟩
  exact (apart less count.isLt).mp (alsoReached.trans reached.symm)

/-! ## Values -/

/-- A sequence without its first value. -/
def behind (values : Nat → Nat) (index : Nat) : Nat := values (index + 1)

theorem behind_iterate (count : Nat) (values : Nat → Nat) :
    behind^[count] values = fun index => values (index + count) := by
  induction count generalizing values with
  | zero => rfl
  | succ count ih =>
      rw [iterate_succ_apply, ih]
      rfl

/-- The periods of a sequence are those of dropping its first value. -/
theorem isPeriodicPt_behind {values : Nat → Nat} {period : Nat} :
    IsPeriodicPt behind period values ↔ Periodic values period := by
  rw [IsPeriodicPt, IsFixedPt, behind_iterate, funext_iff, Periodic]

namespace Source

theorem valueAfter_half_cycle (count : Nat) (source : Source) :
    source.valueAfter (count + 2 ^ 47) ≠ source.valueAfter count := by
  rw [valueAfter_eq, valueAfter_eq, Nat.add_right_comm, Nat.add_comm (count + 1), iterate_add_apply,
    advance_half_cycle]
  exact output_half_cycle _

theorem valueAfter_whole_cycle (count : Nat) (source : Source) :
    source.valueAfter (count + 2 ^ 48) = source.valueAfter count := by
  rw [valueAfter_eq, valueAfter_eq, Nat.add_right_comm, iterate_add_apply, advance_whole_cycle]

theorem minimalPeriod_valueAfter (source : Source) : minimalPeriod behind source.valueAfter = 2 ^ 48 := by
  have half : ¬ IsPeriodicPt behind (2 ^ 47) source.valueAfter := by
    intro periodic
    exact source.valueAfter_half_cycle 0 (isPeriodicPt_behind.mp periodic 0)
  exact minimalPeriod_eq_prime_pow half (isPeriodicPt_behind.mpr source.valueAfter_whole_cycle)

theorem periodic_valueAfter_iff (source : Source) (period : Nat) :
    Periodic source.valueAfter period ↔ 2 ^ 48 ∣ period := by
  rw [← isPeriodicPt_behind, isPeriodicPt_iff_minimalPeriod_dvd, minimalPeriod_valueAfter]

/-- The states of the source form a single cycle of `2 ^ 48`.  From any state, so many draws lead back to it if and
only if their number is a multiple of `2 ^ 48`, and each state is reached by one number of draws below that.  So the
stream of a seed never runs into a shorter cycle, at its start or behind it.  A value shows the upper 31 bits of the
state only, and still the periods of the values are the same. -/
theorem next_has_full_period (source : Source) :
    (∀ count, (source.skip count).state = source.state ↔ 2 ^ 48 ∣ count) ∧
    (∀ state, ∃! count, count < 2 ^ 48 ∧ (source.skip count).state = state) ∧
    (∀ seed start count, ((source.reseed seed).skip (start + count)).state = ((source.reseed seed).skip start).state ↔
      2 ^ 48 ∣ count) ∧
    (∀ index, source.valueAfter index = (source.skip (index + 1)).state.toNat / 2 ^ 17 ∧
      source.valueAfter index < 2 ^ 31) ∧
    ∀ period, Periodic source.valueAfter period ↔ 2 ^ 48 ∣ period := by
  refine ⟨?_, ?_, ?_, ?_, source.periodic_valueAfter_iff⟩
  · intro count
    rw [skip_state]
    exact advance_eq_self_iff source.state count
  · intro state
    simp only [skip_state]
    exact existsUnique_advance source.state state
  · intro seed start count
    rw [Nat.add_comm start, ← skip_skip, skip_state]
    exact advance_eq_self_iff _ count
  · intro index
    refine ⟨?_, source.valueAfter_lt index⟩
    rw [valueAfter_eq, output_eq, skip_state]

end Source

end RandomC.Random
