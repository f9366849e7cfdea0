import RandomC.Proofs.Readings
import RandomC.Proofs.Statement
import RandomC.Proofs.Values

/-!
# Draws with a filter

A draw with a filter gives the first value of the stream that is not rejected.  It looks at one value more than
there are redraws, and if all of these are rejected it is given up.
-/

namespace RandomC

namespace Random

/-! ## The first accepted value -/

namespace Source

/-- The value at an index of the stream, brought below a bound. -/
def valueBelow (bound : Int) (source : Source) (index : Nat) : Nat := source.valueAfter index % bound.toNat

/-- At the index stands the first value that is not rejected. -/
structure FirstAccepted (bound : Int) (reject : Nat → Bool) (source : Source) (index : Nat) : Prop where
  accepted : reject (source.valueBelow bound index) = false
  rejected : ∀ earlier < index, reject (source.valueBelow bound earlier) = true

variable {bound : Int} {reject : Nat → Bool} {source : Source} {first second : Nat}

/-- A draw without a filter gives the next value of the stream. -/
theorem below_eq (positive : 0 < bound) (source : Source) :
    below bound source = (source.valueBelow bound 0,
      (source.skip 1).record (.bounded bound (source.valueBelow bound 0) 0 (source.valueAfter 0))) := by
  rw [below, if_neg (by omega)]
  rfl

/-- There is one first value that is not rejected at most. -/
theorem FirstAccepted.unique (one : source.FirstAccepted bound reject first)
    (other : source.FirstAccepted bound reject second) : first = second := by
  have absurd {early late : Nat} (accepts : source.FirstAccepted bound reject early)
      (later : source.FirstAccepted bound reject late) : ¬ early < late := fun less => by
    have rejected := later.rejected early less
    rw [accepts.accepted] at rejected
    cases rejected
  exact Nat.le_antisymm (Nat.not_lt.mp (absurd other one)) (Nat.not_lt.mp (absurd one other))

/-- Redrawing stops at the first value that is not rejected, or at the last redraw. -/
theorem redraw_eq (reject : Nat → Bool) (left tries : Nat) (source : Source) :
    ∃ index ≤ left,
      redraw reject left (source.valueAfter 0) tries (source.skip 1) =
        ((source.valueAfter index, tries + index), source.skip (index + 1)) ∧
      (∀ earlier < index, reject (source.valueAfter earlier) = true) ∧
      (index < left → reject (source.valueAfter index) = false) := by
  induction left generalizing source tries with
  | zero => exact ⟨0, Nat.le_refl 0, rfl, nofun, nofun⟩
  | succ left ih =>
      cases first : reject (source.valueAfter 0) with
      | false =>
          refine ⟨0, Nat.zero_le _, ?_, nofun, fun _ => first⟩
          simp [redraw, first]
      | true =>
          -- What follows is the same draw on the stream without its first value.
          obtain ⟨index, bounded, stops, rejected, accepted⟩ := ih (tries + 1) (source.skip 1)
          simp only [valueAfter_skip, skip_skip] at stops rejected accepted
          refine ⟨index + 1, by omega, ?_, ?_, fun less => accepted (by omega)⟩
          · rw [redraw, first, if_pos rfl, draw_bind, next_eq, valueAfter_skip, skip_skip]
            rw [stops, Nat.add_assoc, Nat.add_comm 1]
          · intro earlier less
            cases earlier with
            | zero => exact first
            | succ earlier => exact rejected earlier (by omega)

/-- A draw with a filter gives the first value that is not rejected, and is given up if there is none. -/
theorem belowUnless_eq (positive : 0 < bound) (reject : Nat → Bool) (source : Source) :
    (∃ index ≤ maxRedraws, source.FirstAccepted bound reject index ∧
      belowUnless bound reject source = (.ok (source.valueBelow bound index),
        (source.skip (index + 1)).record
          (.bounded bound (source.valueBelow bound index) index (source.valueAfter index)))) ∨
    ((∀ index ≤ maxRedraws, reject (source.valueBelow bound index) = true) ∧
      belowUnless bound reject source = (.error maxRedraws, source.skip (maxRedraws + 1))) := by
  obtain ⟨index, bounded, stops, rejected, accepted⟩ :=
    redraw_eq (fun raw => reject (raw % bound.toNat)) maxRedraws 0 source
  have draws : belowUnless bound reject source =
      if reject (source.valueBelow bound index) then (.error index, source.skip (index + 1))
      else (.ok (source.valueBelow bound index), (source.skip (index + 1)).record
        (.bounded bound (source.valueBelow bound index) index (source.valueAfter index))) := by
    rw [belowUnless, if_neg (by omega), draw_bind, next_eq, draw_bind, stops, Nat.zero_add]
    unfold valueBelow
    dsimp only
    split <;> rfl
  rw [draws]
  cases last : reject (source.valueBelow bound index) with
  | false => exact .inl ⟨index, bounded, ⟨last, rejected⟩, rfl⟩
  | true =>
      -- Only the last value that is looked at can be rejected at the end.
      have all : index = maxRedraws := by
        by_contra less
        have early := accepted (by omega)
        rw [valueBelow, early] at last
        cases last
      subst all
      refine .inr ⟨?_, rfl⟩
      intro earlier atMost
      rcases Nat.lt_or_eq_of_le atMost with less | rfl
      · exact rejected earlier less
      · exact last

theorem valueBelow_lt (positive : 0 < bound) (source : Source) (index : Nat) :
    (source.valueBelow bound index : Int) < bound := by
  have remainder := Nat.mod_lt (source.valueAfter index) (show 0 < bound.toNat by omega)
  rw [valueBelow]
  omega

end Source

end Random

open RandomC.Random

/-- The state after something was drawn from the source that it holds. -/
def Drawing.drawnTo {σ : Type} [Drawing σ] (source : Source) (state : σ) : σ :=
  let stream := Drawing.stream state
  Drawing.withStream ⟨source, ⟨stream.source.position, source.position⟩ :: stream.readings⟩ state

theorem Step.draw_apply {σ α : Type} [Drawing σ] (action : StateM Source α) (state : σ) :
    let drawn := action (Drawing.stream state).source
    (Step.draw action : Step σ α) state = (.ok drawn.1, Drawing.drawnTo drawn.2 state) := rfl

theorem Step.belowUnless_apply {σ : Type} [Drawing σ] (bound : Int) (reject : Nat → Bool) (state : σ) :
    let drawn := Source.belowUnless bound reject (Drawing.stream state).source
    (Step.belowUnless bound reject : Step σ Nat) state =
      (drawn.1.mapError (.noneAccepted bound), Drawing.drawnTo drawn.2 state) := by
  rw [Step.belowUnless, Step.bind_apply, Step.draw_apply]
  rcases Source.belowUnless bound reject (Drawing.stream state).source with ⟨tries | value, after⟩ <;> rfl

end RandomC
