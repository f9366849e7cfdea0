import RandomC.Generation.Step

/-!
# Reasoning about steps

`Step.Ends` says how a step ends that is run from a given state: with a value and a state that satisfy a
postcondition, or in failure with a state that satisfies another one.  The rules below take a step apart
along its construction, so that a statement about a step is assembled from statements about its parts.
-/

namespace RandomC.Step

variable {σ α β : Type}

/-- Run from `state`, the step gives a value and a state that satisfy `ok`, or it fails in a state that
satisfies `failed`. -/
def Ends (step : Step σ α) (state : σ) (ok : α → σ → Prop) (failed : σ → Prop) : Prop :=
  match step state with
  | (.ok value, after) => ok value after
  | (.error _, after) => failed after

section Rules

variable {state : σ} {failed : σ → Prop}

@[simp] theorem ends_pure {value : α} {ok : α → σ → Prop} :
    Ends (pure value) state ok failed ↔ ok value state := Iff.rfl

@[simp] theorem ends_throw {failure : Failure} {ok : α → σ → Prop} :
    Ends (throw failure) state ok failed ↔ failed state := Iff.rfl

@[simp] theorem ends_get {ok : σ → σ → Prop} :
    Ends get state ok failed ↔ ok state state := Iff.rfl

@[simp] theorem ends_modify {change : σ → σ} {ok : Unit → σ → Prop} :
    Ends (modify change) state ok failed ↔ ok () (change state) := Iff.rfl

@[simp] theorem pure_apply {value : α} : (pure value : Step σ α) state = (.ok value, state) := rfl

@[simp] theorem get_apply : (get : Step σ σ) state = (.ok state, state) := rfl

/-- The second one of two steps is run where the first one gives a value. -/
theorem bind_apply {step : Step σ α} {next : α → Step σ β} :
    (step >>= next) state =
      match step state with
      | (.ok value, after) => next value after
      | (.error failure, after) => (.error failure, after) := by
  change StateT.bind step (ExceptT.bindCont next) state = _
  simp only [StateT.bind, bind]
  rcases step state with ⟨_ | _, _⟩ <;> rfl

theorem discard_bind_apply {step : Step σ α} {next : Unit → Step σ β} :
    (discard step >>= next) state =
      match step state with
      | (.ok _, after) => next () after
      | (.error failure, after) => (.error failure, after) := by
  have same : discard step = step >>= fun _ => pure () := map_eq_pure_bind (fun _ => ()) step
  rw [same, bind_assoc, bind_apply]
  rfl

/-- A sequence of two steps ends well if the first one ends in a state from which the second one does. -/
@[simp] theorem ends_bind {step : Step σ α} {next : α → Step σ β} {ok : β → σ → Prop} :
    Ends (step >>= next) state ok failed ↔
      Ends step state (fun value after => Ends (next value) after ok failed) failed := by
  simp only [Ends, bind_apply]
  rcases step state with ⟨_ | _, _⟩ <;> rfl

@[simp] theorem ends_map {step : Step σ α} {image : α → β} {ok : β → σ → Prop} :
    Ends (image <$> step) state ok failed ↔
      Ends step state (fun value after => ok (image value) after) failed := by
  rw [map_eq_pure_bind, ends_bind]
  rfl

@[simp] theorem ends_discard {step : Step σ α} {ok : Unit → σ → Prop} :
    Ends (discard step) state ok failed ↔
      Ends step state (fun _ after => ok () after) failed :=
  ends_map

/-- How a step ends depends only on what it does from the state at hand. -/
theorem Ends.congr {step other : Step σ α} {ok : α → σ → Prop} (ends : Ends step state ok failed)
    (same : other state = step state) : Ends other state ok failed := by
  rwa [Ends, same]

theorem Ends.mono {step : Step σ α} {ok weaker : α → σ → Prop} {alsoFailed : σ → Prop}
    (ends : Ends step state ok failed)
    (value : ∀ value after, ok value after → weaker value after)
    (failure : ∀ after, failed after → alsoFailed after) :
    Ends step state weaker alsoFailed := by
  revert ends
  unfold Ends
  rcases step state with ⟨_ | made, after⟩
  · exact failure after
  · exact value made after

/-- Both of two statements about how a step ends. -/
theorem Ends.and {step : Step σ α} {ok also : α → σ → Prop} {alsoFailed : σ → Prop}
    (first : Ends step state ok failed) (second : Ends step state also alsoFailed) :
    Ends step state (fun value after => ok value after ∧ also value after) fun after =>
      failed after ∧ alsoFailed after := by
  revert first second
  unfold Ends
  rcases step state with ⟨_ | _, _⟩
  · exact fun first second => ⟨first, second⟩
  · exact fun first second => ⟨first, second⟩

/-- What holds of the state in any case. -/
theorem Ends.reached {step : Step σ α} {holds : σ → Prop} (ends : Ends step state (fun _ => holds) holds) :
    holds (step state).2 := by
  revert ends
  unfold Ends
  rcases step state with ⟨_ | _, _⟩ <;> exact id

/-- What holds where the step is known to give a value. -/
theorem Ends.of_ok {step : Step σ α} {value : α} {ok : α → σ → Prop} (ends : Ends step state ok failed)
    (succeeds : (step state).1 = .ok value) : ok value (step state).2 := by
  revert ends succeeds
  unfold Ends
  rcases step state with ⟨_ | _, _⟩
  · exact nofun
  · rintro holds ⟨⟩
    exact holds

end Rules

theorem element_eq_pure {list : List α} {index : Nat} {value : α}
    (found : list[index]? = some value) : (element list index : Step σ α) = pure value := by
  have notNegative : ¬ (index : Int) < 0 := by omega
  simp only [element, notNegative, if_false, Int.toNat_natCast, found]

theorem replace_eq_pure {list : List α} {index : Nat} {value : α} (bound : index < list.length) :
    (replace list index value : Step σ (List α)) = pure (list.set index value) := by
  have notNegative : ¬ (index : Int) < 0 := by omega
  have notBeyond : ¬ (list.length : Int) ≤ index := by omega
  simp [replace, notNegative, notBeyond]

/-- A step for each element of a list in turn, after some elements are done.  The invariant speaks of the
elements that are done and of the values made of them. -/
theorem ends_mapM_from {make : α → Step σ β} {failed : σ → Prop}
    (inv : List α → List β → σ → Prop) {list : List α}
    (each : ∀ done element made state, element ∈ list → inv done made state →
      Ends (make element) state (fun value after => inv (done ++ [element]) (made ++ [value]) after)
        failed)
    (done : List α) (made : List β) {state : σ} (start : inv done made state) :
    Ends (list.mapM make) state (fun values after => inv (done ++ list) (made ++ values) after)
      failed := by
  induction list generalizing done made state with
  | nil => simpa using start
  | cons element rest ih =>
      rw [List.mapM_cons, ends_bind]
      apply (each done element made state (by simp) start).mono
      · intro value after held
        rw [ends_bind]
        have tail := ih (fun done' element' made' state' member =>
          each done' element' made' state' (List.mem_cons_of_mem _ member)) (done ++ [element])
          (made ++ [value]) held
        apply tail.mono
        · intro values last final
          simpa using final
        · exact fun _ stop => stop
      · exact fun _ stop => stop

/-- A step for each element of a list in turn. -/
theorem ends_mapM {make : α → Step σ β} {failed : σ → Prop}
    (inv : List α → List β → σ → Prop) {list : List α}
    (each : ∀ done element made state, element ∈ list → inv done made state →
      Ends (make element) state (fun value after => inv (done ++ [element]) (made ++ [value]) after)
        failed)
    {state : σ} (start : inv [] [] state) : Ends (list.mapM make) state (inv list) failed := by
  simpa using ends_mapM_from inv each [] [] start

end RandomC.Step
