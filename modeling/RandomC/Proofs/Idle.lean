import Mathlib.Data.List.Basic
import RandomC.Generation.Place
import RandomC.Proofs.Step

/-!
# Idle steps

A draw moves the random source and leaves everything else as it is.  `Idle` says this of a step, up to the
parts of the state that do not matter, together with what holds of the value.
-/

namespace RandomC

/-- States that hold the random source, among them those that differ only in parts that do not matter. -/
class Resting (σ : Type) [Drawing σ] where
  Still : σ → σ → Prop
  refl : ∀ state, Still state state
  trans : ∀ {first middle last}, Still first middle → Still middle last → Still first last
  withStream : ∀ stream state, Still state (Drawing.withStream stream state)

/-- The step changes nothing that matters, and gives a value that satisfies `post` if it gives one. -/
def Idle {σ α : Type} [Drawing σ] [Resting σ] (step : Step σ α) (post : α → Prop) : Prop :=
  ∀ state, step.Ends state (fun value after => Resting.Still state after ∧ post value)
    (Resting.Still state)

/-! ## Rules -/

namespace Idle

variable {σ α β : Type} [Drawing σ] [Resting σ] {step : Step σ α} {post : α → Prop}

theorem pure {value : α} (holds : post value) : Idle (pure value : Step σ α) post :=
  fun state => ⟨Resting.refl state, holds⟩

theorem fail {failure : Failure} : Idle (throw failure : Step σ α) post := fun state => Resting.refl state

theorem bind {next : α → Step σ β} {final : β → Prop} (first : Idle step post)
    (second : ∀ value, post value → Idle (next value) final) : Idle (step >>= next) final := by
  intro state
  apply Step.ends_bind.mpr
  apply (first state).mono
  · intro value after ends
    apply (second value ends.2 after).mono
    · exact fun _ last final => ⟨Resting.trans ends.1 final.1, final.2⟩
    · exact fun _ still => Resting.trans ends.1 still
  · exact fun _ still => still

theorem mono {weaker : α → Prop} (idle : Idle step post)
    (weaken : ∀ value, post value → weaker value) : Idle step weaker := by
  intro state
  apply (idle state).mono
  · exact fun value _ ends => ⟨ends.1, weaken value ends.2⟩
  · exact fun _ still => still

theorem trivial (idle : Idle step post) : Idle step fun _ => True := idle.mono fun _ _ => True.intro

theorem discard (idle : Idle step post) : Idle (discard step) fun _ => True := by
  intro state
  apply Step.ends_discard.mpr
  exact idle.trivial state

theorem mapM {list : List α} {make : α → Step σ β} {each : β → Prop}
    (idle : ∀ element ∈ list, Idle (make element) each) :
    Idle (list.mapM make) fun values => ∀ value ∈ values, each value := by
  induction list with
  | nil => exact pure (by simp)
  | cons element rest ih =>
      rw [List.mapM_cons]
      apply bind (idle element (by simp))
      intro value held
      apply bind (ih fun other member => idle other (List.mem_cons_of_mem _ member))
      intro values all
      exact pure (List.forall_mem_cons.mpr ⟨held, all⟩)

end Idle

/-! ## Draws -/

@[simp] theorem draw_pure {α : Type} (value : α) (source : Random.Source) :
    (pure value : StateM Random.Source α) source = (value, source) := rfl

@[simp] theorem draw_bind {α β : Type} (first : StateM Random.Source α)
    (next : α → StateM Random.Source β) (source : Random.Source) :
    (first >>= next) source = next (first source).1 (first source).2 := rfl

section

variable {σ α : Type} [Drawing σ] [Resting σ] {post : α → Prop}

theorem idle_draw {action : StateM Random.Source α} (holds : ∀ source, post (action source).1) :
    Idle (Step.draw action : Step σ α) post :=
  fun state => ⟨Resting.withStream _ state, holds (Drawing.stream state).source⟩

/-- A drawn value is below the bound, or 0 where nothing is. -/
theorem idle_below (bound : Int) :
    Idle (Step.below bound : Step σ Nat) fun value => (value : Int) < max 1 bound := by
  apply idle_draw
  intro source
  unfold Random.Source.below
  split
  · simp only [draw_pure]
    omega
  · rename_i positive
    simp only [draw_bind, draw_pure, Random.Source.next]
    have remainder := Nat.mod_lt (Random.output (Random.advance source.state))
      (show 0 < bound.toNat by omega)
    omega

theorem idle_coin (percent : Int) : Idle (Step.coin percent : Step σ Bool) fun _ => True :=
  idle_draw fun _ => trivial

theorem idle_belowLimit (bound : Int) (limit : Nat) :
    Idle (Step.belowLimit bound limit : Step σ Bool) fun _ => True :=
  (idle_below bound).bind fun _ _ => .pure trivial

theorem idle_oneIn (bound : Int) : Idle (Step.oneIn bound : Step σ Bool) fun _ => True :=
  idle_belowLimit bound 1

/-- What is decided only under a condition is decided for it only there. -/
theorem idle_decideIf {isOpen : Bool} {decision : Step σ Bool} (idle : Idle decision fun _ => True) :
    Idle (Step.decideIf isOpen decision) fun decided => decided = true → isOpen = true := by
  unfold Step.decideIf
  split
  · rename_i isOpen
    exact idle.mono fun _ _ _ => isOpen
  · exact .pure nofun

/-- A value that was drawn until it was accepted is not rejected. -/
theorem idle_belowUnless_of_pos {bound : Int} (positive : 0 < bound) (reject : Nat → Bool) :
    Idle (Step.belowUnless bound reject : Step σ Nat) fun value => reject value = false := by
  have drawn : Idle (Step.draw (Random.Source.belowUnless bound reject) : Step σ _) fun outcome =>
      ∀ value, outcome = .ok value → reject value = false := by
    apply idle_draw
    intro source value
    have notNegative : ¬ bound ≤ 0 := by omega
    simp only [Random.Source.belowUnless, notNegative, if_false, draw_bind]
    split
    · exact nofun
    · rename_i accepted
      rintro ⟨⟩
      simpa using accepted
  apply drawn.bind
  intro outcome accepted
  cases outcome with
  | ok value => exact .pure (accepted value rfl)
  | error tries => exact .fail

theorem idle_element (list : List α) (index : Int) :
    Idle (Step.element list index : Step σ α) (· ∈ list) := by
  unfold Step.element
  generalize (if index < 0 then index + list.length else index) = position
  by_cases negative : position < 0
  · simp only [negative, if_true]
    exact .fail
  · simp only [negative, if_false]
    cases found : list[position.toNat]? with
    | none => exact .fail
    | some value => exact .pure (List.mem_of_getElem? found)

theorem idle_choose (list : List α) : Idle (Step.choose list : Step σ α) (· ∈ list) :=
  (idle_below _).bind fun value _ => idle_element list value

theorem idle_drawQualifier (inUse : Bool) (percent : Nat) :
    Idle (drawQualifier inUse percent : Step σ Bool) fun drawn => drawn = true → inUse = true :=
  idle_decideIf (idle_belowLimit 100 percent)

/-- A qualifier is drawn only where it is in use. -/
theorem idle_drawQualifiers (settings : Settings) :
    Idle (drawQualifiers settings : Step σ (Bool × Bool)) fun drawn =>
      (drawn.1 = true → settings.consts = true) ∧ (drawn.2 = true → settings.volatiles = true) := by
  unfold drawQualifiers
  apply (idle_drawQualifier _ _).bind
  intro isConst consts
  apply (idle_drawQualifier _ _).bind
  intro isVolatile volatiles
  dsimp only
  split
  · rename_i both
    rw [Bool.and_eq_true] at both
    apply (idle_oneIn 2).bind
    intro spared _
    split
    · exact .pure ⟨nofun, fun _ => volatiles both.2⟩
    · exact .pure ⟨consts, volatiles⟩
  · exact .pure ⟨consts, volatiles⟩

theorem bestCandidates_subset (type : CType) (candidates : List Candidate) :
    bestCandidates type candidates ⊆ candidates := by
  unfold bestCandidates
  dsimp only
  split
  · exact List.filter_subset_self _
  · split
    · exact List.filter_subset_self _
    · exact List.Subset.refl _

/-- A selected place is one of the candidates, and can be assigned where that is asked for. -/
theorem idle_selectPlace (type : CType) (candidates : List Candidate) (forAssignment : Bool) :
    Idle (selectPlace type candidates forAssignment : Step σ (Option Candidate)) fun selected =>
      ∀ candidate, selected = some candidate →
        candidate ∈ candidates ∧ (forAssignment → candidate.assignable) := by
  unfold selectPlace
  generalize usable : (if forAssignment then candidates.filter (·.assignable) else candidates) = places
  dsimp only
  by_cases none : (bestCandidates type places).isEmpty
  · simp only [none, if_true]
    exact .pure (by simp)
  · simp only [none]
    apply (idle_choose _).bind
    intro chosen best
    apply Idle.pure
    rintro candidate ⟨⟩
    have member := bestCandidates_subset _ _ best
    subst usable
    cases forAssignment with
    | true => simpa using member
    | false => simpa using member

end

end RandomC
