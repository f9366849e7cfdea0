import RandomC.Proofs.Idle

/-!
# Steps that cannot fail

A draw gives a value in any state, and so does every step that is made of draws, as long as nothing is
selected from an empty list.  `Step.Succeeds` says that a step gives a value, and `Calm` that it moreover
leaves everything as it is but the random source.
-/

namespace RandomC

section

variable {σ α β : Type}

/-- The step gives a value, and the value and the state then satisfy the postcondition. -/
def Step.Succeeds (step : Step σ α) (state : σ) (ok : α → σ → Prop) : Prop :=
  step.Ends state ok fun _ => False

theorem Step.Succeeds.bind {step : Step σ α} {next : α → Step σ β} {state : σ} {middle : α → σ → Prop}
    {ok : β → σ → Prop} (first : step.Succeeds state middle)
    (second : ∀ value after, middle value after → (next value).Succeeds after ok) :
    (step >>= next).Succeeds state ok :=
  Step.ends_bind.mpr (Step.Ends.mono first second fun _ => id)

theorem Step.Succeeds.mono {step : Step σ α} {state : σ} {ok weaker : α → σ → Prop}
    (succeeds : step.Succeeds state ok)
    (weaken : ∀ value after, ok value after → weaker value after) : step.Succeeds state weaker :=
  Step.Ends.mono succeeds weaken fun _ => id

/-- A step that succeeds gives a value. -/
theorem Step.Succeeds.exists {step : Step σ α} {state : σ} {ok : α → σ → Prop}
    (succeeds : step.Succeeds state ok) :
    ∃ value after, step state = (.ok value, after) ∧ ok value after := by
  revert succeeds
  simp only [Step.Succeeds, Step.Ends]
  rcases step state with ⟨failure | value, after⟩
  · exact False.elim
  · exact fun holds => ⟨value, after, rfl, holds⟩

end

/-- The step gives a value that satisfies `post`, and changes nothing that matters. -/
def Calm {σ α : Type} [Drawing σ] [Resting σ] (step : Step σ α) (post : α → Prop) : Prop :=
  ∀ state, step.Succeeds state fun value after => Resting.Still state after ∧ post value

/-! ## Rules -/

namespace Calm

variable {σ α β : Type} [Drawing σ] [Resting σ] {step : Step σ α} {post : α → Prop}

theorem pure {value : α} (holds : post value) : Calm (pure value : Step σ α) post :=
  fun state => ⟨Resting.refl state, holds⟩

theorem bind {next : α → Step σ β} {final : β → Prop} (first : Calm step post)
    (second : ∀ value, post value → Calm (next value) final) : Calm (step >>= next) final := by
  intro state
  apply (first state).bind
  intro value after ends
  apply (second value ends.2 after).mono
  exact fun _ last final => ⟨Resting.trans ends.1 final.1, final.2⟩

theorem mono {weaker : α → Prop} (calm : Calm step post) (weaken : ∀ value, post value → weaker value) :
    Calm step weaker :=
  fun state => (calm state).mono fun value _ ends => ⟨ends.1, weaken value ends.2⟩

theorem discard (calm : Calm step post) : Calm (discard step) fun _ => True :=
  fun state => Step.ends_discard.mpr ((calm state).mono fun _ _ ends => ⟨ends.1, trivial⟩)

theorem mapM {list : List α} {make : α → Step σ β} {each : β → Prop}
    (calm : ∀ element ∈ list, Calm (make element) each) :
    Calm (list.mapM make) fun values => ∀ value ∈ values, each value := by
  induction list with
  | nil => exact pure (by simp)
  | cons element rest ih =>
      rw [List.mapM_cons]
      apply bind (calm element (by simp))
      intro value held
      apply bind (ih fun other member => calm other (List.mem_cons_of_mem _ member))
      intro values all
      exact pure (List.forall_mem_cons.mpr ⟨held, all⟩)

end Calm

/-- A step that begins with draws. -/
theorem Step.Succeeds.calm {σ α β : Type} [Drawing σ] [Resting σ] {step : Step σ α}
    {next : α → Step σ β} {state : σ} {post : α → Prop} {ok : β → σ → Prop} (calm : Calm step post)
    (second : ∀ value after, Resting.Still state after → post value → (next value).Succeeds after ok) :
    (step >>= next).Succeeds state ok :=
  (calm state).bind fun value after ends => second value after ends.1 ends.2

/-! ## Draws -/

section

variable {σ α : Type} [Drawing σ] [Resting σ] {post : α → Prop}

theorem calm_draw {action : StateM Random.Source α} (holds : ∀ source, post (action source).1) :
    Calm (Step.draw action : Step σ α) post :=
  fun state => ⟨Resting.withStream _ state, holds (Drawing.stream state).source⟩

/-- A drawn value is below the bound, or 0 where nothing is. -/
theorem calm_below (bound : Int) :
    Calm (Step.below bound : Step σ Nat) fun value => (value : Int) < max 1 bound := by
  intro state
  -- A draw gives a value, so that what holds if there is one holds anyway.
  exact (idle_below bound state : Step.Ends (Step.below bound) state _ _)

theorem calm_coin (percent : Int) : Calm (Step.coin percent : Step σ Bool) fun _ => True :=
  calm_draw fun _ => trivial

theorem calm_belowLimit (bound : Int) (limit : Nat) :
    Calm (Step.belowLimit bound limit : Step σ Bool) fun _ => True :=
  (calm_below bound).bind fun _ _ => .pure trivial

theorem calm_oneIn (bound : Int) : Calm (Step.oneIn bound : Step σ Bool) fun _ => True :=
  calm_belowLimit bound 1

theorem calm_decideIf {isOpen : Bool} {decision : Step σ Bool} (calm : Calm decision fun _ => True) :
    Calm (Step.decideIf isOpen decision) fun decided => decided = true → isOpen = true := by
  unfold Step.decideIf
  split
  · rename_i isOpen
    exact calm.mono fun _ _ _ => isOpen
  · exact .pure nofun

theorem calm_element {list : List α} {index : Nat} (bound : index < list.length) :
    Calm (Step.element list index : Step σ α) (· ∈ list) := by
  rw [Step.element_eq_pure (List.getElem?_eq_getElem bound)]
  exact .pure (List.getElem_mem bound)

theorem calm_choose {list : List α} (inhabited : list ≠ []) :
    Calm (Step.choose list : Step σ α) (· ∈ list) := by
  have positive : 0 < list.length := List.length_pos_iff.mpr inhabited
  apply (calm_below _).bind
  intro value below
  exact calm_element (by omega)

theorem calm_drawQualifier (inUse : Bool) (percent : Nat) :
    Calm (drawQualifier inUse percent : Step σ Bool) fun drawn => drawn = true → inUse = true :=
  calm_decideIf (calm_belowLimit 100 percent)

theorem calm_drawQualifiers (settings : Settings) :
    Calm (drawQualifiers settings : Step σ (Bool × Bool)) fun drawn =>
      (drawn.1 = true → settings.consts = true) ∧ (drawn.2 = true → settings.volatiles = true) := by
  unfold drawQualifiers
  apply (calm_drawQualifier _ _).bind
  intro isConst consts
  apply (calm_drawQualifier _ _).bind
  intro isVolatile volatiles
  dsimp only
  split
  · rename_i both
    rw [Bool.and_eq_true] at both
    apply (calm_oneIn 2).bind
    intro spared _
    split
    · exact .pure ⟨nofun, fun _ => volatiles both.2⟩
    · exact .pure ⟨consts, volatiles⟩
  · exact .pure ⟨consts, volatiles⟩

/-- Something is selected wherever there is a candidate. -/
theorem calm_selectPlace (type : CType) (candidates : List Candidate) (forAssignment : Bool) :
    Calm (selectPlace type candidates forAssignment : Step σ (Option Candidate)) fun _ => True := by
  unfold selectPlace
  generalize bestCandidates type (if forAssignment then candidates.filter (·.assignable) else candidates) =
    best
  cases best with
  | nil => exact .pure trivial
  | cons first rest => exact (calm_choose (List.cons_ne_nil first rest)).bind fun _ _ => .pure trivial

end

end RandomC
