import RandomC.Proofs.Calm
import RandomC.Proofs.Contract

/-!
# How steps fail

There is one way for generation to fail on the way: a draw with a filter is given up after it was redrawn as
often as it may be.  `Step.Safe` says of a step, run from a given state, that it fails in no other way.  A
step that is not built from others by chance but makes the same draws anywhere is `Secure`: safe in every
state.
-/

namespace RandomC

/-- A draw was given up after the last redraw. -/
def Failure.Exhausted (failure : Failure) : Prop :=
  ∃ bound, failure = .noneAccepted bound Random.maxRedraws

section

variable {σ α β : Type}

/-- Run from the state, the step fails only if a draw is given up. -/
def Step.Safe (step : Step σ α) (state : σ) : Prop :=
  ∀ failure, (step state).1 = .error failure → failure.Exhausted

/-- The step is safe wherever it is run. -/
def Secure (step : Step σ α) : Prop := ∀ state, step.Safe state

theorem Step.Safe.bind {step : Step σ α} {next : α → Step σ β} {state : σ} (first : step.Safe state)
    (second : ∀ value after, step state = (.ok value, after) → (next value).Safe after) :
    (step >>= next).Safe state := by
  revert first second
  simp only [Step.Safe, Step.bind_apply]
  rcases step state with ⟨failure | value, after⟩
  · rintro safe - _ ⟨⟩
    exact safe failure rfl
  · exact fun _ second => second value after rfl

theorem Step.Safe.ends {step : Step σ α} {next : α → Step σ β} {state : σ} {ok : α → σ → Prop}
    {failed : σ → Prop} (first : step.Safe state) (ends : step.Ends state ok failed)
    (second : ∀ value after, ok value after → (next value).Safe after) : (step >>= next).Safe state :=
  first.bind fun value after same => second value after (by simpa only [Step.Ends, same] using ends)

/-! ## Rules -/

namespace Secure

variable {step : Step σ α}

theorem pure {value : α} : Secure (pure value : Step σ α) := fun _ => nofun

theorem get : Secure (get : Step σ σ) := fun _ => nofun

theorem modify {change : σ → σ} : Secure (modify change : Step σ Unit) := fun _ => nofun

theorem bind {next : α → Step σ β} (first : Secure step) (second : ∀ value, Secure (next value)) :
    Secure (step >>= next) :=
  fun state => (first state).bind fun value after _ => second value after

theorem map {image : α → β} (secure : Secure step) : Secure (image <$> step) := by
  rw [map_eq_pure_bind]
  exact secure.bind fun _ => .pure

theorem discard (secure : Secure step) : Secure (discard step) := secure.map

theorem mapM {list : List α} {make : α → Step σ β} (secure : ∀ element, Secure (make element)) :
    Secure (list.mapM make) := by
  induction list with
  | nil => exact .pure
  | cons element rest ih =>
      rw [List.mapM_cons]
      apply (secure element).bind
      intro value
      exact ih.bind fun _ => .pure

end Secure

/-- A step that gives a value fails in no way. -/
theorem Step.Succeeds.safe {step : Step σ α} {state : σ} {ok : α → σ → Prop}
    (succeeds : step.Succeeds state ok) : step.Safe state := by
  obtain ⟨value, after, same, -⟩ := succeeds.exists
  intro failure failed
  rw [same] at failed
  cases failed

theorem Calm.secure [Drawing σ] [Resting σ] {step : Step σ α} {post : α → Prop} (calm : Calm step post) :
    Secure step :=
  fun state => (calm state).safe

end

/-! ## Draws with a filter -/

/-- Where the value is still rejected after the redraws, all of them were made. -/
theorem redraw_rejected {reject : Nat → Bool} {left raw tries : Nat} {source : Random.Source}
    (rejected : reject (Random.Source.redraw reject left raw tries source).1.1) :
    (Random.Source.redraw reject left raw tries source).1.2 = tries + left := by
  induction left generalizing raw tries source with
  | zero => rfl
  | succ left ih =>
      rw [Random.Source.redraw] at rejected ⊢
      cases first : reject raw with
      | true =>
          simp only [first, if_true, draw_bind] at rejected ⊢
          exact (ih rejected).trans (by omega)
      | false =>
          simp [first] at rejected

theorem secure_belowUnless {σ : Type} [Drawing σ] (bound : Int) (reject : Nat → Bool) :
    Secure (Step.belowUnless bound reject : Step σ Nat) := by
  have drawn (source : Random.Source) (tries : Nat)
      (given : (Random.Source.belowUnless bound reject source).1 = .error tries) :
      tries = Random.maxRedraws := by
    simp only [Random.Source.belowUnless] at given
    split at given
    · cases given
    · simp only [draw_bind] at given
      split at given
      · rename_i rejected
        cases given
        simpa using @redraw_rejected (fun raw => reject (raw % bound.toNat)) _ _ _ _ rejected
      · cases given
  intro state failure failed
  simp only [Step.belowUnless, Step.bind_apply, Step.draw, Random.Stream.draw] at failed
  have drawn := drawn (Drawing.stream state).source
  generalize Random.Source.belowUnless bound reject (Drawing.stream state).source = outcome at drawn failed
  rcases outcome with ⟨tries | value, source⟩
  · cases failed
    exact ⟨bound, by rw [drawn tries rfl]⟩
  · cases failed

/-! ## Steps of a run -/

theorem secure_draw {σ α : Type} [Drawing σ] (action : StateM Random.Source α) :
    Secure (Step.draw action : Step σ α) :=
  fun _ => nofun

theorem secure_report (event : Event) : Secure (Gen.report event) := .modify

section

variable {setup : Setup}

theorem secure_createGlobal (type : CType) (forAssignment : Bool) :
    Secure (createGlobal setup type forAssignment) := by
  have fresh : Secure Gen.freshGlobal := fun _ => nofun
  apply fresh.bind
  intro name
  apply (calm_drawQualifiers setup.settings).secure.bind
  intro qualifiers
  apply (secure_draw _).bind
  exact fun _ _ => nofun

theorem secure_createZeroGlobal (type : CType) : Secure (createZeroGlobal type) := fun _ => nofun

theorem secure_drawParams {scalars : List CType} (inhabited : scalars ≠ []) (limit : Int) :
    Secure (drawParams scalars limit) := by
  have fresh : Secure Gen.freshParam := fun _ => nofun
  have param (_ : Nat) : Secure (do
      let name ← Gen.freshParam
      return (⟨name, ← Step.choose scalars⟩ : Variable)) := by
    apply fresh.bind
    intro name
    exact (calm_choose inhabited).secure.bind fun _ => .pure
  unfold drawParams
  split
  · exact (calm_below (limit + 1)).secure.bind fun _ => Secure.mapM param
  · exact Secure.mapM param

theorem calm_chooseType (type : CType) :
    Calm (setup.layouts.chooseType setup.scalars type : Gen CType) fun _ => True := by
  unfold Layouts.chooseType
  dsimp only
  split
  · exact .pure trivial
  · apply (calm_below _).bind
    intro number bound
    unfold Layouts.typeAt
    dsimp only
    split
    · rename_i isScalar
      exact (calm_element (by omega)).mono fun _ _ => trivial
    · split <;> exact .pure trivial

theorem secure_createFunction (inhabited : setup.scalars ≠ []) (type : CType) :
    Secure (createFunction setup (some type)) := by
  apply Secure.get.bind
  intro world
  dsimp only
  split
  · exact .pure
  · apply (secure_drawParams inhabited setup.settings.maxParams).bind
    exact fun _ _ => nofun

theorem secure_addEntry : Secure (addEntry setup) := by
  have signature : Secure (drawSignature setup entryNumber) := by
    simp only [drawSignature, ne_eq, not_true, if_false]
    apply (calm_chooseType .uint32).secure.bind
    intro result
    apply (calm_coin _).discard.secure.bind
    intro _
    exact (calm_coin _).discard.secure.bind fun _ => .pure
  exact signature.bind fun _ _ => nofun

theorem secure_drawBand (settings : Settings) : Secure (drawBand settings) := by
  apply (calm_below 100).secure.bind
  intro value
  split
  · exact .pure
  · generalize (if settings.globalVariables then 65 else 50) = share
    split <;> exact .pure

theorem secure_indirectCandidates : Secure (indirectCandidates setup) := by
  have element (v : ArrayVar) :
      Secure (do return ⟨.element v.name (← Step.below v.length), v.type, true⟩ : Gen Candidate) :=
    (calm_below v.length).secure.bind fun _ => .pure
  exact (Secure.mapM element).bind fun _ => .pure

theorem secure_scopedCandidates (scope : Scope) (band : Band) :
    Secure (scopedCandidates setup scope band) := by
  apply Secure.get.bind
  intro world
  cases band with
  | globals => exact secure_indirectCandidates.bind fun _ => .pure
  | locals => exact secure_indirectCandidates.bind fun _ => .pure
  | params => exact .pure
  | fresh => exact secure_indirectCandidates

theorem secure_orAllCandidates (scope : Scope) (candidates : List Candidate) :
    Secure (orAllCandidates setup scope candidates) := by
  unfold orAllCandidates
  split
  · apply Secure.get.bind
    intro world
    exact secure_indirectCandidates.bind fun _ => .pure
  · exact .pure

theorem secure_chooseTerm (settings : Settings) (entries : List (Term × Int)) (barred : Term → Bool) :
    Secure (chooseTerm settings entries barred) := by
  unfold chooseTerm
  split
  · unfold chooseAllowed
    split
    · exact .pure
    · exact (secure_belowUnless _ _).bind fun _ => .pure
  · exact (calm_below _).secure.bind fun _ => .pure

theorem secure_spendTerms (settings : Settings) (count : Int) : Secure (spendTerms settings count) := by
  unfold spendTerms
  split
  · exact .pure
  · exact .modify

theorem secure_termsExhausted (settings : Settings) : Secure (termsExhausted settings) :=
  Secure.get.bind fun _ => .pure

end

namespace Site

variable {site : Site} {type : CType}

theorem secure_constant : Secure (site.constant type) := (secure_draw _).bind fun _ => .pure

theorem calm_beforeLocals : Calm site.beforeLocals fun _ => True := by
  unfold beforeLocals
  split
  · exact (calm_below 1).discard
  · exact .pure trivial

theorem calm_beforeAssignment : Calm site.beforeAssignment fun _ => True := by
  unfold beforeAssignment
  split
  · exact (calm_coin 50).discard.bind fun _ _ => (calm_below 120).discard
  · exact .pure trivial

theorem calm_beforeComplement : Calm beforeComplement fun _ => True :=
  (calm_coin 50).discard.bind fun _ _ => (calm_below 4).discard

theorem calm_beforeXor : Calm site.beforeXor fun _ => True := by
  apply (calm_coin _).discard.bind
  intro _ _
  apply (calm_below 18).discard.bind
  intro _ _
  apply (calm_coin 50).discard.bind
  intro _ _
  exact (calm_coin 50).discard.bind fun _ _ => (calm_below 4).discard

theorem calm_reuseCallee : Calm site.reuseCallee fun _ => True := by
  unfold reuseCallee
  split
  · apply (calm_coin 50).bind
    intro reuse _
    exact (calm_coin _).discard.bind fun _ _ => .pure trivial
  · exact calm_oneIn 2

theorem secure_parentLocal : Secure (site.parentLocal type) := by
  have localType : Secure (site.localType type) := by
    unfold Site.localType
    dsimp only
    split
    · rename_i wanted
      have inhabited : site.setup.scalars ≠ [] := by simp_all
      have positive : 0 < site.setup.scalars.length := List.length_pos_iff.mpr inhabited
      apply (calm_below 14).secure.bind
      intro value
      exact (calm_element (Nat.mod_lt value positive)).secure
    · exact .pure
  have coins : Calm (([50, 10, 20, 50, 50] : List Int).mapM fun percent =>
      (Step.coin percent : Gen Bool)) fun values => ∀ value ∈ values, True :=
    Calm.mapM fun percent _ => calm_coin percent
  have properties : Calm drawProperties fun _ => True :=
    coins.discard.bind fun _ _ => (calm_below 20).discard
  unfold parentLocal
  split
  · exact .pure
  · apply localType.bind
    intro chosen
    apply properties.secure.bind
    intro _
    exact (secure_createZeroGlobal chosen).bind fun _ => .pure

theorem secure_newPlace (band : Band) : Secure (site.newPlace type band) := by
  cases band with
  | fresh => exact (secure_createGlobal type false).map
  | locals => exact calm_beforeLocals.secure.bind fun _ => .pure
  | globals => exact .pure
  | params => exact .pure

theorem secure_missingPlace (candidates : List Candidate) (band : Band) :
    Secure (site.missingPlace type candidates band) := by
  unfold missingPlace
  split
  · exact .pure
  · cases band with
    | globals => exact (secure_createGlobal type false).map
    | locals => exact secure_parentLocal
    | params => exact .pure
    | fresh => exact .pure

/-- Whatever place is found or created, reading it cannot fail. -/
theorem secure_readTerm : Secure (site.readTerm type) := by
  apply (secure_drawBand _).bind
  intro band
  apply (secure_newPlace band).bind
  intro created
  cases created with
  | some candidate => exact .pure
  | none =>
      apply (secure_scopedCandidates _ band).bind
      intro candidates
      apply (secure_missingPlace candidates band).bind
      intro created
      cases created with
      | some candidate => exact .pure
      | none =>
          apply (secure_orAllCandidates _ candidates).bind
          intro candidates
          exact (calm_selectPlace type candidates false).secure.bind fun _ => .pure

theorem secure_chargeStatement : Secure chargeStatement := fun _ => nofun

theorem secure_fillBlock : Secure fillBlock := fun _ => nofun

theorem secure_chooseKind (depth : Int) (inLoop : Bool) : Secure (site.chooseKind depth inLoop) :=
  (secure_belowUnless _ _).bind fun _ => .pure

end Site

end RandomC
