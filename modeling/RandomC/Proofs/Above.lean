import RandomC.Proofs.Layouts
import RandomC.Proofs.Contents

/-!
# What stands above

The header is written before anything else, and nothing that follows looks at it.  So a run that starts below
another header makes the same program below that header.  `Commutes` says of a step that it does the same in a
changed state; the change here is to put a text above everything on the sheet.
-/

namespace RandomC

/-- The sheet with a text above all that is written on it. -/
def Text.Sheet.below {α : Type} (text : String) (sheet : Text.Sheet α) : Text.Sheet α :=
  { sheet with entries := #[.raw text] ++ sheet.entries }

section

variable {α : Type} {above : String} {sheet : Text.Sheet α}

@[simp] theorem Text.Sheet.write_below {offset : Int} {content : α} :
    (sheet.below above).write offset content = (sheet.write offset content).below above := by
  simp [Text.Sheet.below, Text.Sheet.write, Array.push_append]

@[simp] theorem Text.Sheet.blankLine_below : (sheet.below above).blankLine = sheet.blankLine.below above := by
  simp [Text.Sheet.below, Text.Sheet.blankLine, Array.push_append]

@[simp] theorem Text.Sheet.shift_below {delta : Int} :
    (sheet.below above).shift delta = ((sheet.shift delta).1, (sheet.shift delta).2.below above) := rfl

@[simp] theorem Text.Sheet.restore_below {level : Int} :
    (sheet.below above).restore level = ((sheet.restore level).1, (sheet.restore level).2.below above) := by
  unfold Text.Sheet.restore
  split <;> rfl

theorem Text.Sheet.text_below {layout : Int → α → String} :
    (sheet.below above).text layout = above ++ sheet.text layout := by
  simp [Text.Sheet.below, Text.Sheet.text, Text.Entry.text]

end

/-! ## Changed states -/

/-- In a changed state, the step does the same and leads to the changed state. -/
def Commutes {σ α : Type} (change : σ → σ) (step : Step σ α) : Prop :=
  ∀ state, step (change state) = ((step state).1, change (step state).2)

/-- The change is one of a part that has nothing to do with the stream. -/
structure Aloof {σ : Type} [Drawing σ] (change : σ → σ) : Prop where
  stream (state : σ) : Drawing.stream (change state) = Drawing.stream state
  withStream (stream : Random.Stream) (state : σ) :
    Drawing.withStream stream (change state) = change (Drawing.withStream stream state)

namespace Commutes

variable {σ α β : Type} {change : σ → σ} {step : Step σ α}

theorem pure {value : α} : Commutes change (pure value : Step σ α) := fun _ => rfl

theorem fail {failure : Failure} : Commutes change (throw failure : Step σ α) := fun _ => rfl

theorem bind {next : α → Step σ β} (first : Commutes change step)
    (rest : ∀ value, Commutes change (next value)) : Commutes change (step >>= next) := by
  intro state
  rw [Step.bind_apply, Step.bind_apply, first state]
  rcases step state with ⟨failure | value, after⟩
  · rfl
  · exact rest value after

theorem discard (commutes : Commutes change step) : Commutes change (discard step) := by
  have same : Functor.discard step = step >>= fun _ => Pure.pure () := map_eq_pure_bind (fun _ => ()) step
  rw [same]
  exact commutes.bind fun _ => .pure

/-- What follows does not look at what is changed. -/
theorem get {next : σ → Step σ α} (unseen : ∀ state, next (change state) = next state)
    (each : ∀ state, Commutes change (next state)) : Commutes change (MonadState.get >>= next) := by
  intro state
  simp only [Step.bind_apply, Step.get_apply, unseen]
  exact each state state

theorem modify {action : σ → σ} (same : ∀ state, action (change state) = change (action state)) :
    Commutes change (modify action : Step σ Unit) := fun state => congrArg (Prod.mk _) (same state)

theorem decideIf {decision : Step σ Bool} {isOpen : Bool} (commutes : Commutes change decision) :
    Commutes change (Step.decideIf isOpen decision) := by
  unfold Step.decideIf
  split
  · exact commutes
  · exact .pure

theorem element (list : List α) (index : Int) : Commutes change (Step.element list index : Step σ α) := by
  unfold Step.element
  dsimp only
  split
  · exact .pure
  · exact .fail

end Commutes

namespace Aloof

variable {σ α : Type} [Drawing σ] {change : σ → σ} (aloof : Aloof change)

include aloof

theorem draw (action : StateM Random.Source α) : Commutes change (Step.draw action : Step σ α) := by
  intro state
  simp only [Step.draw, aloof.stream, aloof.withStream]

theorem below (bound : Int) : Commutes change (Step.below bound : Step σ Nat) := aloof.draw _

theorem coin (percent : Int) : Commutes change (Step.coin percent : Step σ Bool) := aloof.draw _

theorem belowLimit (bound : Int) (limit : Nat) : Commutes change (Step.belowLimit bound limit : Step σ Bool) :=
  (aloof.below bound).bind fun _ => .pure

theorem oneIn (bound : Int) : Commutes change (Step.oneIn bound : Step σ Bool) := aloof.belowLimit bound 1

theorem choose (list : List α) : Commutes change (Step.choose list : Step σ α) :=
  (aloof.below _).bind fun value => .element list value

theorem drawQualifiers (settings : Settings) : Commutes change (drawQualifiers settings : Step σ (Bool × Bool)) := by
  unfold RandomC.drawQualifiers
  apply (aloof.belowLimit _ _).decideIf.bind
  intro isConst
  apply (aloof.belowLimit _ _).decideIf.bind
  intro isVolatile
  split
  · apply (aloof.oneIn 2).bind
    intro spared
    split <;> exact .pure
  · exact .pure

end Aloof

/-! ## Composite types -/

namespace Composite

/-- The state with a text above all that is written on the sheet. -/
def State.below (above : String) (state : State) : State := { state with sheet := state.sheet.below above }

variable {above : String} {settings : Settings} {scalars : List CType}

theorem aloof_below : Aloof (State.below above) := ⟨fun _ => rfl, fun _ _ => rfl⟩

theorem write_below (item : Item) : Commutes (State.below above) (write item) :=
  .modify fun state => by simp [State.below]

theorem writeBlank_below : Commutes (State.below above) writeBlank := .modify fun state => by simp [State.below]

theorem changeLevel_below {α : Type} {change : Text.Sheet Item → Except Text.LevelError α × Text.Sheet Item}
    (same : ∀ sheet, change (sheet.below above) = ((change sheet).1, (change sheet).2.below above)) :
    Commutes (State.below above) (changeLevel change) := by
  intro state
  have changed : change (State.below above state).sheet = _ := same state.sheet
  simp only [changeLevel, Step.bind_apply, Step.get_apply, changed]
  rcases (change state.sheet).1 with error | value <;> rfl

theorem moreTypes_below : Commutes (State.below above) moreTypes := by
  refine .get (fun _ => rfl) ?_
  intro state
  split
  · exact .pure
  · exact aloof_below.coin 50

theorem qualifiers_below : Commutes (State.below above) (qualifiers settings) := by
  apply (aloof_below.coin 30).decideIf.bind
  intro isVolatile
  apply (aloof_below.coin 20).decideIf.bind
  exact fun _ => .pure

theorem bitWidth_below {bound : Int} {prior : Array Field} : Commutes (State.below above) (bitWidth bound prior) := by
  apply (aloof_below.below _).bind
  intro width
  split
  · split
    · exact .pure
    · exact (aloof_below.below _).bind fun _ => .pure
  · exact .pure

theorem scalarField_below {name : String} {prior : Array Field} :
    Commutes (State.below above) (scalarField settings scalars name prior) := by
  apply (aloof_below.choose scalars).bind
  intro type
  apply qualifiers_below.bind
  intro qualified
  exact (write_below _).bind fun _ => .pure

theorem bitField_below {name : String} {prior : Array Field} :
    Commutes (State.below above) (bitField settings name prior) := by
  apply (aloof_below.coin 50).bind
  intro signed
  apply qualifiers_below.bind
  intro qualified
  apply bitWidth_below.bind
  intro width
  exact (write_below _).bind fun _ => .pure

/-- A field that is drawn as bits or as a scalar. -/
theorem field_below {bits : Step State Bool} (decision : Commutes (State.below above) bits) (name : String)
    (prior : Array Field) : Commutes (State.below above) (do
      if ← bits then bitField settings name prior else scalarField settings scalars name prior) := by
  apply decision.bind
  intro drawn
  split
  · exact bitField_below
  · exact scalarField_below

theorem fields_below {declare : String → Array Field → Step State (Array Field)}
    (each : ∀ name prior, Commutes (State.below above) (declare name prior)) (count : Nat) (prior : Array Field) :
    Commutes (State.below above) (fields declare count prior) := by
  induction count generalizing prior with
  | zero => exact .pure
  | succ count ih => exact (each _ _).bind ih

theorem structBits_below {packed : Bool} : Commutes (State.below above) (structBits settings packed) := by
  unfold structBits
  split
  · exact (aloof_below.coin 10).bind fun _ => .pure
  · exact (aloof_below.coin 10).decideIf

/-- The end of a composite type. -/
theorem close_below (members : Array Field) : Commutes (State.below above) (do
    write .closeComposite
    writeBlank
    return members) :=
  (write_below _).bind fun _ => writeBlank_below.bind fun _ => .pure

theorem structType_below (index : Int) : Commutes (State.below above) (structType settings scalars index) := by
  apply (aloof_below.below _).bind
  intro more
  apply (write_below _).bind
  intro _
  apply (changeLevel_below fun _ => Text.Sheet.shift_below).bind
  intro level
  apply (aloof_below.coin 50).decideIf.bind
  intro packed
  apply (fields_below (field_below structBits_below) _ #[]).bind
  intro members
  apply (changeLevel_below fun _ => Text.Sheet.restore_below).bind
  intro _
  split
  · exact (aloof_below.coin 50).discard.bind fun _ => close_below members
  · exact close_below members

theorem unionType_below (index : Int) : Commutes (State.below above) (unionType settings scalars index) := by
  apply (aloof_below.below _).bind
  intro more
  apply (write_below _).bind
  intro _
  apply (changeLevel_below fun _ => Text.Sheet.shift_below).bind
  intro level
  apply (fields_below (field_below (aloof_below.coin 10).decideIf) _ #[]).bind
  intro members
  apply (changeLevel_below fun _ => Text.Sheet.restore_below).bind
  exact fun _ => close_below members

theorem types_below {declare : Int → Step State (Array Field)}
    (each : ∀ index, Commutes (State.below above) (declare index)) (left index : Nat) :
    Commutes (State.below above) (types declare left index) := by
  induction left generalizing index with
  | zero => exact .pure
  | succ left ih =>
      apply moreTypes_below.bind
      intro more
      split
      · apply (each index).bind
        intro members
        exact .bind (.modify fun _ => rfl) fun _ => (ih (index + 1)).bind fun _ => .pure
      · exact .pure

theorem typesIf_below {declare : Int → Step State (Array Field)}
    (each : ∀ index, Commutes (State.below above) (declare index)) (inUse : Bool) (fieldLimit : Int) :
    Commutes (State.below above) (typesIf inUse declare fieldLimit) := by
  unfold typesIf
  split
  · exact types_below each _ 0
  · exact .pure

theorem generate_below : Commutes (State.below above) (generate settings scalars) := by
  apply (write_below _).bind
  intro _
  apply (typesIf_below structType_below _ _).bind
  intro structs
  apply (typesIf_below unionType_below _ _).bind
  intro unions
  exact writeBlank_below.bind fun _ => .pure

end Composite

/-! ## The environment -/

namespace Environment

/-- The state with a text above all that is written on the sheet. -/
def Building.below (above : String) (state : Building) : Building :=
  { state with sheet := state.sheet.below above }

variable {above : String} {settings : Settings} {scalars : List CType}

theorem aloof_below : Aloof (Building.below above) := ⟨fun _ => rfl, fun _ _ => rfl⟩

theorem declare_below (declaration : Declaration) (f : Environment → Environment) :
    Commutes (Building.below above) (declare declaration f) :=
  .bind (.modify fun state => by simp [Building.below]) fun _ => .modify fun _ => rfl

theorem freshName_below : Commutes (Building.below above) freshName := by
  refine .get (fun _ => rfl) ?_
  exact fun _ => .bind (.modify fun _ => rfl) fun _ => .pure

theorem times_below {action : Step Building Unit} (commutes : Commutes (Building.below above) action)
    (count : Nat) : Commutes (Building.below above) (times action count) := by
  induction count with
  | zero => exact .pure
  | succ count ih => exact commutes.bind fun _ => ih

theorem onlyIf_below {action : Step Building Unit} (commutes : Commutes (Building.below above) action)
    (wanted : Bool) : Commutes (Building.below above) (onlyIf wanted action) := by
  unfold onlyIf
  split
  · exact commutes
  · exact .pure

theorem addScalars_below : Commutes (Building.below above) (addScalars settings scalars) := by
  have one : Commutes (Building.below above) (addScalar settings scalars) := by
    apply (aloof_below.drawQualifiers settings).bind
    intro qualified
    apply freshName_below.bind
    intro name
    apply (aloof_below.choose scalars).bind
    intro type
    exact (aloof_below.draw _).bind fun _ => declare_below _ _
  exact (aloof_below.below 18).bind fun _ => times_below one _

theorem addArrays_below : Commutes (Building.below above) (addArrays settings scalars) := by
  have one : Commutes (Building.below above) (addArray settings scalars) := by
    apply (aloof_below.below _).bind
    intro more
    apply freshName_below.bind
    intro name
    exact (aloof_below.choose scalars).bind fun _ => declare_below _ _
  refine .get (fun _ => rfl) ?_
  exact fun _ => times_below one _

theorem addPointers_below : Commutes (Building.below above) (addPointers settings) := by
  have one (targets : List GlobalVar) : Commutes (Building.below above) (addPointer settings targets) := by
    apply (aloof_below.below _).bind
    intro chosen
    apply (Commutes.element targets _).bind
    intro target
    apply freshName_below.bind
    intro name
    apply (aloof_below.oneIn 3).decideIf.bind
    intro isVolatile
    apply (aloof_below.oneIn 4).decideIf.bind
    intro volatileTarget
    exact (aloof_below.oneIn 3).decideIf.bind fun _ => declare_below _ _
  refine .get (fun _ => rfl) ?_
  exact fun _ => times_below (one _) _

theorem addLinks_below (type : CType) (count stars : Nat) (target : String) :
    Commutes (Building.below above) (addLinks type count stars target) := by
  induction count generalizing stars target with
  | zero => exact .pure
  | succ count ih =>
      apply freshName_below.bind
      intro name
      exact (declare_below _ _).bind fun _ => ih (stars + 1) name

theorem addChains_below : Commutes (Building.below above) (addChains settings) := by
  have one : Commutes (Building.below above) (addChain settings) := by
    refine .get (fun _ => rfl) ?_
    intro state
    dsimp only
    split
    · exact .pure
    · apply (aloof_below.choose _).bind
      intro base
      exact (aloof_below.below _).bind fun _ => addLinks_below _ _ _ _
  refine .get (fun _ => rfl) ?_
  exact fun _ => times_below one _

theorem addComposites_below (kind : CompositeKind) (count index : Nat) :
    Commutes (Building.below above) (addComposites kind count index) := by
  induction count generalizing index with
  | zero => exact .pure
  | succ count ih => exact .bind (.modify fun state => by simp [Building.below]) fun _ => ih (index + 1)

theorem build_below (layouts : Layouts) : Commutes (Building.below above) (build settings scalars layouts) := by
  have added : Commutes (Building.below above) (addVariables settings scalars) := by
    apply addScalars_below.bind
    intro _
    apply (onlyIf_below addArrays_below _).bind
    intro _
    exact onlyIf_below (addPointers_below.bind fun _ => addChains_below) _
  refine .bind (.modify fun state => by simp [Building.below]) fun _ => ?_
  apply (onlyIf_below added _).bind
  intro _
  apply (addComposites_below .struct _ 0).bind
  intro _
  apply (addComposites_below .union _ 0).bind
  exact fun _ => .modify fun state => by simp [Building.below]

end Environment

/-! ## Programs -/

section

variable {above : String} {sheet : Text.Sheet Item}

theorem writeEach_below {α : Type} (item : α → Item) (list : List α) :
    writeEach item list (sheet.below above) = (writeEach item list sheet).below above := by
  unfold writeEach
  induction list generalizing sheet with
  | nil => rfl
  | cons element rest ih => simp only [List.foldl_cons, Text.Sheet.write_below, ih]

theorem Flow.write_below (flow : Flow) : flow.write (sheet.below above) = (flow.write sheet).below above := by
  have definitions (list : List Definition) (sheet : Text.Sheet Item) :
      list.foldl (fun sheet definition => (sheet.write 0 (.define definition)).blankLine) (sheet.below above) =
        (list.foldl (fun sheet definition => (sheet.write 0 (.define definition)).blankLine) sheet).below above := by
    induction list generalizing sheet with
    | nil => rfl
    | cons definition rest ih => simp only [List.foldl_cons, Text.Sheet.write_below, Text.Sheet.blankLine_below, ih]
  have globals : flow.writeGlobals (sheet.below above) = (flow.writeGlobals sheet).below above := by
    unfold Flow.writeGlobals
    split
    · rfl
    · simp only [writeEach_below, Text.Sheet.blankLine_below]
  simp only [Flow.write, Flow.writePrototypes, Flow.writeDefinitions, globals, writeEach_below, definitions,
    Text.Sheet.write_below, Text.Sheet.blankLine_below]

theorem writeEnd_below {settings : Settings} {globals : List GlobalVar} {arrays : List ArrayVar}
    {functions : List Signature} : writeEnd settings globals arrays functions (sheet.below above) =
      (writeEnd settings globals arrays functions sheet).below above := by
  have hashed : writeHash settings globals arrays (sheet.below above) =
      (writeHash settings globals arrays sheet).below above := by
    unfold writeHash
    split
    · simp only [Text.Sheet.write_below, Text.Sheet.blankLine_below]
    · rfl
  unfold writeEnd
  rw [hashed]
  unfold writeMain
  split
  · split
    · rfl
    · exact Text.Sheet.write_below
  · rfl

end

/-- The program with a text above all that is written on its sheet. -/
def Program.below (above : String) (program : Program) : Program :=
  { program with sheet := program.sheet.below above }

theorem Program.text_below {above : String} {program : Program} :
    (program.below above).text = above ++ program.text := Text.Sheet.text_below

theorem finish_below {above : String} {setup : Setup} {flow : Flow} {sheet : Text.Sheet Item} :
    finish setup flow (sheet.below above) = (finish setup flow sheet).below above := by
  simp only [finish, Flow.write_below, writeEnd_below, Program.below]

end RandomC
