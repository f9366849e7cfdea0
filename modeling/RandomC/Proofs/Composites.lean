import RandomC.Proofs.Ledger
import RandomC.Proofs.Sheet

/-!
# Composite types on the sheet

Structs and unions are written on the sheet of a program as they are made.  The sheet keeps a ledger
meanwhile, which in the end holds as many types of each kind as there are layouts.
-/

namespace RandomC

/-- If the step gives a value, the value and the state then satisfy the postcondition. -/
def Step.Gives {σ α : Type} (step : Step σ α) (state : σ) (ok : α → σ → Prop) : Prop :=
  step.Ends state ok fun _ => True

section

variable {σ α β : Type} {step : Step σ α} {next : α → Step σ β} {state : σ}

theorem Step.Gives.bind {middle : α → σ → Prop} {ok : β → σ → Prop} (first : step.Gives state middle)
    (second : ∀ value after, middle value after → (next value).Gives after ok) :
    (step >>= next).Gives state ok :=
  Step.ends_bind.mpr (Step.Ends.mono first second fun _ _ => trivial)

theorem Step.Gives.mono {ok weaker : α → σ → Prop} (gives : step.Gives state ok)
    (weaken : ∀ value after, ok value after → weaker value after) : step.Gives state weaker :=
  Step.Ends.mono gives weaken fun _ _ => trivial

/-- What holds when a value is known to be given. -/
theorem Step.Gives.value {value : α} {after : σ} {ok : α → σ → Prop} (gives : step.Gives state ok)
    (result : step state = (.ok value, after)) : ok value after := by
  simpa [Step.Gives, Step.Ends, result] using gives

/-- A draw comes first. -/
theorem Step.Gives.idle [Drawing σ] [Resting σ] {post : α → Prop} {ok : β → σ → Prop}
    (idle : Idle step post)
    (second : ∀ value after, Resting.Still state after → post value → (next value).Gives after ok) :
    (step >>= next).Gives state ok := by
  have first : step.Gives state fun value after => Resting.Still state after ∧ post value :=
    (idle state).mono (fun _ _ ends => ends) fun _ _ => trivial
  exact first.bind fun value after ends => second value after ends.1 ends.2

end

/-! ## Composite types -/

namespace Composite

instance : Resting State where
  Still before after := after.sheet = before.sheet
  refl _ := rfl
  trans earlier later := later.trans earlier
  withStream _ _ := rfl

variable {settings : Settings} {scalars : List CType} {tally : Tally} {state : State} {prior : Array Field}

/-- The sheet keeps a ledger. -/
def State.Keeps (tally : Tally) (state : State) : Prop := state.sheet.Keeps tally

/-- A draw leaves the sheet as it is. -/
theorem State.Keeps.idle {α β : Type} {step : Step State α} {next : α → Step State β} {post : α → Prop}
    {ok : β → State → Prop} (keeps : state.Keeps tally) (idle : Idle step post)
    (second : ∀ value after, after.Keeps tally → post value → (next value).Gives after ok) :
    (step >>= next).Gives state ok := by
  apply Step.Gives.idle idle
  intro value after still holds
  have same : after.sheet = state.sheet := still
  apply second value after _ holds
  rw [State.Keeps, same]
  exact keeps

/-- Writes an item that declares no name. -/
theorem write_gives {item : Item} (keeps : state.Keeps tally)
    (closed : ∀ before, item.Closed before) (nothing : ∀ kind, item.declares kind = []) :
    (write item).Gives state fun _ after => after.Keeps tally := by
  exact Text.Sheet.Keeps.write keeps 0 (closed _) nothing

theorem writeBlank_gives (keeps : state.Keeps tally) :
    writeBlank.Gives state fun _ after => after.Keeps tally :=
  Text.Sheet.Keeps.blankLine keeps

/-- The ledger does not depend on the level. -/
theorem changeLevel_gives {α : Type}
    {change : Text.Sheet Item → Except Text.LevelError α × Text.Sheet Item}
    (same : ∀ sheet, (change sheet).2.entries = sheet.entries) (keeps : state.Keeps tally) :
    (changeLevel change).Gives state fun _ after => after.Keeps tally := by
  have entries := same state.sheet
  simp only [changeLevel, Step.Gives, Step.ends_bind, Step.ends_get]
  generalize change state.sheet = changed at entries
  rcases changed with ⟨result, level, entered⟩
  obtain rfl : entered = state.sheet.entries := entries
  simp only [Step.ends_modify]
  cases result with
  | ok value => exact ⟨keeps.ledger, keeps.quiet⟩
  | error error => trivial

theorem moveLevel_gives (delta : Int) (keeps : state.Keeps tally) :
    (moveLevel delta).Gives state fun _ after => after.Keeps tally :=
  changeLevel_gives (fun _ => rfl) keeps

theorem restoreLevel_gives (level : Int) (keeps : state.Keeps tally) :
    (restoreLevel level).Gives state fun _ after => after.Keeps tally := by
  apply changeLevel_gives _ keeps
  intro sheet
  unfold Text.Sheet.restore
  split <;> rfl

/-- A qualifier of a field is drawn only where it is in use. -/
theorem idle_qualifiers (settings : Settings) :
    Idle (qualifiers settings) fun drawn =>
      (drawn.1 = true → settings.constStructUnionFields = true) ∧
        (drawn.2 = true → settings.volStructUnionFields = true) := by
  apply (idle_decideIf (idle_coin 30)).bind
  intro isVolatile volatiles
  apply (idle_decideIf (idle_coin 20)).bind
  intro isConst consts
  refine .pure ⟨fun drawn => consts ?_, volatiles⟩
  exact (Bool.and_eq_true _ _ ▸ drawn).1

theorem idle_bitWidth (bound : Int) (prior : Array Field) : Idle (bitWidth bound prior) fun _ => True := by
  unfold bitWidth
  apply (idle_below _).bind
  intro width _
  split
  · split
    · exact .pure trivial
    · exact (idle_below _).bind fun _ _ => .pure trivial
  · exact .pure trivial

/-- A field is made a bit-field only where it is packed or bit-fields are in use. -/
theorem idle_structBits (settings : Settings) (packed : Bool) :
    Idle (structBits settings packed) fun bits =>
      bits = true → packed = true ∨ settings.bitfields = true := by
  unfold structBits
  split
  · rename_i packed
    exact (idle_coin 10).bind fun _ _ => .pure fun _ => .inl packed
  · exact (idle_decideIf (idle_coin 10)).mono fun _ inUse drawn => .inr (inUse drawn)

theorem scalarField_gives (quiet : ∀ type ∈ scalars, names type.name = []) (prior : Array Field)
    (state : State) (keeps : state.Keeps tally) :
    (scalarField settings scalars s!"f{prior.size}" prior).Gives state fun _ after => after.Keeps tally := by
  apply keeps.idle (idle_choose _)
  intro type state keeps member
  apply keeps.idle (idle_qualifiers _)
  intro qualified state keeps _
  have typeQuiet : ∀ other, FieldKind.scalar type = .scalar other → names other.name = [] := by
    intro other same
    cases same
    exact quiet type member
  exact (write_gives keeps (fun _ => Item.closed_field rfl typeQuiet) fun _ => rfl).bind fun _ _ keeps => keeps

theorem bitField_gives (prior : Array Field) (state : State) (keeps : state.Keeps tally) :
    (bitField settings s!"f{prior.size}" prior).Gives state fun _ after => after.Keeps tally := by
  apply keeps.idle (idle_coin 50)
  intro signed state keeps _
  apply keeps.idle (idle_qualifiers _)
  intro qualified state keeps _
  apply keeps.idle (idle_bitWidth _ _)
  intro width state keeps _
  have noScalar : ∀ other, FieldKind.bits signed width = .scalar other → names other.name = [] := by
    intro other same
    cases same
  exact (write_gives keeps (fun _ => Item.closed_field rfl noScalar) fun _ => rfl).bind fun _ _ keeps => keeps

/-- A field of some bits or of a scalar type, as is drawn. -/
theorem field_gives {bits : Step State Bool} {post : Bool → Prop} (quiet : ∀ type ∈ scalars, names type.name = [])
    (idle : Idle bits post) (prior : Array Field) (state : State) (keeps : state.Keeps tally) :
    Step.Gives (do
      if ← bits then bitField settings s!"f{prior.size}" prior
      else scalarField settings scalars s!"f{prior.size}" prior) state fun _ after => after.Keeps tally := by
  apply keeps.idle idle
  intro bits state keeps _
  cases bits with
  | true => exact bitField_gives prior state keeps
  | false => exact scalarField_gives quiet prior state keeps

/-- Some more fields. -/
theorem fields_gives {declare : String → Array Field → Step State (Array Field)}
    (each : ∀ (prior : Array Field) (state : State), state.Keeps tally →
      (declare s!"f{prior.size}" prior).Gives state fun _ after => after.Keeps tally)
    (count : Nat) (keeps : state.Keeps tally) :
    (fields declare count prior).Gives state fun _ after => after.Keeps tally := by
  induction count generalizing prior state with
  | zero => exact keeps
  | succ count ih =>
      apply (each prior state keeps).bind
      exact fun _ _ keeps => ih keeps

/-- Opens a composite type, the next one of its kind. -/
theorem open_gives (kind : CompositeKind) (keeps : state.Keeps tally) :
    (write (.openComposite kind (tally kind.nameKind : Nat))).Gives state fun _ after =>
      after.Keeps (tally.add kind.nameKind 1) := by
  have first : kind.nameKind.first = 0 := by cases kind <;> rfl
  have declares : (Item.openComposite kind (tally kind.nameKind : Nat)).DeclaresOnly kind.nameKind
      (kind.nameKind.name (kind.nameKind.first + tally kind.nameKind)) := by
    intro other
    rw [Item.declares, compositeName_eq, first, Nat.zero_add]
    rfl
  exact Text.Sheet.Keeps.declare keeps 0 (Item.closed_openComposite kind) declares

/-- Closes a composite type. -/
theorem close_gives (keeps : state.Keeps tally) :
    (write .closeComposite).Gives state fun _ after => after.Keeps tally := by
  apply write_gives keeps _ fun _ => rfl
  intro before
  apply Item.closed_of_quiet
  decide

theorem structType_gives (quiet : ∀ type ∈ scalars, names type.name = []) (keeps : state.Keeps tally) :
    (structType settings scalars (tally .struct : Nat)).Gives state fun _ after =>
      after.Keeps (tally.add .struct 1) := by
  have close (members : Array Field) (state : State) (keeps : state.Keeps (tally.add .struct 1)) :
      Step.Gives (do
        write .closeComposite
        writeBlank
        return members) state fun _ after => after.Keeps (tally.add .struct 1) := by
    apply (close_gives keeps).bind
    intro _ state keeps
    exact (writeBlank_gives keeps).bind fun _ _ keeps => keeps
  apply keeps.idle (idle_below _)
  intro count state keeps _
  apply (open_gives .struct keeps).bind
  intro _ state keeps
  apply (moveLevel_gives 1 keeps).bind
  intro level state keeps
  apply keeps.idle (idle_decideIf (idle_coin 50))
  intro packed state keeps _
  apply (fields_gives (field_gives quiet (idle_structBits settings packed)) _ keeps).bind
  intro members state keeps
  apply (restoreLevel_gives level keeps).bind
  intro _ state keeps
  split
  · apply keeps.idle (idle_coin 50).discard
    exact fun _ state keeps _ => close members state keeps
  · exact close members state keeps

theorem unionType_gives (quiet : ∀ type ∈ scalars, names type.name = []) (keeps : state.Keeps tally) :
    (unionType settings scalars (tally .union : Nat)).Gives state fun _ after =>
      after.Keeps (tally.add .union 1) := by
  apply keeps.idle (idle_below _)
  intro count state keeps _
  apply (open_gives .union keeps).bind
  intro _ state keeps
  apply (moveLevel_gives 1 keeps).bind
  intro level state keeps
  apply (fields_gives (field_gives quiet (idle_decideIf (idle_coin 10))) _ keeps).bind
  intro members state keeps
  apply (restoreLevel_gives level keeps).bind
  intro _ state keeps
  apply (close_gives keeps).bind
  intro _ state keeps
  exact (writeBlank_gives keeps).bind fun _ _ keeps => keeps

theorem idle_moreTypes : Idle moreTypes fun _ => True := by
  intro state
  unfold moreTypes
  simp only [Step.ends_bind, Step.ends_get]
  split
  · exact ⟨rfl, trivial⟩
  · exact idle_coin 50 state

/-- Types of one kind, as long as more follow. -/
theorem types_gives (kind : CompositeKind) {declare : Int → Step State (Array Field)}
    (each : ∀ (tally : Tally) (state : State), state.Keeps tally →
      (declare (tally kind.nameKind : Nat)).Gives state fun _ after =>
        after.Keeps (tally.add kind.nameKind 1))
    (left : Nat) (keeps : state.Keeps tally) :
    (types declare left (tally kind.nameKind)).Gives state fun made after =>
      after.Keeps (tally.add kind.nameKind made.length) := by
  induction left generalizing tally state with
  | zero =>
      apply Step.ends_pure.mpr
      simpa using keeps
  | succ left ih =>
      apply keeps.idle idle_moreTypes
      intro follows state keeps _
      cases follows with
      | true =>
          apply (each tally state keeps).bind
          intro members state keeps
          have counted : { state with typeCount := state.typeCount + 1 }.Keeps (tally.add kind.nameKind 1) :=
            keeps
          have rest := ih counted
          rw [Tally.add_self] at rest
          apply Step.ends_bind.mpr
          apply Step.ends_modify.mpr
          apply rest.bind
          intro made state keeps
          apply Step.ends_pure.mpr
          simpa [Nat.add_comm] using keeps
      | false =>
          apply Step.ends_pure.mpr
          simpa using keeps

/-- The types of a kind of which there are none so far. -/
theorem typesIf_gives (kind : CompositeKind) {declare : Int → Step State (Array Field)}
    (each : ∀ (tally : Tally) (state : State), state.Keeps tally →
      (declare (tally kind.nameKind : Nat)).Gives state fun _ after =>
        after.Keeps (tally.add kind.nameKind 1))
    (inUse : Bool) (fieldLimit : Int) (keeps : state.Keeps tally) (none : tally kind.nameKind = 0) :
    (typesIf inUse declare fieldLimit).Gives state fun made after =>
      after.Keeps (tally.add kind.nameKind made.length) := by
  unfold typesIf
  split
  · have made := types_gives kind each (maxTypes fieldLimit) keeps
    rwa [none] at made
  · apply Step.ends_pure.mpr
    simpa using keeps

theorem generate_gives (settings : Settings) (quiet : ∀ type ∈ scalars, names type.name = [])
    (keeps : state.Keeps fun _ => 0) :
    (generate settings scalars).Gives state fun layouts after =>
      after.Keeps ((Tally.add .struct layouts.structs.length fun _ => 0).add
        .union layouts.unions.length) := by
  have heading : ∀ before, (Item.heading "Struct/Union Declarations").Closed before :=
    fun _ => Item.closed_of_quiet (by decide)
  apply (write_gives keeps heading fun _ => rfl).bind
  intro _ state keeps
  apply (typesIf_gives .struct (fun _ _ keeps => structType_gives quiet keeps) _ _ keeps rfl).bind
  intro structs state keeps
  apply (typesIf_gives .union (fun _ _ keeps => unionType_gives quiet keeps) _ _ keeps rfl).bind
  intro unions state keeps
  exact (writeBlank_gives keeps).bind fun _ _ keeps => keeps

end Composite

end RandomC
