import RandomC.Generation.Program
import RandomC.Proofs.Blind

/-!
# The steps before a run are blind

Composite types and the environment are drawn without a look at the source.
-/

namespace RandomC

/-! ## Composite types -/

namespace Composite

theorem blind_write (item : Item) : Blind (write item) := .modify fun _ _ => rfl

theorem blind_writeBlank : Blind writeBlank := .modify fun _ _ => rfl

theorem blind_changeLevel {α : Type}
    (change : Text.Sheet Item → Except Text.LevelError α × Text.Sheet Item) : Blind (changeLevel change) := by
  apply Blind.get fun _ _ => rfl
  intro state
  dsimp only
  rcases change state.sheet with ⟨error | value, sheet⟩
  · exact Blind.bind (.modify fun _ _ => rfl) fun _ => .fail
  · exact Blind.bind (.modify fun _ _ => rfl) fun _ => .pure

theorem blind_moreTypes : Blind moreTypes := by
  apply Blind.get fun _ _ => rfl
  intro state
  split
  · exact .pure
  · exact blind_coin 50

theorem blind_qualifiers (settings : Settings) : Blind (qualifiers settings) := by
  apply (blind_coin 30).decideIf.bind
  intro isVolatile
  apply (blind_coin 20).decideIf.bind
  exact fun _ => .pure

theorem blind_bitWidth (bound : Int) (prior : Array Field) : Blind (bitWidth bound prior) := by
  apply (blind_below _).bind
  intro width
  split
  · split
    · exact .pure
    · exact (blind_below _).bind fun _ => .pure
  · exact .pure

theorem blind_scalarField (settings : Settings) (scalars : List CType) (name : String) (prior : Array Field) :
    Blind (scalarField settings scalars name prior) := by
  apply (blind_choose scalars).bind
  intro type
  apply (blind_qualifiers settings).bind
  intro qualified
  exact (blind_write _).bind fun _ => .pure

theorem blind_bitField (settings : Settings) (name : String) (prior : Array Field) :
    Blind (bitField settings name prior) := by
  apply (blind_coin 50).bind
  intro signed
  apply (blind_qualifiers settings).bind
  intro qualified
  apply (blind_bitWidth _ prior).bind
  intro width
  exact (blind_write _).bind fun _ => .pure

theorem blind_fields {declare : String → Array Field → Step State (Array Field)}
    (each : ∀ name prior, Blind (declare name prior)) (count : Nat) (prior : Array Field) :
    Blind (fields declare count prior) := by
  induction count generalizing prior with
  | zero => exact .pure
  | succ count ih => exact (each _ _).bind ih

theorem blind_structBits (settings : Settings) (packed : Bool) : Blind (structBits settings packed) := by
  unfold structBits
  split
  · exact (blind_coin 10).bind fun _ => .pure
  · exact (blind_coin 10).decideIf

theorem blind_structType (settings : Settings) (scalars : List CType) (index : Int) :
    Blind (structType settings scalars index) := by
  apply (blind_below _).bind
  intro more
  apply (blind_write _).bind
  intro _
  apply (blind_changeLevel _).bind
  intro level
  apply (blind_coin 50).decideIf.bind
  intro packed
  have members (name : String) (prior : Array Field) : Blind (do
      if ← structBits settings packed then bitField settings name prior
      else scalarField settings scalars name prior) := by
    apply (blind_structBits settings packed).bind
    intro bits
    split
    · exact blind_bitField settings name prior
    · exact blind_scalarField settings scalars name prior
  apply (blind_fields members _ #[]).bind
  intro members
  apply (blind_changeLevel _).bind
  intro _
  have rest : Blind (do
      write .closeComposite
      writeBlank
      return members) :=
    (blind_write _).bind fun _ => blind_writeBlank.bind fun _ => .pure
  split
  · exact (blind_coin 50).discard.bind fun _ => rest
  · exact rest

theorem blind_unionType (settings : Settings) (scalars : List CType) (index : Int) :
    Blind (unionType settings scalars index) := by
  apply (blind_below _).bind
  intro more
  apply (blind_write _).bind
  intro _
  apply (blind_changeLevel _).bind
  intro level
  have members (name : String) (prior : Array Field) : Blind (do
      if ← Step.decideIf settings.bitfields (Step.coin 10) then bitField settings name prior
      else scalarField settings scalars name prior) := by
    apply (blind_coin 10).decideIf.bind
    intro bits
    split
    · exact blind_bitField settings name prior
    · exact blind_scalarField settings scalars name prior
  apply (blind_fields members _ #[]).bind
  intro members
  apply (blind_changeLevel _).bind
  intro _
  apply (blind_write _).bind
  intro _
  exact blind_writeBlank.bind fun _ => .pure

theorem blind_types {declare : Int → Step State (Array Field)} (each : ∀ index, Blind (declare index))
    (left index : Nat) : Blind (types declare left index) := by
  induction left generalizing index with
  | zero => exact .pure
  | succ left ih =>
      apply blind_moreTypes.bind
      intro more
      split
      · apply (each index).bind
        intro members
        apply Blind.bind (.modify fun _ _ => rfl)
        intro _
        exact (ih (index + 1)).bind fun _ => .pure
      · exact .pure

theorem blind_typesIf {declare : Int → Step State (Array Field)} (each : ∀ index, Blind (declare index))
    (inUse : Bool) (fieldLimit : Int) : Blind (typesIf inUse declare fieldLimit) := by
  unfold typesIf
  split
  · exact blind_types each _ 0
  · exact .pure

theorem blind_generate (settings : Settings) (scalars : List CType) : Blind (generate settings scalars) := by
  apply (blind_write _).bind
  intro _
  apply (blind_typesIf (blind_structType settings scalars) _ _).bind
  intro structs
  apply (blind_typesIf (blind_unionType settings scalars) _ _).bind
  intro unions
  exact blind_writeBlank.bind fun _ => .pure

end Composite

/-! ## The environment -/

namespace Environment

theorem blind_write (item : Item) : Blind (write item) := .modify fun _ _ => rfl

theorem blind_change (f : Environment → Environment) : Blind (change f) := .modify fun _ _ => rfl

theorem blind_declare (declaration : Declaration) (f : Environment → Environment) :
    Blind (declare declaration f) :=
  (blind_write _).bind fun _ => blind_change f

theorem blind_freshName : Blind freshName := by
  apply Blind.get fun _ _ => rfl
  exact fun _ => (blind_change _).bind fun _ => .pure

theorem blind_times {action : Step Building Unit} (blind : Blind action) (count : Nat) :
    Blind (times action count) := by
  induction count with
  | zero => exact .pure
  | succ count ih => exact blind.bind fun _ => ih

theorem blind_addScalar (settings : Settings) (scalars : List CType) : Blind (addScalar settings scalars) := by
  apply (blind_drawQualifiers settings).bind
  intro qualified
  apply blind_freshName.bind
  intro name
  apply (blind_choose scalars).bind
  intro type
  apply (Blind.draw draws_initial).bind
  exact fun _ => blind_declare _ _

theorem blind_addScalars (settings : Settings) (scalars : List CType) :
    Blind (addScalars settings scalars) :=
  (blind_below 18).bind fun _ => blind_times (blind_addScalar settings scalars) _

theorem blind_addArray (settings : Settings) (scalars : List CType) : Blind (addArray settings scalars) := by
  apply (blind_below _).bind
  intro more
  apply blind_freshName.bind
  intro name
  apply (blind_choose scalars).bind
  exact fun _ => blind_declare _ _

theorem blind_addArrays (settings : Settings) (scalars : List CType) : Blind (addArrays settings scalars) := by
  apply Blind.get fun _ _ => rfl
  exact fun _ => blind_times (blind_addArray settings scalars) _

theorem blind_addPointer (settings : Settings) (targets : List GlobalVar) :
    Blind (addPointer settings targets) := by
  unfold addPointer
  dsimp only
  apply (blind_below _).bind
  intro chosen
  apply (blind_element targets _).bind
  intro target
  apply blind_freshName.bind
  intro name
  apply (blind_oneIn 3).decideIf.bind
  intro isVolatile
  apply (blind_oneIn 4).decideIf.bind
  intro volatileTarget
  apply (blind_oneIn 3).decideIf.bind
  exact fun _ => blind_declare _ _

theorem blind_addPointers (settings : Settings) : Blind (addPointers settings) := by
  apply Blind.get fun _ _ => rfl
  exact fun _ => blind_times (blind_addPointer settings _) _

theorem blind_addLinks (type : CType) (count stars : Nat) (target : String) :
    Blind (addLinks type count stars target) := by
  induction count generalizing stars target with
  | zero => exact .pure
  | succ count ih =>
      apply blind_freshName.bind
      intro name
      exact (blind_declare _ _).bind fun _ => ih (stars + 1) name

theorem blind_addChain (settings : Settings) : Blind (addChain settings) := by
  apply Blind.get fun _ _ => rfl
  intro state
  dsimp only
  split
  · exact .pure
  · apply (blind_choose _).bind
    intro base
    exact (blind_below _).bind fun _ => blind_addLinks _ _ _ _

theorem blind_addChains (settings : Settings) : Blind (addChains settings) := by
  apply Blind.get fun _ _ => rfl
  exact fun _ => blind_times (blind_addChain settings) _

theorem blind_addComposites (kind : CompositeKind) (count index : Nat) :
    Blind (addComposites kind count index) := by
  induction count generalizing index with
  | zero => exact .pure
  | succ count ih => exact (blind_write _).bind fun _ => ih (index + 1)

theorem blind_onlyIf {action : Step Building Unit} (blind : Blind action) (wanted : Bool) :
    Blind (onlyIf wanted action) := by
  unfold onlyIf
  split
  · exact blind
  · exact .pure

theorem blind_addVariables (settings : Settings) (scalars : List CType) :
    Blind (addVariables settings scalars) := by
  apply (blind_addScalars settings scalars).bind
  intro _
  apply (blind_onlyIf (blind_addArrays settings scalars) _).bind
  intro _
  exact blind_onlyIf ((blind_addPointers settings).bind fun _ => blind_addChains settings) _

theorem blind_build (settings : Settings) (scalars : List CType) (layouts : Layouts) :
    Blind (build settings scalars layouts) := by
  apply (blind_write _).bind
  intro _
  apply (blind_onlyIf (blind_addVariables settings scalars) _).bind
  intro _
  apply (blind_addComposites .struct _ 0).bind
  intro _
  apply (blind_addComposites .union _ 0).bind
  exact fun _ => .modify fun _ _ => rfl

end Environment

theorem blind_buildEnvironment (settings : Settings) (scalars : List CType) (layouts : Layouts) :
    Blind (buildEnvironment settings scalars layouts) :=
  Environment.blind_onlyIf (Environment.blind_build settings scalars layouts) _

end RandomC
