import RandomC.Proofs.Calm
import RandomC.Proofs.Variables

/-!
# What is declared

The composite types and the environment are made without fail, and on the way nothing is declared that the
environment does not list: its scalars, arrays and pointers are exactly those that were declared, in order,
and every array has two elements at least.  The sheet is back at the margin afterwards.
-/

namespace RandomC

/-! ## Declared variables -/

/-- The declaration that an item is. -/
def Item.declaration? : Item → Option Declaration
  | .declare declaration => some declaration
  | _ => none

/-- The item is a function, be it announced or defined. -/
def Item.isFunction : Item → Bool
  | .forward _ | .define _ | .hash .. | .main .. => true
  | _ => false

/-- The declarations among the items, in order. -/
def declarations (items : List Item) : List Declaration := items.filterMap Item.declaration?

/-- The functions among the items, in order. -/
def functionItems (items : List Item) : List Item := items.filter Item.isFunction

/-- The scalar that is declared. -/
def Declaration.global? : Declaration → Option GlobalVar
  | .global v _ => some v
  | _ => none

/-- The array that is declared. -/
def Declaration.array? : Declaration → Option ArrayVar
  | .array v => some v
  | _ => none

/-- The pointer to a scalar that is declared. -/
def Declaration.pointer? : Declaration → Option PointerVar
  | .pointer v => some v
  | _ => none

/-- The sheets are at the same level, and hold the same declarations and functions. -/
structure Text.Sheet.Resembles (before after : Text.Sheet Item) : Prop where
  level : after.level = before.level
  declarations : declarations after.contents = declarations before.contents
  functions : functionItems after.contents = functionItems before.contents

section

variable {first middle last sheet : Text.Sheet Item}

theorem Text.Sheet.Resembles.refl (sheet : Text.Sheet Item) : sheet.Resembles sheet := ⟨rfl, rfl, rfl⟩

theorem Text.Sheet.Resembles.trans (earlier : first.Resembles middle) (later : middle.Resembles last) :
    first.Resembles last where
  level := later.level.trans earlier.level
  declarations := later.declarations.trans earlier.declarations
  functions := later.functions.trans earlier.functions

theorem Text.Sheet.resembles_write {item : Item} (undeclared : item.declaration? = none)
    (noFunction : item.isFunction = false) : sheet.Resembles (sheet.write 0 item) where
  level := rfl
  declarations := by simp [RandomC.declarations, undeclared]
  functions := by simp [functionItems, noFunction]

theorem Text.Sheet.resembles_blankLine : sheet.Resembles sheet.blankLine where
  level := rfl
  declarations := by simp
  functions := by simp

end

/-! ## Composite types -/

namespace Composite

/-- The step succeeds and leaves level, declarations and functions as they are. -/
def Modest {α : Type} (step : Step State α) : Prop :=
  ∀ state, 0 ≤ state.sheet.level → step.Succeeds state fun _ after => state.sheet.Resembles after.sheet

section

variable {α β : Type} {settings : Settings} {scalars : List CType}

theorem Modest.pure {value : α} : Modest (pure value) := fun state _ => .refl state.sheet

theorem Modest.bind {step : Step State α} {next : α → Step State β} (first : Modest step)
    (second : ∀ value, Modest (next value)) : Modest (step >>= next) := by
  intro state inside
  apply (first state inside).bind
  intro value middle earlier
  apply (second value middle (earlier.level ▸ inside)).mono
  exact fun _ _ later => earlier.trans later

theorem Modest.calm {step : Step State α} {next : α → Step State β} {post : α → Prop}
    (calm : Calm step post) (second : ∀ value, Modest (next value)) : Modest (step >>= next) := by
  apply Modest.bind _ second
  intro state _
  apply (calm state).mono
  rintro _ after ⟨still, -⟩
  exact (show after.sheet = state.sheet from still) ▸ .refl _

theorem modest_write {item : Item} (undeclared : item.declaration? = none)
    (noFunction : item.isFunction = false) : Modest (write item) :=
  fun _ _ => Text.Sheet.resembles_write undeclared noFunction

theorem modest_writeBlank : Modest writeBlank := fun _ _ => Text.Sheet.resembles_blankLine

theorem calm_qualifiers (settings : Settings) : Calm (qualifiers settings) fun _ => True := by
  apply (calm_decideIf (calm_coin 30)).bind
  intro isVolatile _
  exact (calm_decideIf (calm_coin 20)).bind fun _ _ => .pure trivial

theorem calm_bitWidth (bound : Int) (prior : Array Field) : Calm (bitWidth bound prior) fun _ => True := by
  unfold bitWidth
  apply (calm_below _).bind
  intro width _
  split
  · split
    · exact .pure trivial
    · exact (calm_below _).bind fun _ _ => .pure trivial
  · exact .pure trivial

theorem calm_structBits (settings : Settings) (packed : Bool) :
    Calm (structBits settings packed) fun _ => True := by
  unfold structBits
  split
  · exact (calm_coin 10).bind fun _ _ => .pure trivial
  · exact (calm_decideIf (calm_coin 10)).mono fun _ _ => trivial

theorem modest_scalarField (inhabited : scalars ≠ []) (name : String) (prior : Array Field) :
    Modest (scalarField settings scalars name prior) := by
  apply Modest.calm (calm_choose inhabited)
  intro type
  apply Modest.calm (calm_qualifiers _)
  rintro ⟨isConst, isVolatile⟩
  exact (modest_write rfl rfl).bind fun _ => .pure

theorem modest_bitField (name : String) (prior : Array Field) : Modest (bitField settings name prior) := by
  apply Modest.calm (calm_coin 50)
  intro signed
  apply Modest.calm (calm_qualifiers _)
  rintro ⟨isConst, isVolatile⟩
  apply Modest.calm (calm_bitWidth _ _)
  intro width
  exact (modest_write rfl rfl).bind fun _ => .pure

theorem modest_fields {declare : String → Array Field → Step State (Array Field)}
    (each : ∀ name prior, Modest (declare name prior)) (count : Nat) (prior : Array Field) :
    Modest (fields declare count prior) := by
  induction count generalizing prior with
  | zero => exact .pure
  | succ count ih => exact (each _ prior).bind ih

/-- What is done one level further right, between two changes of the level. -/
theorem modest_indented {γ : Type} {drawn : Step State α} {inside : α → Step State β}
    {outside : β → Step State γ} {post : α → Prop} (calm : Calm drawn post)
    (body : ∀ value, Modest (inside value)) (rest : ∀ value, Modest (outside value)) :
    Modest (do
      let level ← moveLevel 1
      let value ← drawn
      let made ← inside value
      restoreLevel level
      outside made) := by
  intro state margin
  have right : ¬ state.sheet.level + 1 < 0 := by omega
  have moved : (moveLevel 1).Succeeds state fun level after =>
      level = state.sheet.level ∧
        ({ state.sheet with level := state.sheet.level + 1 } : Text.Sheet Item).Resembles after.sheet := by
    simp only [moveLevel, changeLevel, Text.Sheet.shift, Step.Succeeds, Step.ends_bind, Step.ends_get,
      Step.ends_modify, right, if_false, Step.ends_pure]
    exact ⟨trivial, .refl _⟩
  apply moved.bind
  rintro level shifted ⟨rfl, resembles⟩
  rw [← bind_assoc]
  apply (Modest.calm calm body shifted (by rw [resembles.level]; exact Int.not_lt.mp right)).bind
  intro made after later
  have resembles := resembles.trans later
  have left : ¬ state.sheet.level < 0 := by omega
  have restored : (restoreLevel state.sheet.level).Succeeds after fun _ back =>
      state.sheet.Resembles back.sheet := by
    simp only [restoreLevel, changeLevel, Text.Sheet.restore, Step.Succeeds, Step.ends_bind, Step.ends_get,
      left, if_false, Step.ends_modify, Step.ends_pure]
    exact ⟨rfl, resembles.declarations, resembles.functions⟩
  apply restored.bind
  intro _ back resembles
  apply (rest made back (resembles.level ▸ margin)).mono
  exact fun _ _ later => resembles.trans later

theorem modest_structType (inhabited : scalars ≠ []) (index : Int) :
    Modest (structType settings scalars index) := by
  have close (members : Array Field) : Modest (do
      write .closeComposite
      writeBlank
      return members) :=
    (modest_write rfl rfl).bind fun _ => modest_writeBlank.bind fun _ => .pure
  apply Modest.calm (calm_below _)
  intro count
  apply (modest_write rfl rfl).bind
  intro _
  apply modest_indented (calm_decideIf (calm_coin 50))
  · intro packed
    apply modest_fields
    intro name prior
    apply Modest.calm (calm_structBits settings packed)
    intro bits
    cases bits with
    | true => exact modest_bitField name prior
    | false => exact modest_scalarField inhabited name prior
  · intro members
    dsimp only
    split
    · exact Modest.calm (calm_coin 50).discard fun _ => close members
    · exact close members

theorem modest_unionType (inhabited : scalars ≠ []) (index : Int) :
    Modest (unionType settings scalars index) := by
  have body (count : Nat) : Modest (fields (fun name prior => do
      if ← Step.decideIf settings.bitfields (Step.coin 10) then bitField settings name prior
      else scalarField settings scalars name prior) count #[]) := by
    apply modest_fields
    intro name prior
    apply Modest.calm (calm_decideIf (calm_coin 10))
    intro bits
    cases bits with
    | true => exact modest_bitField name prior
    | false => exact modest_scalarField inhabited name prior
  have none : Calm (pure () : Step State Unit) fun _ => True := .pure trivial
  apply Modest.calm (calm_below _)
  intro count
  apply (modest_write rfl rfl).bind
  intro _
  apply modest_indented none fun _ => body _
  intro members
  exact (modest_write rfl rfl).bind fun _ => modest_writeBlank.bind fun _ => .pure

theorem modest_types {declare : Int → Step State (Array Field)} (each : ∀ index, Modest (declare index))
    (left index : Nat) : Modest (types declare left index) := by
  have more : Modest moreTypes := by
    intro state _
    unfold moreTypes
    apply Step.ends_bind.mpr
    apply Step.ends_get.mpr
    split
    · exact .refl _
    · apply ((calm_coin 50 : Calm (Step.coin 50 : Step State Bool) _) state).mono
      rintro _ after ⟨still, -⟩
      exact (show after.sheet = state.sheet from still) ▸ .refl _
  induction left generalizing index with
  | zero => exact .pure
  | succ left ih =>
      apply more.bind
      intro follows
      cases follows with
      | true =>
          apply (each index).bind
          intro members
          have counted : Modest (modify fun state => { state with typeCount := state.typeCount + 1 }) :=
            fun state _ => .refl state.sheet
          apply counted.bind
          intro _
          exact (ih (index + 1)).bind fun _ => .pure
      | false => exact .pure

theorem modest_typesIf {declare : Int → Step State (Array Field)} (each : ∀ index, Modest (declare index))
    (inUse : Bool) (fieldLimit : Int) : Modest (typesIf inUse declare fieldLimit) := by
  unfold typesIf
  split
  · exact modest_types each _ _
  · exact .pure

/-- Composite types are declared without fail. -/
theorem modest_generate (settings : Settings) (inhabited : scalars ≠ []) :
    Modest (generate settings scalars) := by
  apply (modest_write rfl rfl).bind
  intro _
  apply (modest_typesIf (fun _ => modest_structType inhabited _) _ _).bind
  intro structs
  apply (modest_typesIf (fun _ => modest_unionType inhabited _) _ _).bind
  intro unions
  exact modest_writeBlank.bind fun _ => .pure

end

end Composite

/-! ## The environment -/

namespace Environment

/-- On the sheet, which is at the margin, nothing is declared but what the environment lists. -/
structure Building.Lists (state : Building) : Prop where
  margin : state.sheet.level = 0
  noFunctions : functionItems state.sheet.contents = []
  globals : (declarations state.sheet.contents).filterMap Declaration.global? = state.env.globals
  arrays : (declarations state.sheet.contents).filterMap Declaration.array? = state.env.arrays
  pointers : (declarations state.sheet.contents).filterMap Declaration.pointer? = state.env.pointers
  lengths : ∀ v ∈ state.env.arrays, 2 ≤ v.length

/-- The step succeeds and declares what it lists, among which are so many scalars at least. -/
def Adds {α : Type} (count : Nat) (step : Step Building α) : Prop :=
  ∀ state, state.Lists → step.Succeeds state fun _ after =>
    after.Lists ∧ state.env.globals.length + count ≤ after.env.globals.length

section

variable {α β : Type} {count more : Nat} {settings : Settings} {scalars : List CType}

theorem Adds.pure {value : α} : Adds 0 (pure value) := fun _ lists => ⟨lists, Nat.le_refl _⟩

theorem Adds.bind {step : Step Building α} {next : α → Step Building β} (first : Adds count step)
    (second : ∀ value, Adds more (next value)) : Adds (count + more) (step >>= next) := by
  intro state lists
  apply (first state lists).bind
  rintro value middle ⟨lists, earlier⟩
  apply (second value middle lists).mono
  rintro _ after ⟨lists, later⟩
  exact ⟨lists, by omega⟩

/-- A step that need not add any scalar comes first. -/
theorem Adds.next {step : Step Building α} {next : α → Step Building β} (first : Adds 0 step)
    (second : ∀ value, Adds count (next value)) : Adds count (step >>= next) :=
  Nat.zero_add count ▸ first.bind second

theorem Adds.mono {step : Step Building α} (adds : Adds count step) (less : more ≤ count) :
    Adds more step := by
  intro state lists
  apply (adds state lists).mono
  rintro _ after ⟨lists, added⟩
  exact ⟨lists, by omega⟩

theorem Adds.calm {step : Step Building α} {next : α → Step Building β} {post : α → Prop}
    (calm : Calm step post) (second : ∀ value, post value → Adds count (next value)) :
    Adds count (step >>= next) := by
  intro state lists
  apply Step.Succeeds.calm calm
  rintro value ⟨source, sheet, env⟩ ⟨rfl, rfl⟩ holds
  exact second value holds ⟨source, state.sheet, state.env⟩
    ⟨lists.margin, lists.noFunctions, lists.globals, lists.arrays, lists.pointers, lists.lengths⟩

theorem Adds.times {step : Step Building Unit} (adds : Adds count step) (rounds : Nat) :
    Adds (rounds * count) (times step rounds) := by
  induction rounds with
  | zero =>
      rw [Nat.zero_mul]
      exact .pure
  | succ rounds ih =>
      rw [Nat.succ_mul, Nat.add_comm]
      exact adds.bind fun _ => ih

theorem Adds.onlyIf {step : Step Building Unit} (adds : Adds 0 step) (wanted : Bool) :
    Adds 0 (onlyIf wanted step) := by
  cases wanted with
  | true => exact adds
  | false => exact .pure

/-- What is written besides declarations. -/
theorem adds_write {item : Item} (undeclared : item.declaration? = none)
    (noFunction : item.isFunction = false) : Adds 0 (write item) := by
  intro state lists
  have resembles : state.sheet.Resembles (state.sheet.write 0 item) :=
    Text.Sheet.resembles_write undeclared noFunction
  refine ⟨⟨lists.margin, ?_, ?_, ?_, ?_, lists.lengths⟩, Nat.le_refl _⟩
  · rw [resembles.functions, lists.noFunctions]
  · rw [resembles.declarations, lists.globals]
  · rw [resembles.declarations, lists.arrays]
  · rw [resembles.declarations, lists.pointers]

theorem adds_freshName : Adds 0 freshName :=
  fun _ lists => ⟨⟨lists.margin, lists.noFunctions, lists.globals, lists.arrays, lists.pointers,
    lists.lengths⟩, Nat.le_refl _⟩

/-- What is declared goes into the list of its kind. -/
theorem adds_declare {declaration : Declaration} {f : Environment → Environment}
    (globals : ∀ env, (f env).globals = env.globals ++ declaration.global?.toList)
    (arrays : ∀ env, (f env).arrays = env.arrays ++ declaration.array?.toList)
    (pointers : ∀ env, (f env).pointers = env.pointers ++ declaration.pointer?.toList)
    (long : ∀ v, declaration.array? = some v → 2 ≤ v.length) :
    Adds declaration.global?.toList.length (declare declaration f) := by
  intro state lists
  have written : declarations (state.sheet.write 0 (.declare declaration)).contents =
      declarations state.sheet.contents ++ [declaration] := by simp [declarations, Item.declaration?]
  have single {γ : Type} (kind : Declaration → Option γ) :
      [declaration].filterMap kind = (kind declaration).toList := by
    simp [List.filterMap_eq_flatMap_toList]
  simp only [declare, write, change, Step.Succeeds, Step.ends_bind, Step.ends_modify]
  refine ⟨⟨lists.margin, ?_, ?_, ?_, ?_, ?_⟩, ?_⟩
  · simpa [functionItems, Item.isFunction] using lists.noFunctions
  · rw [written, List.filterMap_append, lists.globals, globals, single]
  · rw [written, List.filterMap_append, lists.arrays, arrays, single]
  · rw [written, List.filterMap_append, lists.pointers, pointers, single]
  · intro v member
    rw [arrays, List.mem_append, Option.mem_toList] at member
    exact member.elim (lists.lengths v) (long v)
  · rw [globals, List.length_append]

theorem calm_drawInitial : Calm (Step.draw Literal.drawInitial : Step Building Literal) fun _ => True :=
  calm_draw fun _ => trivial

/-- One more scalar. -/
theorem adds_addScalar (inhabited : scalars ≠ []) : Adds 1 (addScalar settings scalars) := by
  apply Adds.calm (calm_drawQualifiers settings)
  rintro ⟨isConst, isVolatile⟩ _
  apply adds_freshName.next
  intro name
  apply Adds.calm (calm_choose inhabited)
  intro type _
  apply Adds.calm calm_drawInitial
  intro initial _
  exact adds_declare (fun _ => rfl) (fun _ => (List.append_nil _).symm)
    (fun _ => (List.append_nil _).symm) nofun

/-- There are two scalars at least. -/
theorem adds_addScalars (inhabited : scalars ≠ []) : Adds 2 (addScalars settings scalars) := by
  apply Adds.calm (calm_below 18)
  intro wanted _
  apply ((adds_addScalar inhabited).times _).mono
  omega

theorem adds_addArray (inhabited : scalars ≠ []) : Adds 0 (addArray settings scalars) := by
  apply Adds.calm (calm_below _)
  intro length _
  apply adds_freshName.next
  intro name
  apply Adds.calm (calm_choose inhabited)
  intro type _
  apply adds_declare (fun _ => (List.append_nil _).symm) (fun _ => rfl)
    fun _ => (List.append_nil _).symm
  rintro _ ⟨⟩
  dsimp only
  omega

/-- Of the scalars that a pointer may point to, one is spared at most. -/
theorem spared_le {targets : List GlobalVar} :
    (if settings.consts && decide (targets.length > 1) then 1 else 0) ≤ 1 := by
  split <;> omega

/-- The index that is drawn for the target of a pointer stays within the scalars. -/
theorem calm_target {targets : List GlobalVar} {first chosen : Nat} (two : 2 ≤ targets.length)
    (spared : first ≤ 1) (below : (chosen : Int) < max 1 (targets.length - first : Int)) :
    Calm (Step.element targets (first + chosen : Int) : Step Building GlobalVar) (· ∈ targets) := by
  rw [← Int.natCast_add]
  exact calm_element (by omega)

theorem adds_addPointer {targets : List GlobalVar} (two : 2 ≤ targets.length) :
    Adds 0 (addPointer settings targets) := by
  unfold addPointer
  apply Adds.calm (calm_below _)
  intro chosen below
  apply Adds.calm (calm_target two spared_le (by omega))
  intro target _
  apply adds_freshName.next
  intro name
  apply Adds.calm (calm_decideIf (calm_oneIn 3))
  intro isVolatile _
  apply Adds.calm (calm_decideIf (calm_oneIn 4))
  intro volatileTarget _
  apply Adds.calm (calm_decideIf (calm_oneIn 3))
  intro constTarget _
  exact adds_declare (fun _ => (List.append_nil _).symm) (fun _ => (List.append_nil _).symm)
    (fun _ => rfl) nofun

theorem adds_addLinks (type : CType) (count stars : Nat) (target : String) :
    Adds 0 (addLinks type count stars target) := by
  induction count generalizing stars target with
  | zero => exact .pure
  | succ count ih =>
      apply adds_freshName.next
      intro name
      have declared : Adds 0 (declare (.link type stars name target) fun env =>
          { env with chains := env.chains ++ [name] }) :=
        adds_declare (fun _ => (List.append_nil _).symm) (fun _ => (List.append_nil _).symm)
          (fun _ => (List.append_nil _).symm) nofun
      exact declared.next fun _ => ih (stars + 1) name

theorem adds_addChain : Adds 0 (addChain settings) := by
  intro state lists
  apply Step.ends_bind.mpr
  apply Step.ends_get.mpr
  dsimp only
  split
  · exact ⟨lists, Nat.le_refl _⟩
  · rename_i some
    have inhabited : state.env.pointers.filter (! ·.qualified) ≠ [] := by
      intro none
      rw [none] at some
      exact some rfl
    have chain : Adds 0 (do
        let base ← Step.choose (state.env.pointers.filter (! ·.qualified))
        let extra ← Step.below (max 1 (min settings.maxPointerDepth 4 - 1))
        addLinks base.targetType (1 + extra) 2 base.name) := by
      apply Adds.calm (calm_choose inhabited)
      intro base _
      apply Adds.calm (calm_below _)
      exact fun extra _ => adds_addLinks _ _ _ _
    exact chain state lists

theorem adds_addComposites (kind : CompositeKind) (count index : Nat) :
    Adds 0 (addComposites kind count index) := by
  have silent (index : Nat) : Adds 0 (write (.declare (.composite kind index))) := by
    have declared : Adds 0 (declare (.composite kind index) id) :=
      adds_declare (fun _ => (List.append_nil _).symm) (fun _ => (List.append_nil _).symm)
        (fun _ => (List.append_nil _).symm) nofun
    exact fun state lists => declared state lists
  induction count generalizing index with
  | zero => exact .pure
  | succ count ih => exact (silent index).next fun _ => ih (index + 1)

theorem adds_addVariables (inhabited : scalars ≠ []) : Adds 2 (addVariables settings scalars) := by
  have arrays : Adds 0 (addArrays settings scalars) := fun state lists => by
    apply Step.ends_bind.mpr
    apply Step.ends_get.mpr
    exact ((adds_addArray inhabited).times _).mono (Nat.zero_le _) state lists
  have chains : Adds 0 (addChains settings) := fun state lists => by
    apply Step.ends_bind.mpr
    apply Step.ends_get.mpr
    exact (adds_addChain.times _).mono (Nat.zero_le _) state lists
  intro state lists
  -- Pointers have something to point to, for the scalars come first.
  apply (adds_addScalars inhabited state lists).bind
  rintro _ state ⟨lists, scalars⟩
  apply (arrays.onlyIf settings.arrays state lists).bind
  rintro _ state ⟨lists, kept⟩
  unfold onlyIf
  split
  · have pointers : (addPointers settings).Succeeds state fun _ after =>
        after.Lists ∧ state.env.globals.length ≤ after.env.globals.length := by
      apply Step.ends_bind.mpr
      apply Step.ends_get.mpr
      exact ((adds_addPointer (by omega)).times _).mono (Nat.zero_le _) state lists
    apply pointers.bind
    rintro _ state ⟨lists, more⟩
    apply (chains state lists).mono
    rintro _ after ⟨lists, last⟩
    exact ⟨lists, by omega⟩
  · exact ⟨lists, by omega⟩

/-- The environment is built without fail. -/
theorem adds_build {layouts : Layouts} (inhabited : scalars ≠ []) :
    Adds 0 (build settings scalars layouts) := by
  have blank : Adds 0 (modify fun state => { state with sheet := state.sheet.blankLine } :
      Step Building Unit) := by
    intro state lists
    have resembles : state.sheet.Resembles state.sheet.blankLine := Text.Sheet.resembles_blankLine
    refine ⟨⟨lists.margin, ?_, ?_, ?_, ?_, lists.lengths⟩, Nat.le_refl _⟩
    · rw [resembles.functions, lists.noFunctions]
    · rw [resembles.declarations, lists.globals]
    · rw [resembles.declarations, lists.arrays]
    · rw [resembles.declarations, lists.pointers]
  have numbered : Adds 0 (addVariables settings scalars) :=
    (adds_addVariables inhabited).mono (Nat.zero_le _)
  apply (adds_write rfl rfl).next
  intro _
  apply (numbered.onlyIf _).next
  intro _
  apply (adds_addComposites .struct _ 0).next
  intro _
  exact (adds_addComposites .union _ 0).next fun _ => blank

end

end Environment

end RandomC
