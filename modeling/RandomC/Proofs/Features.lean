import RandomC.Proofs.BodyText
import RandomC.Proofs.Ladders
import RandomC.Settings.Prepare

/-!
# Features that are switched off

Settings switch off constructs of C one by one.  Whether a construct may be used is decided in several places:
where terms are weighted, where variables and fields are declared, where qualifiers are drawn, and before
generation, where settings are prepared.  What is switched off does not occur in any item of a program.
-/

namespace RandomC

/-! ## Features -/

/-- What is in a program only where the settings have switched it on. -/
inductive Feature where
  | embeddedAssign
  | comma
  | pointer
  | array
  | composite (kind : CompositeKind)
  | bitField
  | constGlobal
  | volatileGlobal
  | constField
  | volatileField
  deriving DecidableEq, Repr

/-- The settings have switched the feature on. -/
def Feature.enabled (settings : Settings) : Feature → Bool
  | embeddedAssign => settings.embeddedAssigns
  | comma => settings.commaOperators
  | pointer => settings.pointers
  | array => settings.arrays
  | composite .struct => settings.structs
  | composite .union => settings.unions
  | bitField => settings.bitfields
  | constGlobal => settings.consts
  | volatileGlobal => settings.volatiles
  | constField => settings.constStructUnionFields
  | volatileField => settings.volStructUnionFields

/-- The features of a place: a pointer is dereferenced or an array is indexed. -/
def Place.features : Place → List Feature
  | .named _ => []
  | .target _ => [.pointer]
  | .element .. | .masked .. => [.array]

mutual

/-- The features of an expression. -/
def Expr.features : Expr → List Feature
  | .literal .. => []
  | .read _ place => place.features
  | .call _ _ arguments => featuresOf arguments
  | .assign _ place value => .embeddedAssign :: place.features ++ value.features
  | .comma _ left right => .comma :: left.features ++ right.features
  | .complement _ operand => operand.features
  | .xor _ left right => left.features ++ right.features

/-- The features of some expressions. -/
def featuresOf : List Expr → List Feature
  | [] => []
  | expr :: rest => expr.features ++ featuresOf rest

end

/-- The features of a condition. -/
def Condition.features : Condition → List Feature
  | .bits _ | .constant _ => []
  | .nonzero value => value.features

mutual

/-- The features of a statement.  An element that is incremented is assigned inside an expression. -/
def Statement.features : Statement → List Feature
  | .assign place _ _ value => place.features ++ value.features
  | .ifElse condition yes no => condition.features ++ (blockFeatures yes ++ blockFeatures no)
  | .loop _ body => blockFeatures body
  | .updateElement _ _ _ value increment =>
      .array :: (if increment.isSome then [.embeddedAssign] else []) ++ value.features
  | .leave _ | .nextRound | .leaveLoop | .filler => []

/-- The features of the statements of a block. -/
def blockFeatures : List Statement → List Feature
  | [] => []
  | statement :: rest => statement.features ++ blockFeatures rest

end

/-- The features of a definition. -/
def Definition.features (definition : Definition) : List Feature :=
  blockFeatures definition.body ++
    (match definition.mix with
      | some (_, expr) => expr.features
      | none => [])

/-- The features of a field. -/
def Field.features (field : Field) : List Feature :=
  (if field.isConst then [.constField] else []) ++ (if field.isVolatile then [.volatileField] else []) ++
    (match field.kind with
      | .scalar _ => []
      | .bits .. => [.bitField])

/-- The features of a declaration. -/
def Declaration.features : Declaration → List Feature
  | .global v _ =>
      (if v.isConst then [.constGlobal] else []) ++ (if v.isVolatile then [.volatileGlobal] else [])
  | .array _ => [.array]
  | .pointer _ | .link .. => [.pointer]
  | .composite kind _ => [.composite kind]

/-- The features of an item.  Where globals are hashed, every array is indexed. -/
def Item.features : Item → List Feature
  | .openComposite kind _ => [.composite kind]
  | .field f => f.features
  | .declare declaration => declaration.features
  | .define definition => definition.features
  | .hash _ arrays => arrays.map fun _ => .array
  | .heading _ | .rule | .closeComposite | .forward _ | .main .. => []

theorem mem_featuresOf {feature : Feature} {exprs : List Expr} :
    feature ∈ featuresOf exprs ↔ ∃ expr ∈ exprs, feature ∈ expr.features := by
  induction exprs with
  | nil => simp [featuresOf]
  | cons expr rest ih => simp [featuresOf, ih]

theorem mem_blockFeatures {feature : Feature} {block : Block} :
    feature ∈ blockFeatures block ↔ ∃ statement ∈ block, feature ∈ statement.features := by
  induction block with
  | nil => simp [blockFeatures]
  | cons statement rest ih => simp [blockFeatures, ih]

/-- The settings have switched all of the features on. -/
def Settings.Enables (settings : Settings) (features : List Feature) : Prop :=
  ∀ feature ∈ features, feature.enabled settings = true

section

variable {settings : Settings} {feature : Feature} {first second : List Feature}

theorem Settings.enables_nil : settings.Enables [] := nofun

theorem Settings.Enables.cons (enabled : feature.enabled settings = true) (rest : settings.Enables first) :
    settings.Enables (feature :: first) := List.forall_mem_cons.mpr ⟨enabled, rest⟩

theorem Settings.Enables.append (former : settings.Enables first) (latter : settings.Enables second) :
    settings.Enables (first ++ second) := List.forall_mem_append.mpr ⟨former, latter⟩

theorem Settings.enables_if {condition : Prop} [Decidable condition]
    (enabled : condition → feature.enabled settings = true) :
    settings.Enables (if condition then [feature] else []) := by
  split
  · rename_i holds
    exact .cons (enabled holds) enables_nil
  · exact enables_nil

end

/-! ## Bodies -/

/-- There are arrays and pointers only where they are switched on. -/
structure Environment.Spares (settings : Settings) (env : Environment) : Prop where
  arrays : env.arrays ≠ [] → settings.arrays = true
  pointers : env.pointers ≠ [] → settings.pointers = true

section

variable {setup : Setup} {caller : Nat} {params : List Variable} {returnLocal : String} {flow : Flow}
variable (spares : setup.env.Spares setup.settings) (aligned : Aligned setup flow)

include spares aligned

theorem Offered.enables {candidate : Candidate} (offered : Offered setup params flow candidate) :
    setup.settings.Enables candidate.place.features := by
  cases offered with
  | global member =>
      obtain ⟨v, -, rfl⟩ := aligned.exists_candidate member
      exact Settings.enables_nil
  | param member => exact Settings.enables_nil
  | target member => exact .cons (spares.pointers (List.ne_nil_of_mem member)) Settings.enables_nil
  | element member => exact .cons (spares.arrays (List.ne_nil_of_mem member)) Settings.enables_nil

/-- Assignments and commas come from the shape, places from what the expression is formed of. -/
theorem Expr.Shaped.enables {whole : Bool} {levels : Nat} {expr : Expr}
    (shaped : expr.Shaped setup.settings whole levels) (formed : expr.Formed setup caller params flow) :
    setup.settings.Enables expr.features := by
  induction shaped with
  | literal => exact Settings.enables_nil
  | read =>
      cases formed with
      | read known offered => exact offered.enables spares aligned
  | call inside ih =>
      cases formed with
      | call known later found types formed =>
          intro feature member
          obtain ⟨argument, present, inArgument⟩ := mem_featuresOf.mp member
          exact ih argument present (formed argument present) feature inArgument
  | assign inUse inside ih =>
      cases formed with
      | assign known offered assignable same formed =>
          exact .cons inUse (.append (offered.enables spares aligned) (ih formed))
  | comma inUse leftInside rightInside left right =>
      cases formed with
      | comma known same leftFormed rightFormed =>
          exact .cons inUse (.append (left leftFormed) (right rightFormed))
  | complement inUse inside ih =>
      cases formed with
      | complement known same formed => exact ih formed
  | xor inUse leftInside rightInside left right =>
      cases formed with
      | xor known leftSame rightSame leftFormed rightFormed =>
          exact .append (left leftFormed) (right rightFormed)

theorem Condition.Shaped.enables {condition : Condition} (shaped : condition.Shaped setup.settings)
    (formed : condition.Formed setup caller params flow) : setup.settings.Enables condition.features := by
  cases shaped with
  | bits => exact Settings.enables_nil
  | constant => exact Settings.enables_nil
  | nonzero whole =>
      cases formed with
      | nonzero same formed => exact whole.enables spares aligned formed

omit spares aligned in
theorem BlockShaped.enables {unlimited : Prop} {depth : Int} {inLoop : Bool} {block : Block}
    (shaped : BlockShaped setup.settings unlimited depth inLoop block)
    (each : ∀ statement ∈ block, ∀ {depth : Int} {inLoop : Bool},
      StatementShaped setup.settings unlimited depth inLoop statement →
        setup.settings.Enables statement.features) :
    setup.settings.Enables (blockFeatures block) := by
  cases shaped with
  | of all most least =>
      intro feature member
      obtain ⟨statement, present, inStatement⟩ := mem_blockFeatures.mp member
      exact each statement present (all statement present) feature inStatement

/-- Induction on how the statement is formed, which is the only thing that is known of the blocks inside. -/
theorem Statement.Formed.enables {unlimited : Prop} {depth : Int} {inLoop : Bool} {statement : Statement}
    (formed : statement.Formed setup caller params returnLocal flow)
    (shaped : StatementShaped setup.settings unlimited depth inLoop statement) :
    setup.settings.Enables statement.features := by
  induction formed generalizing depth inLoop with
  | assign same formed =>
      cases shaped with
      | assign whole => exact whole.enables spares aligned formed
  | ifElse condition _ _ yes no =>
      cases shaped with
      | ifElse deeper conditionShaped yesShaped noShaped =>
          exact .append (conditionShaped.enables spares aligned condition)
            (.append (yesShaped.enables yes) (noShaped.enables no))
  | loop _ ih =>
      cases shaped with
      | loop deeper least most bodyShaped => exact bodyShaped.enables ih
  | updateElement member same formed =>
      cases shaped with
      | updateElement whole inUse =>
          refine .cons (spares.arrays (List.ne_nil_of_mem member)) (.append ?_ ?_)
          · exact Settings.enables_if inUse
          · exact whole.enables spares aligned formed
  | leave => exact Settings.enables_nil
  | nextRound => exact Settings.enables_nil
  | leaveLoop => exact Settings.enables_nil
  | filler => exact Settings.enables_nil

theorem Definition.Formed.enables {unlimited : Prop} {definition : Definition}
    (formed : definition.Formed setup caller flow) (shaped : definition.Shaped setup unlimited) :
    setup.settings.Enables definition.features := by
  apply Settings.Enables.append
  · apply shaped.body.enables
    intro statement member _ _ statementShaped
    exact (formed.body statement member).enables spares aligned statementShaped
  · cases mixed : definition.mix with
    | none => exact Settings.enables_nil
    | some made =>
        obtain ⟨name, expr⟩ := made
        exact (shaped.mix name expr mixed).enables spares aligned (formed.mix name expr mixed).2

end

/-! ## Composite types -/

namespace Composite

/-- Where the settings enable what has been written, they enable what the step writes, if it gives a value. -/
def Enables {α : Type} (settings : Settings) (step : Step State α) : Prop :=
  ∀ state, (∀ item ∈ state.sheet.contents, settings.Enables item.features) →
    step.Gives state fun _ after => ∀ item ∈ after.sheet.contents, settings.Enables item.features

section

variable {α β : Type} {settings : Settings} {scalars : List CType}

theorem Enables.pure {value : α} : Enables settings (pure value) := fun _ enabled => enabled

theorem Enables.bind {step : Step State α} {next : α → Step State β} (first : Enables settings step)
    (second : ∀ value, Enables settings (next value)) : Enables settings (step >>= next) :=
  fun state enabled => (first state enabled).bind fun value after enabled => second value after enabled

/-- Draws write nothing. -/
theorem Enables.idle {step : Step State α} {next : α → Step State β} {post : α → Prop}
    (idle : Idle step post) (second : ∀ value, post value → Enables settings (next value)) :
    Enables settings (step >>= next) := by
  intro state enabled
  apply Step.Gives.idle idle
  intro value after still holds
  have same : after.sheet = state.sheet := still
  exact second value holds after (same ▸ enabled)

theorem enables_write {item : Item} (enables : settings.Enables item.features) :
    Enables settings (write item) := by
  intro state enabled
  simp only [write, Step.Gives, Step.ends_modify, Text.Sheet.contents_write]
  exact List.forall_mem_append.mpr ⟨enabled, List.forall_mem_singleton.mpr enables⟩

theorem enables_writeBlank : Enables settings writeBlank := by
  intro state enabled
  simpa [writeBlank, Step.Gives] using enabled

/-- A change of the level writes nothing. -/
theorem enables_changeLevel {change : Text.Sheet Item → Except Text.LevelError α × Text.Sheet Item}
    (same : ∀ sheet, (change sheet).2.entries = sheet.entries) : Enables settings (changeLevel change) := by
  intro state enabled
  have contents : (change state.sheet).2.contents = state.sheet.contents := by
    rw [Text.Sheet.contents, same, Text.Sheet.contents]
  rw [← contents] at enabled
  simp only [changeLevel, Step.Gives, Step.ends_bind, Step.ends_get, Step.ends_modify]
  cases (change state.sheet).1 with
  | ok value => exact enabled
  | error error => trivial

theorem enables_moveLevel (delta : Int) : Enables settings (moveLevel delta) :=
  enables_changeLevel fun _ => rfl

theorem enables_restoreLevel (level : Int) : Enables settings (restoreLevel level) := by
  apply enables_changeLevel
  intro sheet
  unfold Text.Sheet.restore
  split <;> rfl

/-- A field is enabled with the qualifiers that were drawn for it. -/
theorem enables_scalarField (name : String) (prior : Array Field) :
    Enables settings (scalarField settings scalars name prior) := by
  apply Enables.idle (idle_choose _)
  intro type _
  apply Enables.idle (idle_qualifiers settings)
  rintro ⟨isConst, isVolatile⟩ ⟨consts, volatiles⟩
  refine (enables_write ?_).bind fun _ => .pure
  exact .append (.append (Settings.enables_if consts) (Settings.enables_if volatiles)) Settings.enables_nil

theorem enables_bitField (inUse : settings.bitfields = true) (name : String) (prior : Array Field) :
    Enables settings (bitField settings name prior) := by
  apply Enables.idle (idle_coin 50)
  intro signed _
  apply Enables.idle (idle_qualifiers settings)
  rintro ⟨isConst, isVolatile⟩ ⟨consts, volatiles⟩
  apply Enables.idle (idle_bitWidth _ _)
  intro width _
  refine (enables_write ?_).bind fun _ => .pure
  exact .append (.append (Settings.enables_if consts) (Settings.enables_if volatiles))
    (.cons inUse Settings.enables_nil)

/-- A field that is a bit-field only where they are in use. -/
theorem enables_field {bits : Bool} (inUse : bits = true → settings.bitfields = true) (name : String)
    (prior : Array Field) :
    Enables settings
      (if bits then bitField settings name prior else scalarField settings scalars name prior) := by
  cases bits with
  | true => exact enables_bitField (inUse rfl) name prior
  | false => exact enables_scalarField name prior

theorem enables_fields {declare : String → Array Field → Step State (Array Field)}
    (each : ∀ name prior, Enables settings (declare name prior)) (count : Nat) (prior : Array Field) :
    Enables settings (fields declare count prior) := by
  induction count generalizing prior with
  | zero => exact .pure
  | succ count ih => exact (each _ prior).bind ih

theorem enables_structType (inUse : settings.structs = true) (index : Int) :
    Enables settings (structType settings scalars index) := by
  have close (members : Array Field) : Enables settings (do
      write .closeComposite
      writeBlank
      return members) :=
    (enables_write Settings.enables_nil).bind fun _ => enables_writeBlank.bind fun _ => .pure
  have opens : settings.Enables (Item.openComposite .struct index).features := .cons inUse Settings.enables_nil
  apply Enables.idle (idle_below _)
  intro count _
  apply (enables_write opens).bind
  intro _
  apply (enables_moveLevel 1).bind
  intro level
  apply Enables.idle (idle_decideIf (idle_coin 50))
  intro packed packs
  have field (name : String) (prior : Array Field) : Enables settings (do
      if ← structBits settings packed then bitField settings name prior
      else scalarField settings scalars name prior) := by
    apply Enables.idle (idle_structBits settings packed)
    exact fun bits bitfields => enables_field (fun drawn => (bitfields drawn).elim packs id) name prior
  apply (enables_fields field _ _).bind
  intro members
  apply (enables_restoreLevel level).bind
  intro _
  dsimp only
  split
  · exact Enables.idle (idle_coin 50).discard fun _ _ => close members
  · exact close members

theorem enables_unionType (inUse : settings.unions = true) (index : Int) :
    Enables settings (unionType settings scalars index) := by
  have opens : settings.Enables (Item.openComposite .union index).features := .cons inUse Settings.enables_nil
  apply Enables.idle (idle_below _)
  intro count _
  apply (enables_write opens).bind
  intro _
  apply (enables_moveLevel 1).bind
  intro level
  have field (name : String) (prior : Array Field) : Enables settings (do
      if ← Step.decideIf settings.bitfields (Step.coin 10) then bitField settings name prior
      else scalarField settings scalars name prior) :=
    Enables.idle (idle_decideIf (idle_coin 10)) fun _ bitfields => enables_field bitfields name prior
  apply (enables_fields field _ _).bind
  intro members
  apply (enables_restoreLevel level).bind
  intro _
  exact (enables_write Settings.enables_nil).bind fun _ => enables_writeBlank.bind fun _ => .pure

theorem enables_types {declare : Int → Step State (Array Field)}
    (each : ∀ index, Enables settings (declare index)) (left index : Nat) :
    Enables settings (types declare left index) := by
  have more : Enables settings moreTypes := by
    intro state enabled
    apply Step.ends_bind.mpr
    apply Step.ends_get.mpr
    split
    · exact enabled
    · have decided : Enables settings (Step.coin 50 >>= pure : Step State Bool) :=
        Enables.idle (idle_coin 50) fun _ _ => .pure
      exact bind_pure (Step.coin 50 : Step State Bool) ▸ decided state enabled
  induction left generalizing index with
  | zero => exact .pure
  | succ left ih =>
      apply more.bind
      intro follows
      cases follows with
      | true =>
          apply (each index).bind
          intro members
          have counted : Enables settings (modify fun state : State =>
              { state with typeCount := state.typeCount + 1 }) := fun _ enabled => enabled
          exact counted.bind fun _ => (ih (index + 1)).bind fun _ => .pure
      | false => exact .pure

theorem enables_typesIf {declare : Int → Step State (Array Field)} {inUse : Bool}
    (each : inUse = true → ∀ index, Enables settings (declare index)) (fieldLimit : Int) :
    Enables settings (typesIf inUse declare fieldLimit) := by
  cases inUse with
  | true => exact enables_types (each rfl) _ _
  | false => exact .pure

theorem enables_generate (settings : Settings) (scalars : List CType) :
    Enables settings (generate settings scalars) := by
  apply (enables_write Settings.enables_nil).bind
  intro _
  apply (enables_typesIf (fun inUse _ => enables_structType inUse _) _).bind
  intro structs
  apply (enables_typesIf (fun inUse _ => enables_unionType inUse _) _).bind
  intro unions
  exact enables_writeBlank.bind fun _ => .pure

theorem typesIf_spares (inUse : Bool) (declare : Int → Step State (Array Field)) (fieldLimit : Int)
    (state : State) :
    (typesIf inUse declare fieldLimit).Gives state fun made _ => made ≠ [] → inUse = true := by
  cases inUse with
  | true =>
      simp only [Step.Gives, Step.Ends]
      split
      · exact fun _ => trivial
      · trivial
  | false => exact Step.ends_pure.mpr fun some => absurd rfl some

/-- There are types of a kind only where it is switched on. -/
theorem generate_spares (state : State) :
    (generate settings scalars).Gives state fun layouts _ =>
      (layouts.structs ≠ [] → settings.structs = true) ∧ (layouts.unions ≠ [] → settings.unions = true) := by
  have heading : (write (.heading "Struct/Union Declarations")).Gives state fun _ _ => True := trivial
  apply heading.bind
  intro _ state _
  apply (typesIf_spares _ _ _ state).bind
  intro structs state structsSpare
  apply (typesIf_spares _ _ _ state).bind
  intro unions state unionsSpare
  exact Step.ends_bind.mpr (Step.ends_modify.mpr (Step.ends_pure.mpr ⟨structsSpare, unionsSpare⟩))

end

end Composite

/-! ## The environment -/

namespace Environment

section

variable {settings : Settings} {scalars : List CType} {layouts : Layouts} {plan : Plan}

theorem rungs_features (type : CType) (stars : Nat) (target : String) (names : List String) :
    ∀ declaration ∈ rungs type stars target names, declaration.features = [.pointer] := by
  induction names generalizing stars target with
  | nil => exact List.forall_mem_nil _
  | cons name above ih => exact List.forall_mem_cons.mpr ⟨rfl, ih (stars + 1) name⟩

/-- What there is some of is in use. -/
theorem Counted.inUse {inUse : Bool} {least most : Int} {count : Nat} (counted : Counted inUse least most count)
    (some : count ≠ 0) : inUse = true := by
  cases inUse with
  | true => rfl
  | false => exact absurd counted some

theorem Plan.Sound.spares (sound : plan.Sound settings scalars) : plan.env.Spares settings where
  arrays some := by
    have inUse := sound.arrayCount.inUse fun none => some (List.length_eq_zero_iff.mp none)
    exact (Bool.and_eq_true _ _ ▸ inUse).2
  pointers some := by
    have inUse := sound.pointerCount.inUse fun none => some (List.length_eq_zero_iff.mp none)
    exact (Bool.and_eq_true _ _ ▸ inUse).2

/-- The settings enable the declarations of a plan. -/
theorem Plan.Sound.enables (sound : plan.Sound settings scalars) :
    ∀ declaration ∈ plan.declarations, settings.Enables declaration.features := by
  have pointer {v : PointerVar} (member : v ∈ plan.pointers) : settings.Enables [.pointer] :=
    .cons (sound.spares.pointers (List.ne_nil_of_mem member)) Settings.enables_nil
  simp only [declarations, List.forall_mem_append, List.forall_mem_map]
  refine ⟨⟨⟨?_, ?_⟩, ?_⟩, ?_⟩
  · intro given member
    have suits := (sound.globals given member).suits
    exact .append (Settings.enables_if suits.isConst) (Settings.enables_if suits.isVolatile)
  · intro v member
    exact .cons (sound.spares.arrays (List.ne_nil_of_mem member)) Settings.enables_nil
  · exact fun v member => pointer member
  · intro declaration member
    obtain ⟨ladder, listed, link⟩ := List.mem_flatMap.mp member
    rw [rungs_features _ _ _ _ declaration link]
    exact pointer (sound.ladders ladder listed).base

theorem enables_composites (structs : layouts.structs ≠ [] → settings.structs = true)
    (unions : layouts.unions ≠ [] → settings.unions = true) :
    ∀ declaration ∈ compositeDeclarations layouts, settings.Enables declaration.features := by
  have some {fields : List (Array Field)} {index : Nat} (member : index ∈ List.range fields.length) :
      fields ≠ [] := List.length_pos_iff.mp (Nat.lt_of_le_of_lt (Nat.zero_le index) (List.mem_range.mp member))
  simp only [compositeDeclarations, List.forall_mem_append, List.forall_mem_map]
  constructor
  · exact fun index member => .cons (structs (some member)) Settings.enables_nil
  · exact fun index member => .cons (unions (some member)) Settings.enables_nil

end

end Environment

/-! ## Programs -/

section

variable {origin : Origin} {settings : Settings} {source : Random.Source} {program : Program}

/-- Before the run, there is nothing that the settings do not enable. -/
theorem Origin.MadeFrom.enables (madeFrom : origin.MadeFrom settings source)
    (inhabited : origin.setup.scalars ≠ []) :
    origin.setup.env.Spares settings ∧ ∀ item ∈ origin.sheet.contents, settings.Enables item.features := by
  obtain ⟨made, building, generated, built, sheet, env⟩ := madeFrom
  rw [sheet, env]
  have nothing : ∀ item ∈ (headedSheet settings.seed).contents, settings.Enables item.features := by
    simp [headedSheet]
  have early : ∀ item ∈ made.sheet.contents, settings.Enables item.features :=
    (Composite.enables_generate settings _ _ nothing).value generated
  obtain ⟨structs, unions⟩ := (Composite.generate_spares _).value generated
  unfold buildEnvironment Environment.onlyIf at built
  split at built
  · obtain ⟨_, after, ran, plan, sound, lists, -, written⟩ := (Environment.build_follows settings
      origin.setup.layouts ⟨made.source, made.sheet, .empty⟩ inhabited rfl).exists
    rw [built] at ran
    cases ran
    rw [lists]
    refine ⟨sound.spares, ?_⟩
    have declared := sound.enables
    have composites := Environment.enables_composites structs unions
    have heading : made.sheet.Continues (made.sheet.write 0 (.heading "GLOBAL VARIABLES")) [_] :=
      Text.Sheet.continues_write _
    have below := heading.trans (continues_writeEach .declare
      (plan.declarations ++ Environment.compositeDeclarations origin.setup.layouts))
    rw [written, Text.Sheet.contents_blankLine, below.contents]
    simp only [List.forall_mem_append, List.forall_mem_singleton, List.forall_mem_map, List.map_append]
    exact ⟨early, Settings.enables_nil, declared, composites⟩
  · cases built
    exact ⟨⟨fun some => absurd rfl some, fun some => absurd rfl some⟩, early⟩

/-- The settings enable everything that is in the items of a program. -/
theorem Origin.Makes.enables (makes : origin.Makes settings program)
    (madeFrom : origin.MadeFrom settings source) :
    ∀ item ∈ program.items, settings.Enables item.features := by
  have inhabited : origin.setup.scalars ≠ [] := makes.scalars_eq ▸ scalars_ne_nil _ _
  obtain ⟨spares, early⟩ := madeFrom.enables inhabited
  have same := makes.settings_eq
  subst same
  refine makes.forall_items early (fun _ => Settings.enables_nil) Settings.enables_nil ?created
    (fun _ => Settings.enables_nil) ?defined ?hash fun _ _ => Settings.enables_nil
  case created =>
    intro pending member
    have listed : pending.v ∈ origin.world.flow.created :=
      makes.aligned.pending ▸ List.mem_map_of_mem member
    have suits := makes.good.formed.qualified pending.v listed
    exact .append (Settings.enables_if suits.isConst) (Settings.enables_if suits.isVolatile)
  case defined =>
    intro definition member
    obtain ⟨index, found⟩ := List.mem_iff_getElem?.mp member
    obtain ⟨-, -, formed, shaped⟩ := makes.definition found
    exact formed.enables spares makes.aligned shaped
  case hash =>
    intro feature member
    obtain ⟨v, declared, rfl⟩ := List.mem_map.mp member
    rw [makes.variables_eq.2.1] at declared
    exact spares.arrays (List.ne_nil_of_mem declared)

/-- What declares a composite type is its definition. -/
theorem Item.composite_mem_features {item : Item} {kind : CompositeKind} {name : String}
    (member : name ∈ item.declares kind.nameKind) : .composite kind ∈ item.features := by
  cases item with
  | openComposite other index =>
      have same : kind = other := by
        cases kind <;> cases other <;> simp [declares, CompositeKind.nameKind] at member <;> rfl
      exact same ▸ List.mem_cons_self
  | _ => cases kind <;> simp [declares, CompositeKind.nameKind] at member

/-- Every composite type that is named anywhere in the text of a program is of a kind that is switched on. -/
theorem Origin.Makes.names_enabled (makes : origin.Makes settings program)
    (madeFrom : origin.MadeFrom settings source) {kind : CompositeKind} {name : String}
    (member : name ∈ names program.text) (isName : nameKind? name.toList = some kind.nameKind) :
    (Feature.composite kind).enabled settings = true := by
  have keeps := makes.sheet
  have inFile : kind.nameKind.inFile := by cases kind <;> rfl
  have text : names program.text = program.items.flatMap Item.names := names_sheet keeps.quiet
  have declared := keeps.ledger.closed.mem_declaredOf (text ▸ member) isName inFile
  obtain ⟨item, inItems, declares⟩ := List.mem_flatMap.mp declared
  exact makes.enables madeFrom item inItems _ (Item.composite_mem_features declares)

end

/-! ## Prepared settings -/

namespace Settings

/-- Settings for C++ have no qualified fields, and those for fast execution are settings for C++. -/
theorem normalize_fields (settings : Settings) (cpp : settings.langCpp = true ∨ settings.fastExecution = true) :
    settings.normalize.constStructUnionFields = false ∧ settings.normalize.volStructUnionFields = false := by
  have toCpp : settings.applyFastExecution.langCpp = true := by
    unfold applyFastExecution
    split
    · rfl
    · rename_i slow
      exact cpp.resolve_right slow
  simp only [normalize, applyCpp, toCpp, if_true, applyExhaustive]
  split <;> exact ⟨rfl, rfl⟩

section

variable {σ : Type} {files : Files.FileSystem (StateM σ)} {settings resolved prepared : Settings}
variable {state after : σ}

/-- A descriptor gives sizes only. -/
theorem describe_eq {path text : String} (described : settings.describe path text = .ok resolved) :
    ∃ integer pointer : Int, resolved = settings.fillSizes integer pointer := by
  unfold describe at described
  split at described <;> cases described
  exact ⟨_, _, rfl⟩

/-- Two steps give what the second gives after the first. -/
theorem exists_run_bind {α β : Type} {first : StateM σ α} {next : α → StateM σ β} {result : β × σ}
    (run : (first >>= next).run state = result) :
    ∃ value middle, first.run state = (value, middle) ∧ (next value).run middle = result :=
  ⟨_, _, rfl, run⟩

/-- The sizes are all that is filled in from files. -/
theorem resolve_eq (found : (settings.resolve files).run state = (.ok resolved, after)) :
    ∃ integer pointer : Int, resolved = settings.fillSizes integer pointer := by
  obtain ⟨error | ⟨⟩, middle, -, found⟩ := exists_run_bind found
  · dsimp only at found
    split at found <;> cases found
    exact ⟨hostSize, hostSize, rfl⟩
  · obtain ⟨error | content, last, -, found⟩ := exists_run_bind found
    · cases found
    · dsimp only at found
      split at found
      · cases found
      · rename_i text _
        cases described : settings.describe settings.descriptorPath text with
        | error error =>
            rw [described] at found
            cases found
        | ok filled =>
            rw [described] at found
            cases found
            exact describe_eq described

/-- Settings are prepared from those with the sizes filled in. -/
theorem prepare_eq (ready : (settings.prepare files).run state = (.ok prepared, after)) :
    ∃ integer pointer : Int, prepared = (settings.fillSizes integer pointer).normalize := by
  obtain ⟨_ | resolved, middle, ran, ready⟩ := exists_run_bind ready
  · cases ready
  · obtain ⟨integer, pointer, rfl⟩ := resolve_eq ran
    dsimp only at ready
    split at ready
    · cases ready
    · cases ready
      exact ⟨integer, pointer, rfl⟩

/-- Settings that are prepared for C++, which fast execution implies, have no qualified fields. -/
theorem prepare_fields (ready : (settings.prepare files).run state = (.ok prepared, after))
    (cpp : settings.langCpp = true ∨ settings.fastExecution = true) :
    prepared.constStructUnionFields = false ∧ prepared.volStructUnionFields = false := by
  obtain ⟨integer, pointer, rfl⟩ := prepare_eq ready
  exact normalize_fields (settings.fillSizes integer pointer) cpp

end

end Settings

/-- A program uses what its settings have switched on, and its text names structs and unions only where they
are.  Where the settings were prepared from ones for C++ or for fast execution, no field is qualified. -/
theorem generate_uses_enabled_features (settings : Settings) (source : Random.Source) :
    (∀ program : Program, (generate settings source).result = .ok program →
      (∀ item ∈ program.items, ∀ feature ∈ item.features, feature.enabled settings = true) ∧
      ∀ (kind : CompositeKind), ∀ name ∈ names program.text, nameKind? name.toList = some kind.nameKind →
        (Feature.composite kind).enabled settings = true) ∧
    ∀ {σ : Type} (files : Files.FileSystem (StateM σ)) (state after : σ) (written : Settings),
      written.langCpp = true ∨ written.fastExecution = true →
      (written.prepare files).run state = (.ok settings, after) →
      ∀ program : Program, (generate settings source).result = .ok program →
        ∀ item ∈ program.items, .constField ∉ item.features ∧ .volatileField ∉ item.features := by
  have enabled (program : Program) (returned : (generate settings source).result = .ok program) :
      ∀ item ∈ program.items, settings.Enables item.features := by
    obtain ⟨origin, makes, madeFrom⟩ := exists_origin_madeFrom returned
    exact makes.enables madeFrom
  constructor
  · intro program returned
    obtain ⟨origin, makes, madeFrom⟩ := exists_origin_madeFrom returned
    exact ⟨enabled program returned, fun kind name member => makes.names_enabled madeFrom member⟩
  · intro σ files state after written cpp ready program returned item member
    obtain ⟨noConst, noVolatile⟩ := Settings.prepare_fields ready cpp
    constructor
    · intro isConst
      exact Bool.false_ne_true (noConst.symm.trans (enabled program returned item member _ isConst))
    · intro isVolatile
      exact Bool.false_ne_true (noVolatile.symm.trans (enabled program returned item member _ isVolatile))

/-- Operations on files where there is nothing at any path. -/
def noFiles : Files.FileSystem (StateM Unit) where
  find path := return .error (.notFound path)
  read path := return .error (.notFound path)
  write path _ := return .error (.notFound path)

/-- The settings of a small program in C++ with a struct and without pointers, whose sizes are not given. -/
def cppSettings : Settings :=
  { smallSettings with
    func1MaxParams := 1, structs := true, maxStructFields := 1, langCpp := true, pointers := false }

/-- Without a descriptor, a small program in C++ has a struct, none of whose fields is qualified. -/
theorem generate_uses_enabled_features_small : ∃ (prepared : Settings) (program : Program),
    (cppSettings.prepare noFiles).run () = (.ok prepared, ()) ∧
      (generate prepared (.ofSeed 2 false)).result = .ok program ∧ "S0" ∈ declaredOf .struct program.items ∧
      ∀ item ∈ program.items, .pointer ∉ item.features ∧ .constField ∉ item.features := by
  have ready : (cppSettings.prepare noFiles).run () = (.ok (cppSettings.fillSizes 8 8).normalize, ()) := rfl
  generalize prepares : (cppSettings.fillSizes 8 8).normalize = prepared at ready
  have declares : (generate prepared (.ofSeed 2 false)).result.toOption.map (fun program =>
      declaredOf .struct program.items) = some ["S0"] := by
    rw [← prepares]
    decide +kernel
  obtain ⟨program, returned, structs⟩ := exists_of_toOption_map declares
  obtain ⟨programs, preparation⟩ := generate_uses_enabled_features prepared (.ofSeed 2 false)
  refine ⟨prepared, program, ready, returned, structs ▸ List.mem_cons_self, fun item member => ⟨?_, ?_⟩⟩
  · intro pointer
    have enabled := (programs program returned).1 item member _ pointer
    rw [← prepares] at enabled
    exact Bool.false_ne_true enabled
  · exact (preparation noFiles () () cppSettings (.inl rfl) ready program returned item member).1

end RandomC
