import RandomC.Proofs.BodyText
import RandomC.Proofs.Layouts

/-!
# Types of numbers

Casts are of scalar types, because scalar types are what is drawn, with two exceptions.  The entry function
may have a composite result, and where an exact replay draws the type of the first expression of a comma, it
may be composite.  Such a type goes through every expression that is generated for it, into the casts and
into the variables that are created on demand.
-/

namespace RandomC

/-! ## Types in trees -/

mutual

/-- The types that an expression casts to. -/
def Expr.castTypes : Expr → List CType
  | .literal type _ | .read type _ => [type]
  | .call type _ arguments => type :: castTypesOf arguments
  | .assign type _ value => type :: value.castTypes
  | .comma type left right => type :: (left.castTypes ++ right.castTypes)
  | .complement type operand => type :: operand.castTypes
  | .xor type left right => type :: (left.castTypes ++ right.castTypes)

/-- The types that some expressions cast to. -/
def castTypesOf : List Expr → List CType
  | [] => []
  | expr :: rest => expr.castTypes ++ castTypesOf rest

end

/-- The types that a condition casts to. -/
def Condition.castTypes : Condition → List CType
  | .bits _ => []
  | .constant _ => [.uint32]
  | .nonzero value => .uint32 :: value.castTypes

mutual

/-- The types that a statement casts to, and those of the array elements that it combines with a value. -/
def Statement.castTypes : Statement → List CType
  | .assign _ _ _ value => .uint32 :: value.castTypes
  | .ifElse condition yes no => condition.castTypes ++ (blockCastTypes yes ++ blockCastTypes no)
  | .loop _ body => blockCastTypes body
  | .leave _ => [.uint32]
  | .nextRound | .leaveLoop | .filler => []
  | .updateElement _ type _ value _ => type :: value.castTypes

/-- The types that the statements of a block cast to. -/
def blockCastTypes : List Statement → List CType
  | [] => []
  | statement :: rest => statement.castTypes ++ blockCastTypes rest

end

/-- The types that a definition casts to.  That of its result is one of them: the return local starts with a
number that is cast to it, and the accumulator is cast to it in the end. -/
def Definition.castTypes (definition : Definition) : List CType :=
  definition.signature.result :: .uint32 :: blockCastTypes definition.body ++
    match definition.mix with
    | some (_, expr) => expr.castTypes
    | none => []

/-- The types that an item casts to, and those of the scalars that it declares. -/
def Item.castTypes : Item → List CType
  | .declare (.global v _) => [v.type]
  | .define definition => definition.castTypes
  | .hash .. => [.uint64]
  | _ => []

/-- The types that a program casts to, and those of the scalars that it declares. -/
def Program.castTypes (program : Program) : List CType := program.items.flatMap Item.castTypes

/-- The types that the expression casts to that was completed at a moment. -/
def Moment.castTypes : Moment → List CType
  | .expressed expr => expr.castTypes
  | _ => []

theorem mem_castTypesOf {type : CType} {exprs : List Expr} :
    type ∈ castTypesOf exprs ↔ ∃ expr ∈ exprs, type ∈ expr.castTypes := by
  induction exprs with
  | nil => simp [castTypesOf]
  | cons expr rest ih => simp [castTypesOf, ih]

theorem mem_blockCastTypes {type : CType} {block : Block} :
    type ∈ blockCastTypes block ↔ ∃ statement ∈ block, type ∈ statement.castTypes := by
  induction block with
  | nil => simp [blockCastTypes]
  | cons statement rest ih => simp [blockCastTypes, ih]

/-! ## Trees cast to known types -/

section

variable {setup : Setup} {caller : Nat} {params : List Variable} {returnLocal : String} {flow : Flow}

theorem Expr.Formed.casts_known {expr : Expr} (formed : expr.Formed setup caller params flow) :
    ∀ type ∈ expr.castTypes, setup.Knows type := by
  induction formed with
  | literal known | read known => exact List.forall_mem_singleton.mpr known
  | call known _ _ _ _ ih =>
      refine List.forall_mem_cons.mpr ⟨known, fun type member => ?_⟩
      obtain ⟨argument, inside, casts⟩ := mem_castTypesOf.mp member
      exact ih argument inside type casts
  | assign known _ _ _ _ ih => exact List.forall_mem_cons.mpr ⟨known, ih⟩
  | complement known _ _ ih => exact List.forall_mem_cons.mpr ⟨known, ih⟩
  | comma known _ _ _ left right =>
      exact List.forall_mem_cons.mpr ⟨known, List.forall_mem_append.mpr ⟨left, right⟩⟩
  | xor known _ _ _ _ left right =>
      exact List.forall_mem_cons.mpr ⟨known, List.forall_mem_append.mpr ⟨left, right⟩⟩

theorem Condition.Formed.casts_known {condition : Condition}
    (formed : condition.Formed setup caller params flow) : ∀ type ∈ condition.castTypes, setup.Knows type := by
  cases formed with
  | bits => exact List.forall_mem_nil _
  | constant => exact List.forall_mem_singleton.mpr .uint32
  | nonzero _ formed => exact List.forall_mem_cons.mpr ⟨.uint32, formed.casts_known⟩

theorem Statement.Formed.casts_known {statement : Statement}
    (formed : statement.Formed setup caller params returnLocal flow) :
    ∀ type ∈ statement.castTypes, setup.Knows type := by
  have block {statements : Block}
      (each : ∀ statement ∈ statements, ∀ type ∈ statement.castTypes, setup.Knows type) :
      ∀ type ∈ blockCastTypes statements, setup.Knows type := by
    intro type member
    obtain ⟨statement, inside, casts⟩ := mem_blockCastTypes.mp member
    exact each statement inside type casts
  induction formed with
  | assign _ formed => exact List.forall_mem_cons.mpr ⟨.uint32, formed.casts_known⟩
  | ifElse condition _ _ yes no =>
      exact List.forall_mem_append.mpr ⟨condition.casts_known,
        List.forall_mem_append.mpr ⟨block yes, block no⟩⟩
  | loop _ ih => exact block ih
  | leave => exact List.forall_mem_singleton.mpr .uint32
  | nextRound | leaveLoop | filler => exact List.forall_mem_nil _
  | updateElement member _ formed => exact List.forall_mem_cons.mpr ⟨.array member, formed.casts_known⟩

theorem Definition.Formed.casts_known {definition : Definition} (formed : definition.Formed setup caller flow)
    (result : setup.Knows definition.signature.result) :
    ∀ type ∈ definition.castTypes, setup.Knows type := by
  rw [Definition.castTypes, List.cons_append, List.cons_append, List.forall_mem_cons, List.forall_mem_cons,
    List.forall_mem_append]
  refine ⟨result, .uint32, ?_, ?_⟩
  · intro type member
    obtain ⟨statement, inside, casts⟩ := mem_blockCastTypes.mp member
    exact (formed.body statement inside).casts_known type casts
  · split
    · rename_i name expr mixed
      exact (formed.mix name expr mixed).2.casts_known
    · exact List.forall_mem_nil _

theorem HistorySound.casts_known {history : List Moment} (sound : HistorySound setup history) :
    ∀ type ∈ history.flatMap Moment.castTypes, setup.Knows type := by
  intro type member
  obtain ⟨moment, remembered, casts⟩ := List.mem_flatMap.mp member
  obtain ⟨later, earlier, rfl⟩ := List.append_of_mem remembered
  cases moment with
  | expressed expr =>
      obtain ⟨_, _, _, -, -, formed⟩ := sound.sound
      exact formed.casts_known type casts
  | _ => cases casts

end

/-! ## Texts without composite types -/

section

variable {setup : Setup} {caller : Nat} {flow : Flow}

/-- Declarations of everything that bodies may refer to besides composite types. -/
def Flow.plainItems (flow : Flow) : List Item :=
  (List.range flow.nextGlobal.toNat).map
      (fun number => .declare (.global ⟨globalName number, .uint32, false, false⟩ .zero)) ++
    flow.functions.map .forward

theorem Flow.declared_plainItems (structs : setup.layouts.structs = []) (unions : setup.layouts.unions = []) :
    Declared setup flow flow.plainItems where
  composites kind index bound := by
    cases kind with
    | struct => simp [Layouts.ofKind, structs] at bound
    | union => simp [Layouts.ofKind, unions] at bound
  globals number bound := by
    have within : number ∈ List.range flow.nextGlobal.toNat := List.mem_range.mpr (by omega)
    exact List.mem_flatMap.mpr
      ⟨_, List.mem_append_left _ (List.mem_map_of_mem within), List.mem_singleton_self _⟩
  functions signature member :=
    List.mem_flatMap.mpr ⟨_, List.mem_append_right _ (List.mem_map_of_mem member), List.mem_singleton_self _⟩

theorem Flow.plainItems_composite (kind : CompositeKind) : declaredOf kind.nameKind flow.plainItems = [] := by
  rw [declaredOf, List.flatMap_eq_nil_iff]
  intro item member
  rcases List.mem_append.mp member with isGlobal | isFunction
  · obtain ⟨number, -, rfl⟩ := List.mem_map.mp isGlobal
    cases kind <;> rfl
  · obtain ⟨signature, -, rfl⟩ := List.mem_map.mp isFunction
    cases kind <;> rfl

/-- Where there are no composite types, the text of a definition mentions none. -/
theorem Definition.Formed.mentions_none {definition : Definition} {number : Nat} (sound : setup.Sound)
    (aligned : Aligned setup flow) (whole : flow.Formed setup) (structs : setup.layouts.structs = [])
    (unions : setup.layouts.unions = []) (formed : definition.Formed setup caller flow)
    (member : definition.signature ∈ flow.functions) (own : definition.returnLocal = localName number) :
    ∀ line ∈ definition.lines, ∀ (kind : CompositeKind) (index : Nat),
      compositeName kind index ∉ names line.text := by
  intro line inLines kind index mentioned
  have closed := formed.closed sound aligned whole (Flow.declared_plainItems structs unions) member own
  obtain ⟨above, below, split⟩ := List.append_of_mem inLines
  have visible := closed above line below split _ mentioned kind.nameKind (kind_compositeName index kind)
  have inFile : InFile flow.plainItems (.define definition) line (compositeName kind index) kind.nameKind := by
    cases kind <;> exact visible
  rcases inFile with before | ⟨here, -⟩
  · rw [Flow.plainItems_composite] at before
    cases before
  · cases kind <;> cases here

end

/-! ## Runs without composite types -/

/-- The entry function stays the first one while its body is built. -/
theorem World.Opened.first {setup : Setup} {signature : Signature} {world after : World}
    (opened : world.Opened setup signature) (settles : world.Settles setup 0 after) :
    ∃ others, after.flow.functions = signature :: others := by
  obtain ⟨definition, extended⟩ := settles.defined
  obtain ⟨others, functions⟩ := extended.functions
  refine ⟨others, ?_⟩
  rw [← functions, Flow.withDefinition, opened.flow]
  rfl

/-- A run has an entry function when it ends.  If the type of its result is a scalar, and no commas draw types,
the run has gone as it does without any composite types. -/
theorem run_has_entry (setup : Setup) (source : Random.Source) (log : Array Event) :
    (run setup).Ends (.start setup source log)
      (fun _ after => ∃ entry others, after.flow.functions = entry :: others ∧
        (setup.settings.commasAreScalar → (setup.withLayouts .empty).Knows entry.result →
          after.Good (setup.withLayouts .empty)))
      fun _ => True := by
  apply Step.Ends.congr _ (run_eq source log)
  apply Step.ends_bind.mpr
  apply Step.ends_discard.mpr
  apply (addEntry_opens source log).mono
  · rintro _ world ⟨entry, drawn, opened⟩
    apply Step.ends_bind.mpr
    by_cases plain : setup.settings.commasAreScalar ∧ (setup.withLayouts .empty).Knows entry.result
    · obtain ⟨spares, known⟩ := plain
      have same : world.Opened (setup.withLayouts .empty) entry :=
        ⟨opened.number, opened.params, opened.flow, opened.history⟩
      have builds := buildBody_builds 0 world (same.awaits known)
      rw [buildBody_layouts spares] at builds
      apply builds.mono
      · intro _ after settles
        obtain ⟨others, functions⟩ := same.first settles
        have good := settles.good
        exact ⟨entry, others, functions, fun _ _ => ⟨good.aligned, good.begun, good.formed, good.history⟩⟩
      · exact fun _ _ => trivial
    · apply (buildBody_builds 0 world (opened.awaits drawn)).mono
      · intro _ after settles
        obtain ⟨others, functions⟩ := opened.first settles
        exact ⟨entry, others, functions, fun spares known => absurd ⟨spares, known⟩ plain⟩
      · exact fun _ _ => trivial
  · exact fun _ _ => trivial

/-! ## Programs -/

/-- The type is one of the scalar types that are drawn, or the one of the accumulators. -/
def CType.Numeric (settings : Settings) (type : CType) : Prop :=
  type = .uint32 ∨ type ∈ CType.scalars settings.intSize settings.longLong

instance (settings : Settings) (type : CType) : Decidable (type.Numeric settings) :=
  inferInstanceAs (Decidable (_ ∨ _))

section

variable {origin : Origin} {settings : Settings} {source : Random.Source} {program : Program}

/-- Types that are known without composite types are scalars. -/
theorem Origin.Prepared.numeric_of_plain (prepared : origin.Prepared settings) {type : CType}
    (known : (origin.setup.withLayouts .empty).Knows type) : type.Numeric settings := by
  cases known with
  | uint32 => exact .inl rfl
  | scalar member => exact .inr (prepared.scalars_eq ▸ member)
  | struct bound | union bound => cases bound
  | global member => exact .inr (prepared.scalars_eq ▸ (prepared.sound.globals _ member).1)
  | array member => exact .inr (prepared.scalars_eq ▸ (prepared.sound.arrays _ member).1)

theorem Origin.Prepared.plain_of_numeric (prepared : origin.Prepared settings) {type : CType}
    (numeric : type.Numeric settings) : (origin.setup.withLayouts .empty).Knows type := by
  rcases numeric with rfl | listed
  · exact .uint32
  · rw [← prepared.scalars_eq] at listed
    exact .scalar listed

/-- The type is a composite type that the program declares. -/
def Program.Composite (program : Program) (type : CType) : Prop :=
  ∃ (kind : CompositeKind) (index : Nat), type = kind.type index ∧
    compositeName kind index ∈ declaredOf kind.nameKind program.items

/-- Other known types are composite types of the program. -/
theorem Origin.Makes.known (makes : origin.Makes settings program) {type : CType}
    (known : origin.setup.Knows type) : type.Numeric settings ∨ program.Composite type := by
  have composite (kind : CompositeKind) (index : Nat) (bound : index < (origin.setup.layouts.ofKind kind).length) :
      program.Composite (kind.type index) := by
    have declared := makes.keeps.ledger.composites makes.opens.structs makes.opens.unions kind index bound
    obtain ⟨ends, items, -⟩ := makes.items
    refine ⟨kind, index, rfl, ?_⟩
    rw [items]
    simp only [declaredOf, List.flatMap_append]
    exact List.mem_append_left _ (List.mem_append_left _ (List.mem_append_left _ declared))
  cases known with
  | uint32 => exact .inl (.inl rfl)
  | scalar member => exact .inl (.inr (makes.scalars_eq ▸ member))
  | struct bound => exact .inr (composite .struct _ bound)
  | union bound => exact .inr (composite .union _ bound)
  | global member => exact .inl (.inr (makes.scalars_eq ▸ (makes.sound.globals _ member).1))
  | array member => exact .inl (.inr (makes.scalars_eq ▸ (makes.sound.arrays _ member).1))

/-- All types that a program casts to are known, and so are those in expressions that were taken back. -/
theorem Origin.Makes.casts_known (makes : origin.Makes settings program) {layouts : Layouts}
    (good : origin.world.Good (origin.setup.withLayouts layouts)) :
    ∀ type ∈ program.castTypes ++ origin.world.history.flatMap Moment.castTypes,
      (origin.setup.withLayouts layouts).Knows type := by
  refine List.forall_mem_append.mpr ⟨?_, good.history.casts_known⟩
  intro type member
  obtain ⟨item, inItems, casts⟩ := List.mem_flatMap.mp member
  cases item with
  | declare declaration =>
      cases declaration with
      | global v initial =>
          obtain rfl := List.mem_singleton.mp casts
          have listed : v ∈ program.globals :=
            List.mem_filterMap.mpr ⟨.global v initial, List.mem_filterMap.mpr ⟨_, inItems, rfl⟩, rfl⟩
          rw [makes.variables_eq.1] at listed
          rcases List.mem_append.mp listed with early | late
          · exact .global early
          · exact good.formed.created v late
      | _ => cases casts
  | define definition =>
      have listed : definition ∈ program.definitions := List.mem_filterMap.mpr ⟨_, inItems, rfl⟩
      have stored : some definition ∈ origin.world.flow.definitions :=
        makes.definitions_eq.1 ▸ List.mem_map_of_mem listed
      obtain ⟨index, found⟩ := List.getElem?_of_mem stored
      have signature := (good.aligned.returnLocals index definition found).1
      have result := (good.formed.functions _ (List.mem_of_getElem? signature)).1
      exact (good.formed.definitions index definition found).casts_known result type casts
  | hash =>
      obtain rfl := List.mem_singleton.mp casts
      apply Setup.Knows.scalar
      rw [Setup.withLayouts, makes.scalars_eq]
      simp [CType.scalars]
  | _ => cases casts

/-- Where there are no composite types for it, the text of a definition mentions none. -/
theorem Origin.Makes.mentions_none (makes : origin.Makes settings program)
    (good : origin.world.Good (origin.setup.withLayouts .empty)) :
    ∀ definition ∈ program.definitions, ∀ line ∈ definition.lines, ∀ (kind : CompositeKind) (index : Nat),
      compositeName kind index ∉ names line.text := by
  intro definition listed
  have stored : some definition ∈ origin.world.flow.definitions :=
    makes.definitions_eq.1 ▸ List.mem_map_of_mem listed
  obtain ⟨index, found⟩ := List.getElem?_of_mem stored
  obtain ⟨signature, own⟩ := good.aligned.returnLocals index definition found
  have sound : (origin.setup.withLayouts .empty).Sound := ⟨makes.sound.toSound, makes.sound.nextId, makes.sound.scalars⟩
  exact (good.formed.definitions index definition found).mentions_none sound good.aligned good.formed rfl rfl
    (List.mem_of_getElem? signature) own

/-- The type of what the first function returns is one that is cast to. -/
theorem Origin.Makes.casts_result (makes : origin.Makes settings program) {entry : Signature}
    {others : List Signature} (functions : origin.world.flow.functions = entry :: others) :
    entry.result ∈ program.castTypes := by
  have aligned := makes.aligned
  obtain ⟨definition, found⟩ := aligned.exists_definition makes.complete (by rw [functions]; exact Nat.zero_lt_succ _)
  have signature := (aligned.returnLocals 0 definition found).1
  rw [functions] at signature
  have same : entry = definition.signature := Option.some.inj signature
  have listed : some definition ∈ program.definitions.map some :=
    makes.definitions_eq.1 ▸ List.mem_of_getElem? found
  obtain ⟨other, inProgram, stored⟩ := List.mem_map.mp listed
  obtain rfl : other = definition := Option.some.inj stored
  obtain ⟨item, inItems, isDefinition⟩ := List.mem_filterMap.mp inProgram
  cases item <;> cases isDefinition
  exact List.mem_flatMap.mpr ⟨_, inItems, by simp [Item.castTypes, Definition.castTypes, same]⟩

/-- Every type that a program casts to is a scalar type or a composite type that the program declares, and so
are those in expressions that were taken back.  If no commas draw types and the entry function returns a
scalar, they are all scalar types, and no function mentions a composite type.  The type of what the entry
function returns is always one of them. -/
theorem generate_casts_to_scalars (returned : (generate settings source).result = .ok program) :
    ∃ (origin : Origin) (entry : Signature) (others : List Signature), origin.Makes settings program ∧
      program.functions = entry :: others ∧ entry.result ∈ program.castTypes ∧
      let types := program.castTypes ++
        (moments origin.setup origin.source origin.log).flatMap Moment.castTypes
      (∀ type ∈ types, type.Numeric settings ∨ program.Composite type) ∧
      (settings.commasAreScalar → entry.result.Numeric settings →
        (∀ type ∈ types, type.Numeric settings) ∧
        ∀ definition ∈ program.definitions, ∀ line ∈ definition.lines, ∀ (kind : CompositeKind) (index : Nat),
          compositeName kind index ∉ names line.text) := by
  obtain ⟨origin, makes⟩ := exists_origin returned
  obtain ⟨entry, others, first, plain⟩ := (run_has_entry _ _ _).of_ok makes.succeeds
  have functions : program.functions = entry :: others := by
    rw [makes.functions_eq, ← first]
    rfl
  refine ⟨origin, entry, others, makes, functions, makes.casts_result first, ?_, ?_⟩
  · have good : origin.world.Good (origin.setup.withLayouts origin.setup.layouts) := makes.good
    exact fun type member => makes.known (makes.casts_known good type member)
  · intro spares numeric
    rw [← makes.settings_eq] at spares
    have good : origin.world.Good (origin.setup.withLayouts .empty) :=
      plain spares (makes.plain_of_numeric numeric)
    exact ⟨fun type member => makes.numeric_of_plain (makes.casts_known good type member),
      makes.mentions_none good⟩

end

/-- The settings of a small program with a struct. -/
def structSettings : Settings := { smallSettings with structs := true, maxStructFields := 1, intSize := 4 }

/-- The settings of a small program with a struct whose expressions are replayed exactly. -/
def replaySettings : Settings :=
  { structSettings with exactReplay := true, maxFuncs := 1, maxExprComplexity := 3 }

/-- A small program has a struct, and casts to scalar types only. -/
theorem generate_casts_to_scalars_small : ∃ program : Program,
    (generate structSettings (.ofSeed 2 false)).result = .ok program ∧
      "S0" ∈ declaredOf .struct program.items ∧
      ∀ type ∈ program.castTypes, type.Numeric structSettings := by
  have plain : (generate structSettings (.ofSeed 2 false)).result.toOption.map (fun program =>
      (declaredOf .struct program.items, program.functions.map fun f => decide (f.result.Numeric structSettings))) =
      some (["S0"], [true, true]) := by
    decide +kernel
  obtain ⟨program, returned, parts⟩ := exists_of_toOption_map plain
  obtain ⟨structs, results⟩ := Prod.mk.inj parts
  obtain ⟨origin, entry, others, -, functions, -, -, casts⟩ := generate_casts_to_scalars returned
  rw [functions, List.map_cons] at results
  have numeric : entry.result.Numeric structSettings := of_decide_eq_true (List.cons.inj results).1
  have all := (casts (by decide) numeric).1
  exact ⟨program, returned, structs ▸ List.mem_singleton_self _,
    fun type member => all type (List.mem_append_left _ member)⟩

/-- One program casts a number to a struct, which its entry function returns.  Another one replays expressions
exactly and returns a number, and declares a variable of a struct that starts with a number. -/
theorem casts_to_scalars_fails :
    (∃ program : Program, (generate structSettings (.ofSeed 26 false)).result = .ok program ∧
      ¬ ∀ type ∈ program.castTypes, type.Numeric structSettings) ∧
    ∃ program : Program, (generate replaySettings (.ofSeed 60 false)).result = .ok program ∧
      (∀ f ∈ program.functions, f.result.Numeric replaySettings) ∧
      ∃ v ∈ program.globals, ¬ v.type.Numeric replaySettings := by
  constructor
  · have casts : (generate structSettings (.ofSeed 26 false)).result.toOption.map (fun program =>
        decide (∀ type ∈ program.castTypes, type.Numeric structSettings)) = some false := by
      decide +kernel
    obtain ⟨program, returned, composite⟩ := exists_of_toOption_map casts
    exact ⟨program, returned, of_decide_eq_false composite⟩
  · have declares : (generate replaySettings (.ofSeed 60 false)).result.toOption.map (fun program =>
        (decide (∀ f ∈ program.functions, f.result.Numeric replaySettings),
          decide (∃ v ∈ program.globals, ¬ v.type.Numeric replaySettings))) = some (true, true) := by
      decide +kernel
    obtain ⟨program, returned, parts⟩ := exists_of_toOption_map declares
    obtain ⟨results, globals⟩ := Prod.mk.inj parts
    exact ⟨program, returned, of_decide_eq_true results, of_decide_eq_true globals⟩

end RandomC
