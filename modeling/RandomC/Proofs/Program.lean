import RandomC.Proofs.Listing
import RandomC.Proofs.Rollback

/-!
# Declared before use

Every name in the text of a generated program is visible where it stands: composite types, globals and
functions are declared by an item above, and declared once; parameters, the return local, the accumulator
and the counter of a loop belong to the definition or the loop at hand.  Globals and functions that were
created in an attempt that was taken back are therefore not mentioned anywhere.
-/

namespace RandomC

/-! ## Scalar types -/

theorem hostInt_mem (intSize : Int) : CType.hostInt intSize ∈ CType.standard := by
  unfold CType.hostInt
  split
  · decide
  · split
    · decide
    · split <;> decide

theorem unsignedOf_mem (bits : Int) : CType.unsignedOf bits ∈ CType.standard := by
  unfold CType.unsignedOf
  split
  · decide
  · split
    · decide
    · split <;> decide

/-- The scalar types are named without reference to others. -/
theorem names_scalars (intSize : Int) (longLong : Bool) :
    ∀ type ∈ CType.scalars intSize longLong, names type.name = [] := by
  have standard : ∀ type ∈ CType.standard, names type.name = [] := by decide
  have host := standard _ (hostInt_mem intSize)
  have unsigned := standard _ (unsignedOf_mem (CType.hostInt intSize).bits)
  simp only [CType.standard, List.forall_mem_cons] at standard
  cases longLong <;> simp [CType.scalars, standard, host, unsigned]

theorem scalars_ne_nil (intSize : Int) (longLong : Bool) : CType.scalars intSize longLong ≠ [] :=
  List.cons_ne_nil _ _

/-! ## Functions and their globals -/

section

variable {setup : Setup} {flow : Flow} {tally : Tally} {sheet : Text.Sheet Item} {items : List Item}

/-- There are as many composite types, globals and functions as the state says. -/
structure Tally.Covers (setup : Setup) (flow : Flow) (tally : Tally) : Prop where
  structs : tally .struct = setup.layouts.structs.length
  unions : tally .union = setup.layouts.unions.length
  globals : (tally .global : Int) = flow.nextGlobal
  functions : tally .function = flow.functions.length

/-- There are the composite types and the globals of the environment, and nothing of any function. -/
structure Tally.Opens (setup : Setup) (tally : Tally) : Prop where
  structs : tally .struct = setup.layouts.structs.length
  unions : tally .union = setup.layouts.unions.length
  globals : setup.env.nextId = tally .global
  functions : tally .function = 0
  params : tally .param = 0
  returnLocals : tally .returnLocal = 0

/-- The tally once the globals, the prototypes and the definitions are written. -/
def Tally.written (flow : Flow) (tally : Tally) : Tally :=
  (((tally.add .global flow.created.length).add .function flow.functions.length).add .param
    (flow.functions.flatMap (·.params)).length).add .returnLocal flow.functions.length

/-- Parameters and return locals do not count. -/
theorem Tally.Covers.addOwn (covers : tally.Covers setup flow) (params returnLocals : Nat) :
    ((tally.add .param params).add .returnLocal returnLocals).Covers setup flow where
  structs := by simpa using covers.structs
  unions := by simpa using covers.unions
  globals := by simpa using covers.globals
  functions := by simpa using covers.functions

theorem Tally.Opens.covers (opens : tally.Opens setup) (aligned : Aligned setup flow) :
    ((tally.add .global flow.created.length).add .function flow.functions.length).Covers setup flow where
  structs := by simpa using opens.structs
  unions := by simpa using opens.unions
  globals := by simp [aligned.nextGlobal, opens.globals]
  functions := by simp [opens.functions]

theorem Ledger.composites (ledger : Ledger tally items)
    (structs : tally .struct = setup.layouts.structs.length)
    (unions : tally .union = setup.layouts.unions.length) (kind : CompositeKind) (index : Nat)
    (bound : index < (setup.layouts.ofKind kind).length) :
    compositeName kind index ∈ declaredOf kind.nameKind items := by
  rw [compositeName_eq]
  cases kind with
  | struct =>
      have within : index < NameKind.struct.first + tally .struct := by
        simpa [NameKind.first, structs, Layouts.ofKind] using bound
      exact ledger.mem (Nat.zero_le index) within
  | union =>
      have within : index < NameKind.union.first + tally .union := by
        simpa [NameKind.first, unions, Layouts.ofKind] using bound
      exact ledger.mem (Nat.zero_le index) within

theorem Ledger.declares (ledger : Ledger tally items) (aligned : Aligned setup flow)
    (covers : tally.Covers setup flow) : Declared setup flow items where
  composites := ledger.composites covers.structs covers.unions
  globals number bound := by
    have within : number < NameKind.global.first + tally .global := by
      have globals := covers.globals
      simp only [NameKind.first]
      omega
    exact ledger.mem (Nat.zero_le number) within
  functions signature member := by
    obtain ⟨number, first, last, same⟩ := aligned.function_name member
    have within : number < NameKind.function.first + tally .function := by
      have functions := covers.functions
      simp only [NameKind.first]
      omega
    rw [Signature.name, same]
    exact ledger.mem first within

/-! ## Writing -/

/-- Each of the items declares the next name of a kind. -/
theorem Text.Sheet.Keeps.declareEach {α : Type} {item : α → Item} {list : List α} {kind : NameKind}
    (keeps : sheet.Keeps tally)
    (each : ∀ (index : Nat) (element : α) (before : List Item), list[index]? = some element →
      Ledger (tally.add kind index) before → (item element).Closed before ∧
        (item element).DeclaresOnly kind (kind.name (kind.first + (tally kind + index)))) :
    (writeEach item list sheet).Keeps (tally.add kind list.length) := by
  unfold writeEach
  induction list generalizing tally sheet with
  | nil => simpa using keeps
  | cons element rest ih =>
      have first := each 0 element sheet.contents rfl (by simpa using keeps.ledger)
      have written := keeps.declare 0 first.1 first.2
      have tail := ih written fun index other before found ledger => by
        rw [Tally.add_add] at ledger
        have next := each (index + 1) other before found (by rwa [Nat.add_comm])
        rw [Tally.add_self, Nat.add_assoc, Nat.add_comm 1 index]
        exact next
      rw [Tally.add_add, Nat.add_comm] at tail
      exact tail

/-- The parameters and return locals of the definitions have the next names, in order. -/
theorem Text.Sheet.Keeps.defineEach {definitions : List Definition} (keeps : sheet.Keeps tally)
    (covers : tally.Covers setup flow)
    (closed : ∀ definition ∈ definitions, ∀ (before : List Item) (now : Tally), now.Covers setup flow →
      Ledger now before → (Item.define definition).Closed before)
    (params : (definitions.flatMap (·.signature.params)).map (·.name) =
      (List.range' (1 + tally .param) (definitions.flatMap (·.signature.params)).length).map paramName)
    (returnLocals : definitions.map (·.returnLocal) =
      (List.range' (tally .returnLocal) definitions.length).map localName) :
    (definitions.foldl (fun sheet definition => (sheet.write 0 (.define definition)).blankLine)
      sheet).Keeps ((tally.add .param (definitions.flatMap (·.signature.params)).length).add .returnLocal
        definitions.length) := by
  induction definitions generalizing tally sheet with
  | nil => simpa using keeps
  | cons definition rest ih =>
      simp only [List.flatMap_cons, List.map_append, List.length_append, ← List.range'_append_1] at params
      obtain ⟨own, others⟩ := List.append_inj params (by simp)
      simp only [List.map_cons, List.length_cons, List.range'_succ, List.cons.injEq] at returnLocals
      have here := closed definition List.mem_cons_self sheet.contents tally covers keeps.ledger
      have written := (keeps.define here own returnLocals.1).blankLine
      have tail := ih written (covers.addOwn _ _)
        (fun other member => closed other (List.mem_cons_of_mem _ member))
        (by simpa [Nat.add_assoc] using others) (by simpa using returnLocals.2)
      have total : ∀ first later count : Nat,
          (((tally.add .param first).add .returnLocal 1).add .param later).add .returnLocal count =
            (tally.add .param (first + later)).add .returnLocal (count + 1) := by
        intro first later count
        funext kind
        cases kind <;> simp [Tally.add, Nat.add_assoc, Nat.add_comm 1]
      rw [total] at tail
      simpa using tail

/-- The declarations that wait are those of the created globals, in order. -/
theorem Aligned.pending_name (aligned : Aligned setup flow) {index : Nat} {pending : PendingGlobal}
    (found : flow.pending[index]? = some pending) :
    pending.v ∈ flow.created ∧ pending.v.name = globalName (setup.env.nextId + index) := by
  have created : flow.created[index]? = some pending.v := by
    rw [← aligned.pending, List.getElem?_map, found]
    rfl
  have bound := (List.getElem?_eq_some_iff.mp created).1
  have names := congrArg (·[index]?) aligned.created
  simp only [List.getElem?_map, created, Option.map_some, List.getElem?_range bound] at names
  exact ⟨List.mem_of_getElem? created, Option.some.inj names⟩

theorem pending_closed {before : List Item} (sound : setup.Sound) (formed : flow.Formed setup)
    (aligned : Aligned setup flow) (structs : tally .struct = setup.layouts.structs.length)
    (unions : tally .union = setup.layouts.unions.length) (globals : setup.env.nextId = tally .global)
    {index : Nat} {pending : PendingGlobal} (found : flow.pending[index]? = some pending)
    (ledger : Ledger (tally.add .global index) before) :
    (Item.declare pending.declaration).Closed before ∧
      (Item.declare pending.declaration).DeclaresOnly .global
        (NameKind.global.name (NameKind.global.first + (tally .global + index))) := by
  obtain ⟨member, named⟩ := aligned.pending_name found
  have own : pending.v.name = globalName (tally .global + index : Nat) := by
    rw [named, globals, Int.natCast_add]
  constructor
  · apply Item.closed_global (formed.pending pending (List.mem_of_getElem? found)) own
    intro name inType
    obtain ⟨kind, number, bound, rfl⟩ := (formed.created pending.v member).mentions sound name inType
    constructor
    · intro same
      have isGlobal := kind_compositeName number kind
      rw [same, kind_globalName] at isGlobal
      cases kind <;> cases isGlobal
    · apply declaredIn_composite
      exact ledger.composites (by simpa using structs) (by simpa using unions) kind number bound
  · have first : NameKind.global.first = 0 := rfl
    have names : pending.declaration.names = [pending.v.name] := rfl
    intro other
    rw [Item.declares, names, own, first, Nat.zero_add]
    rfl

theorem Flow.writeGlobals_keeps (keeps : sheet.Keeps tally) (sound : setup.Sound)
    (formed : flow.Formed setup) (aligned : Aligned setup flow)
    (structs : tally .struct = setup.layouts.structs.length)
    (unions : tally .union = setup.layouts.unions.length) (globals : setup.env.nextId = tally .global) :
    (flow.writeGlobals sheet).Keeps (tally.add .global flow.created.length) := by
  have length : flow.created.length = flow.pending.length := by
    rw [← aligned.pending, List.length_map]
  unfold Flow.writeGlobals
  rw [length]
  split
  · rename_i none
    simpa [List.isEmpty_iff.mp none] using keeps
  · apply Text.Sheet.Keeps.blankLine
    apply keeps.declareEach
    exact fun _ _ _ found ledger => pending_closed sound formed aligned structs unions globals found ledger

theorem Flow.writePrototypes_keeps (keeps : sheet.Keeps tally) (sound : setup.Sound)
    (formed : flow.Formed setup) (aligned : Aligned setup flow)
    (structs : tally .struct = setup.layouts.structs.length)
    (unions : tally .union = setup.layouts.unions.length) (none : tally .function = 0) :
    (flow.writePrototypes sheet).Keeps (tally.add .function flow.functions.length) := by
  have heading : (Item.heading "FORWARD DECLARATIONS").Closed sheet.contents :=
    Item.closed_of_quiet (by decide)
  apply Text.Sheet.Keeps.blankLine
  apply (keeps.write 0 heading fun _ => rfl).declareEach
  intro index signature before found ledger
  constructor
  · apply Item.closed_forward sound aligned formed (List.mem_of_getElem? found)
    exact ledger.composites (by simpa using structs) (by simpa using unions)
  · have first : NameKind.function.first = 1 := rfl
    have number : signature.number = (1 + (0 + index) : Nat) := by
      rw [aligned.number found]
      omega
    intro other
    rw [Item.declares, Signature.name, number, first, none]
    rfl

theorem Flow.writeDefinitions_keeps (keeps : sheet.Keeps tally) (sound : setup.Sound)
    (formed : flow.Formed setup) (aligned : Aligned setup flow) (complete : flow.Complete)
    (covers : tally.Covers setup flow) (noParams : tally .param = 0) (noLocals : tally .returnLocal = 0) :
    (flow.writeDefinitions sheet).Keeps ((tally.add .param (flow.functions.flatMap (·.params)).length).add
      .returnLocal flow.functions.length) := by
  have heading : (Item.heading "FUNCTIONS").Closed sheet.contents := Item.closed_of_quiet (by decide)
  have titled := keeps.write 0 heading fun _ => rfl
  have rule : Item.rule.Closed (sheet.write 0 (.heading "FUNCTIONS")).contents :=
    Item.closed_of_quiet (by decide)
  obtain ⟨definitions, all, signatures, locals⟩ := aligned.all_definitions complete
  have listed : flow.definitions.filterMap id = definitions := by simp [← all, List.filterMap_map]
  have count : definitions.length = flow.functions.length := by rw [← signatures, List.length_map]
  have own : definitions.flatMap (·.signature.params) = flow.functions.flatMap (·.params) := by
    rw [← signatures, List.flatMap_map]
  have closed : ∀ definition ∈ definitions, ∀ (before : List Item) (now : Tally), now.Covers setup flow →
      Ledger now before → (Item.define definition).Closed before := by
    intro definition member before now covers ledger
    have present : some definition ∈ flow.definitions := all ▸ List.mem_map_of_mem member
    obtain ⟨index, found⟩ := List.getElem?_of_mem present
    obtain ⟨signature, own⟩ := aligned.returnLocals index definition found
    exact (formed.definitions index definition found).closed sound aligned formed
      (ledger.declares aligned covers) (List.mem_of_getElem? signature) own
  have defined := (titled.write 0 rule fun _ => rfl).defineEach covers closed
    (by rw [own, noParams, ← aligned.nextParam_sub_one]; exact aligned.params)
    (by rw [locals, noLocals, count, List.range_eq_range'])
  rw [own, count] at defined
  unfold Flow.writeDefinitions
  rw [listed]
  exact defined

theorem Flow.write_keeps (keeps : sheet.Keeps tally) (sound : setup.Sound) (formed : flow.Formed setup)
    (aligned : Aligned setup flow) (complete : flow.Complete) (opens : tally.Opens setup) :
    (flow.write sheet).Keeps (tally.written flow) := by
  have declared :=
    Flow.writeGlobals_keeps keeps sound formed aligned opens.structs opens.unions opens.globals
  have announced := Flow.writePrototypes_keeps declared sound formed aligned
    (by simpa using opens.structs) (by simpa using opens.unions) (by simpa using opens.functions)
  exact Flow.writeDefinitions_keeps announced sound formed aligned complete (opens.covers aligned)
    (by simpa using opens.params) (by simpa using opens.returnLocals)

/-! ## The end of a program -/

theorem writeHash_keeps (keeps : sheet.Keeps tally) (settings : Settings) (sound : setup.Sound)
    (aligned : Aligned setup flow) (covers : tally.Covers setup flow) :
    (writeHash settings (setup.env.globals ++ flow.created) setup.env.arrays sheet).Keeps tally := by
  have declared {number : Nat} (bound : (number : Int) < flow.nextGlobal) :=
    (keeps.ledger.declares aligned covers).globals number bound
  unfold writeHash
  split
  · apply Text.Sheet.Keeps.blankLine
    apply keeps.write 0 _ fun _ => rfl
    apply Item.closed_hash
    · intro v member
      rcases List.mem_append.mp member with early | late
      · obtain ⟨number, bound, same⟩ := (sound.globals v early).2.named aligned
        exact ⟨number, same, declared bound⟩
      · obtain ⟨number, bound, same⟩ := aligned.created_name sound late
        exact ⟨number, same, declared bound⟩
    · intro v member
      obtain ⟨number, bound, same⟩ := (sound.arrays v member).2.named aligned
      exact ⟨number, same, declared bound⟩
  · exact keeps

theorem writeMain_keeps (keeps : sheet.Keeps tally) (settings : Settings) (aligned : Aligned setup flow)
    (covers : tally.Covers setup flow) : (writeMain settings flow.functions sheet).Keeps tally := by
  unfold writeMain
  split
  · rename_i entry others functions
    split
    · exact keeps
    · apply keeps.write 0 _ fun _ => rfl
      have member : entry ∈ flow.functions := by simp [functions]
      obtain ⟨number, -, -, own⟩ := aligned.function_name member
      have declared := (keeps.ledger.declares aligned covers).functions entry member
      rw [Signature.name, own] at declared
      exact Item.closed_main own declared
  · exact keeps

end

/-! ## Whole programs -/

/-- The items of a program. -/
def Program.items (program : Program) : List Item := program.sheet.contents

/-- The sheet on which nothing but the header stands. -/
theorem headedSheet_keeps (seed : Int) : (headedSheet seed).Keeps fun _ => 0 where
  ledger := by simpa [headedSheet] using Ledger.empty
  quiet := by
    have header := headerText_quiet seed
    simpa [headedSheet, Text.Sheet.blankLine, Text.Sheet.writeRaw, Text.Sheet.empty, Quiet] using header

/-- What a program is made from: the sheet with the composite types and the environment, and the run that
makes the functions. -/
structure Origin where
  setup : Setup
  source : Random.Source
  readings : List Random.Reading
  log : Array Event
  sheet : Text.Sheet Item
  tally : Tally

namespace Origin

/-- The state in which the run ends. -/
def world (origin : Origin) : World :=
  (run origin.setup (.start origin.setup origin.source origin.log)).2

/-- How generation ends that goes on from here. -/
def outcome (origin : Origin) : Outcome :=
  match run origin.setup (.start origin.setup origin.source origin.log) with
  | (.error failure, world) =>
    ⟨.error failure, world.source, world.readings ++ origin.readings, world.log⟩
  | (.ok (), world) =>
    let functions := world.flow.functions.length
    let globals := origin.setup.env.globals.length + world.flow.created.length
    ⟨.ok (finish origin.setup world.flow origin.sheet), world.source,
      world.readings ++ origin.readings,
      world.log.push (.generated functions globals origin.setup.settings.seed world.source.drawn)⟩

/-- Everything is sound when the run begins. -/
structure Prepared (origin : Origin) (settings : Settings) : Prop where
  settings_eq : origin.setup.settings = settings
  scalars_eq : origin.setup.scalars = CType.scalars settings.intSize settings.longLong
  sound : origin.setup.Sound
  lists : Environment.Building.Lists ⟨origin.source, origin.sheet, origin.setup.env⟩
  keeps : origin.sheet.Keeps origin.tally
  opens : origin.tally.Opens origin.setup

/-- The program was made in this way, and everything was sound before the run. -/
structure Makes (origin : Origin) (settings : Settings) (program : Program) : Prop
    extends origin.Prepared settings where
  succeeds : (run origin.setup (.start origin.setup origin.source origin.log)).1 = .ok ()
  program_eq : program = finish origin.setup origin.world.flow origin.sheet

/-- The composite types were declared below the header, and the environment below them, if there is to be
one. -/
def MadeFrom (origin : Origin) (settings : Settings) (source : Random.Source) : Prop :=
  ∃ (made : Composite.State) (building : Environment.Building),
    Composite.generate settings origin.setup.scalars
        { Composite.State.initial source with sheet := headedSheet settings.seed } =
      (.ok origin.setup.layouts, made) ∧
    buildEnvironment settings origin.setup.scalars origin.setup.layouts ⟨made.source, made.sheet, .empty⟩ =
      (.ok (), building) ∧
    origin.sheet = building.sheet ∧ origin.setup.env = building.env

end Origin

section

variable {settings : Settings} {source : Random.Source} {program : Program}

/-- The environment, if there is to be one, is built on the sheet with the composite types. -/
theorem buildEnvironment_gives (settings : Settings) {scalars : List CType} {layouts : Layouts}
    {tally : Tally} {state : Environment.Building} (quiet : ∀ type ∈ scalars, names type.name = [])
    (structs : tally .struct = layouts.structs.length) (unions : tally .union = layouts.unions.length)
    (keeps : state.Keeps scalars tally 0) :
    (buildEnvironment settings scalars layouts).Gives state fun _ after =>
      ∃ count, after.Keeps scalars (tally.add .global count) 0 := by
  unfold buildEnvironment Environment.onlyIf
  split
  · exact Environment.build_gives quiet structs unions keeps
  · exact ⟨0, by simpa using keeps⟩

/-- Where generation returns a program, its header could be written. -/
theorem generate_eq (returned : (generate settings source).result = .ok program) :
    generate settings source = generateWritable settings source := by
  unfold generate at returned ⊢
  cases writable : Text.hasDecimalText settings.seed with
  | true => rfl
  | false =>
      rw [writable] at returned
      cases returned

/-- Nothing is declared before the environment is built. -/
theorem composites_lists {settings : Settings} {scalars : List CType} {source : Random.Source}
    {layouts : Layouts} {made : Composite.State} (inhabited : scalars ≠ [])
    (generated : Composite.generate settings scalars
      { Composite.State.initial source with sheet := headedSheet settings.seed } = (.ok layouts, made)) :
    Environment.Building.Lists ⟨made.source, made.sheet, .empty⟩ := by
  have modest := Composite.modest_generate settings inhabited
    { Composite.State.initial source with sheet := headedSheet settings.seed } (Int.le_refl 0)
  obtain ⟨_, after, same, resembles⟩ := modest.exists
  rw [generated] at same
  cases same
  have unwritten : (headedSheet settings.seed).contents = [] := by simp [headedSheet]
  refine ⟨resembles.level, ?_, ?_, ?_, ?_, nofun⟩
  · rw [resembles.functions, unwritten]
    rfl
  all_goals
    rw [resembles.declarations, unwritten]
    rfl

theorem buildEnvironment_lists (settings : Settings) (layouts : Layouts) {scalars : List CType}
    {state : Environment.Building} (inhabited : scalars ≠ []) (lists : state.Lists) :
    (buildEnvironment settings scalars layouts).Succeeds state fun _ after => after.Lists :=
  ((Environment.adds_build inhabited).onlyIf _ state lists).mono fun _ _ ends => ends.1

/-- Whatever the settings are, generation comes to a run, and everything is sound when it begins. -/
theorem exists_prepared (settings : Settings) (source : Random.Source) :
    ∃ origin : Origin, origin.Prepared settings ∧ origin.MadeFrom settings source ∧
      generateWritable settings source = origin.outcome := by
  have quiet := names_scalars settings.intSize settings.longLong
  have inhabited := scalars_ne_nil settings.intSize settings.longLong
  let start : Composite.State := { Composite.State.initial source with sheet := headedSheet settings.seed }
  obtain ⟨layouts, made, generated, -⟩ :=
    (Composite.modest_generate settings inhabited start (Int.le_refl 0)).exists
  obtain ⟨_, building, built, lists⟩ :=
    (buildEnvironment_lists settings layouts inhabited (composites_lists inhabited generated)).exists
  have headed : start.Keeps fun _ => 0 := headedSheet_keeps settings.seed
  have keeps := (Composite.generate_gives settings quiet headed).value generated
  let tally : Tally := (Tally.add .struct layouts.structs.length fun _ => 0).add .union layouts.unions.length
  have structs : tally .struct = layouts.structs.length := by simp [tally]
  have unions : tally .union = layouts.unions.length := by simp [tally]
  have empty : Environment.Building.Keeps (CType.scalars settings.intSize settings.longLong) tally 0
      ⟨made.source, made.sheet, .empty⟩ := ⟨keeps, rfl, nofun, nofun, nofun⟩
  obtain ⟨count, keeps⟩ := (buildEnvironment_gives settings quiet structs unions empty).value built
  let setup : Setup := ⟨settings, CType.scalars settings.intSize settings.longLong, layouts, building.env⟩
  have nextId : building.env.nextId = tally.add .global count .global := by simpa using keeps.nextId
  refine ⟨⟨setup, building.source, building.stream.readings ++ made.stream.readings,
    firstEvents settings layouts building.env, building.sheet, tally.add .global count⟩, ?_,
    ⟨made, building, generated, built, rfl, rfl⟩, ?_⟩
  · constructor
    · rfl
    · rfl
    · exact ⟨keeps.sound, nextId ▸ Int.natCast_nonneg _, quiet⟩
    · exact { lists with }
    · exact keeps.sheet
    · exact ⟨by simpa [setup] using structs, by simpa [setup] using unions, nextId,
        by simp [tally], by simp [tally], by simp [tally]⟩
  · simp only [start] at generated
    simp only [generateWritable, generated, built, Origin.outcome]
    rfl

/-- What the run leads to is made of it. -/
theorem Origin.Prepared.makes {origin : Origin} (prepared : origin.Prepared settings)
    (returned : origin.outcome.result = .ok program) : origin.Makes settings program := by
  rw [Origin.outcome] at returned
  split at returned
  · cases returned
  · rename_i world ran
    cases returned
    exact ⟨prepared, by rw [ran], by rw [Origin.world, ran]⟩

/-- Where generation returns a program, it was made from something sound that was made for the settings. -/
theorem exists_origin_madeFrom (returned : (generate settings source).result = .ok program) :
    ∃ origin : Origin, origin.Makes settings program ∧ origin.MadeFrom settings source := by
  obtain ⟨origin, prepared, madeFrom, outcome⟩ := exists_prepared settings source
  rw [generate_eq returned, outcome] at returned
  exact ⟨origin, prepared.makes returned, madeFrom⟩

/-- Where generation returns a program, it ends just as the run does that the program was made in. -/
theorem exists_origin_outcome (returned : (generate settings source).result = .ok program) :
    ∃ origin : Origin, origin.Makes settings program ∧ generate settings source = origin.outcome := by
  obtain ⟨origin, prepared, -, outcome⟩ := exists_prepared settings source
  have same := (generate_eq returned).trans outcome
  rw [same] at returned
  exact ⟨origin, prepared.makes returned, same⟩

/-- Where generation returns a program, it was made from something sound. -/
theorem exists_origin (returned : (generate settings source).result = .ok program) :
    ∃ origin : Origin, origin.Makes settings program :=
  (exists_origin_madeFrom returned).imp fun _ => And.left

/-! What the final state of the run and the program have in common. -/

section

variable {origin : Origin} (makes : origin.Makes settings program)

include makes

theorem Origin.Makes.good : origin.world.Good origin.setup := (run_good makes.succeeds).1

theorem Origin.Makes.complete : origin.world.flow.Complete := (run_good makes.succeeds).2

theorem Origin.Makes.aligned : Aligned origin.setup origin.world.flow := makes.good.aligned

theorem Origin.Makes.functions_eq : program.functions = origin.world.flow.functions := by
  rw [makes.program_eq, finish]

theorem Origin.Makes.env_eq : program.env = origin.setup.env := by
  rw [makes.program_eq, finish]

/-- The sheet of a program. -/
theorem Origin.Makes.sheet : program.sheet.Keeps (origin.tally.written origin.world.flow) := by
  have covers : (origin.tally.written origin.world.flow).Covers origin.setup origin.world.flow :=
    (makes.opens.covers makes.aligned).addOwn _ _
  have written :=
    Flow.write_keeps makes.keeps makes.sound makes.good.formed makes.aligned makes.complete makes.opens
  have hashed := writeHash_keeps written origin.setup.settings makes.sound makes.aligned covers
  have whole := writeMain_keeps hashed origin.setup.settings makes.aligned covers
  rw [makes.program_eq]
  exact whole

end

/-- A name of a line that is declared for the whole file is declared by one of the items. -/
theorem Closed.mem_declaredOf {items : List Item} {name : String} {kind : NameKind} (closed : Closed items)
    (member : name ∈ items.flatMap Item.names) (isName : nameKind? name.toList = some kind)
    (inFile : kind.inFile) : name ∈ declaredOf kind items := by
  obtain ⟨item, inItems, inItem⟩ := List.mem_flatMap.mp member
  obtain ⟨line, inLines, inLine⟩ := List.mem_flatMap.mp inItem
  obtain ⟨before, after, whole⟩ := List.append_of_mem inItems
  obtain ⟨above, below, lines⟩ := List.append_of_mem inLines
  have visible := closed before item after whole above line below lines name inLine kind isName
  have declared : InFile before item line name kind := by
    cases kind with
    | struct => exact visible
    | union => exact visible
    | global => exact visible
    | function => exact visible
    | _ => cases inFile
  rw [whole, declaredOf, List.flatMap_append, List.flatMap_cons, List.mem_append, List.mem_append]
  cases declared with
  | inl earlier => exact .inl earlier
  | inr own => exact .inr (.inl (by simp [own.1]))

/-- Every name in the text of a generated program is one of a line of an item, and it is visible there.  A
name that is declared for the whole file is declared exactly once. -/
theorem generate_declares_before_use (returned : (generate settings source).result = .ok program) :
    names program.text = program.items.flatMap Item.names ∧ Closed program.items ∧
      ∀ name ∈ names program.text, ∀ kind : NameKind, nameKind? name.toList = some kind → kind.inFile →
        (declaredOf kind program.items).count name = 1 := by
  obtain ⟨origin, makes⟩ := exists_origin returned
  have keeps := makes.sheet
  have text : names program.text = program.items.flatMap Item.names := names_sheet keeps.quiet
  refine ⟨text, keeps.ledger.closed, ?_⟩
  intro name member kind isName inFile
  rw [text] at member
  have declared := keeps.ledger.closed.mem_declaredOf member isName inFile
  exact List.count_eq_one_of_mem keeps.ledger.nodup declared

end

/-- A program of a few functions, made from small settings. -/
theorem generate_declares_before_use_small : ∃ program : Program,
    (generate smallSettings (.ofSeed 2 false)).result = .ok program ∧ Closed program.items := by
  have isOk : (generate smallSettings (.ofSeed 2 false)).result.isOk = true := by decide +kernel
  obtain ⟨program, returned⟩ := exists_of_isOk isOk
  exact ⟨program, returned, (generate_declares_before_use returned).2.1⟩

end RandomC
