import RandomC.Proofs.Program

/-!
# What a program consists of

A program is the composite types and the environment, followed by what a run has made: the globals that
were created on demand, the prototypes, and the definitions, each as it was stored and with an empty line
behind it.  What its items declare is therefore what the environment and the final state list.
-/

namespace RandomC

/-! ## Written sheets -/

/-- The text of a sheet of items. -/
abbrev Text.Sheet.written (sheet : Text.Sheet Item) : String := sheet.text Item.layout

/-- The second sheet goes on where the first one ends, with the given items. -/
structure Text.Sheet.Continues (before after : Text.Sheet Item) (items : List Item) : Prop where
  level : after.level = before.level
  contents : after.contents = before.contents ++ items
  written : ∃ rest, after.written = before.written ++ rest

section

variable {first middle last sheet : Text.Sheet Item} {earlier later : List Item}

theorem Text.Sheet.written_write (item : Item) :
    (sheet.write 0 item).written = sheet.written ++ item.layout sheet.level := by
  simp [Text.Sheet.text, Text.Sheet.write, Text.Entry.text]

theorem Text.Sheet.written_blankLine : sheet.blankLine.written = sheet.written ++ "\n" := by
  simp [Text.Sheet.text, Text.Sheet.blankLine, Text.Entry.text]

theorem Text.Sheet.Continues.refl : sheet.Continues sheet [] := ⟨rfl, by simp, "", by simp⟩

theorem Text.Sheet.Continues.trans (former : first.Continues middle earlier)
    (latter : middle.Continues last later) : first.Continues last (earlier ++ later) := by
  rcases former.written with ⟨start, begun⟩
  rcases latter.written with ⟨rest, ended⟩
  refine ⟨latter.level.trans former.level, ?_, start ++ rest, ?_⟩
  · rw [latter.contents, former.contents, List.append_assoc]
  · rw [ended, begun, String.append_assoc]

theorem Text.Sheet.continues_write (item : Item) : sheet.Continues (sheet.write 0 item) [item] :=
  ⟨rfl, by simp, _, Text.Sheet.written_write item⟩

theorem Text.Sheet.continues_blankLine : sheet.Continues sheet.blankLine [] :=
  ⟨rfl, by simp, _, Text.Sheet.written_blankLine⟩

theorem continues_writeEach {α : Type} (item : α → Item) (list : List α) :
    sheet.Continues (writeEach item list sheet) (list.map item) := by
  unfold writeEach
  induction list generalizing sheet with
  | nil => exact .refl
  | cons element rest ih => exact (Text.Sheet.continues_write _).trans ih

end

/-- The definition as it is stored: its lines and an empty one. -/
def Definition.text (definition : Definition) : String := (Item.define definition).layout 0 ++ "\n"

/-- Definitions are written one below the other. -/
theorem writeDefinitions_eq (definitions : List Definition) {sheet : Text.Sheet Item}
    (margin : sheet.level = 0) :
    let after := definitions.foldl (fun sheet definition => (sheet.write 0 (.define definition)).blankLine)
      sheet
    sheet.Continues after (definitions.map .define) ∧
      after.written = sheet.written ++ String.join (definitions.map Definition.text) := by
  induction definitions generalizing sheet with
  | nil => exact ⟨.refl, by simp⟩
  | cons definition rest ih =>
      obtain ⟨continues, written⟩ := @ih (sheet.write 0 (.define definition)).blankLine margin
      constructor
      · exact ((Text.Sheet.continues_write _).trans Text.Sheet.continues_blankLine).trans continues
      · simp only [List.foldl_cons, List.map_cons, written, Text.Sheet.written_blankLine,
          Text.Sheet.written_write, margin, String.join_cons]
        simp only [Definition.text, String.append_assoc]

/-! ## Items -/

/-- The function that hashes the globals, if it is wanted. -/
def hashItems (settings : Settings) (globals : List GlobalVar) (arrays : List ArrayVar) : List Item :=
  if settings.computeHash then [.hash globals arrays] else []

/-- What is made of a run: the items behind the environment, up to the definitions. -/
def Flow.items (flow : Flow) : List Item :=
  flow.pending.map (fun pending => .declare pending.declaration) ++
    .heading "FORWARD DECLARATIONS" :: flow.functions.map .forward ++
    [.heading "FUNCTIONS"] ++ [.rule] ++ (flow.definitions.filterMap id).map .define

section

variable {flow : Flow} {sheet : Text.Sheet Item} {setup : Setup}

theorem continues_writeGlobals : sheet.Continues (flow.writeGlobals sheet)
    (flow.pending.map fun pending => .declare pending.declaration) := by
  unfold Flow.writeGlobals
  split
  · rename_i none
    rw [List.isEmpty_iff.mp none]
    exact .refl
  · have each : sheet.Continues (writeEach (fun pending => .declare pending.declaration) flow.pending sheet) _ :=
      continues_writeEach _ flow.pending
    have continues := each.trans Text.Sheet.continues_blankLine
    rwa [List.append_nil] at continues

theorem continues_writePrototypes : sheet.Continues (flow.writePrototypes sheet)
    (.heading "FORWARD DECLARATIONS" :: flow.functions.map .forward) := by
  have heading : sheet.Continues (sheet.write 0 (.heading "FORWARD DECLARATIONS")) _ :=
    Text.Sheet.continues_write _
  have continues := (heading.trans (continues_writeEach .forward flow.functions)).trans
    Text.Sheet.continues_blankLine
  rwa [List.append_nil] at continues

/-- What a run has made, with the definitions in a row. -/
theorem Flow.write_eq (margin : sheet.level = 0) :
    sheet.Continues (flow.write sheet) flow.items ∧ ∃ start, (flow.write sheet).written =
      start ++ String.join ((flow.definitions.filterMap id).map Definition.text) := by
  have globals : sheet.Continues (flow.writeGlobals sheet) _ := continues_writeGlobals
  have prototypes : (flow.writeGlobals sheet).Continues (flow.writePrototypes (flow.writeGlobals sheet)) _ :=
    continues_writePrototypes
  have headed := ((globals.trans prototypes).trans
    (Text.Sheet.continues_write (.heading "FUNCTIONS"))).trans (Text.Sheet.continues_write .rule)
  obtain ⟨continues, written⟩ := writeDefinitions_eq (flow.definitions.filterMap id)
    (headed.level.trans margin)
  exact ⟨headed.trans continues, _, written⟩

theorem continues_writeHash {settings : Settings} {globals : List GlobalVar} {arrays : List ArrayVar} :
    sheet.Continues (writeHash settings globals arrays sheet) (hashItems settings globals arrays) := by
  unfold writeHash hashItems
  split
  · exact (Text.Sheet.continues_write _).trans Text.Sheet.continues_blankLine
  · exact .refl

theorem continues_writeMain {settings : Settings} {functions : List Signature} :
    ∃ items, sheet.Continues (writeMain settings functions sheet) items ∧
      ∀ item ∈ items, ∃ shape entry, item = .main shape entry := by
  unfold writeMain
  split
  · split
    · exact ⟨[], .refl, nofun⟩
    · exact ⟨_, Text.Sheet.continues_write _, by simp⟩
  · exact ⟨[], .refl, nofun⟩

end

/-! ## Programs -/

/-- The definition that an item is. -/
def Item.definition? : Item → Option Definition
  | .define definition => some definition
  | _ => none

namespace Program

variable (program : Program)

/-- The scalars that the program declares, in order. -/
def globals : List GlobalVar := (declarations program.items).filterMap Declaration.global?

/-- The arrays that the program declares, in order. -/
def arrays : List ArrayVar := (declarations program.items).filterMap Declaration.array?

/-- The pointers to scalars that the program declares, in order. -/
def pointers : List PointerVar := (declarations program.items).filterMap Declaration.pointer?

/-- The definitions of the program, in order. -/
def definitions : List Definition := program.items.filterMap Item.definition?

end Program

section

variable {origin : Origin} {settings : Settings} {program : Program}

/-- The declaration of a scalar is one of the items. -/
theorem Program.exists_declaration {v : GlobalVar} (member : v ∈ program.globals) :
    ∃ initial, .declare (.global v initial) ∈ program.items := by
  obtain ⟨declaration, listed, isGlobal⟩ := List.mem_filterMap.mp member
  obtain ⟨item, inItems, isDeclaration⟩ := List.mem_filterMap.mp listed
  cases item <;> cases isDeclaration
  cases declaration <;> cases isGlobal
  exact ⟨_, inItems⟩

/-- The items of a program: those before the run, those that the run has made, and those at the end. -/
theorem Origin.Makes.items (makes : origin.Makes settings program) :
    ∃ ends, program.items = origin.sheet.contents ++ origin.world.flow.items ++
        hashItems settings (origin.setup.env.globals ++ origin.world.flow.created) origin.setup.env.arrays ++
        ends ∧
      (∀ item ∈ ends, ∃ shape entry, item = .main shape entry) ∧
      ∃ start rest, program.text = start ++
        String.join ((origin.world.flow.definitions.filterMap id).map Definition.text) ++ rest := by
  let globals := origin.setup.env.globals ++ origin.world.flow.created
  let arrays := origin.setup.env.arrays
  obtain ⟨made, start, written⟩ := origin.world.flow.write_eq makes.lists.margin
  have hashed : (origin.world.flow.write origin.sheet).Continues
      (writeHash settings globals arrays (origin.world.flow.write origin.sheet))
      (hashItems settings globals arrays) := continues_writeHash
  obtain ⟨ends, continues, main⟩ := @continues_writeMain
    (writeHash settings globals arrays (origin.world.flow.write origin.sheet)) settings
    origin.world.flow.functions
  have behind := hashed.trans continues
  obtain ⟨rest, whole⟩ := behind.written
  rw [makes.program_eq, finish, makes.settings_eq]
  refine ⟨ends, ?_, main, start, rest, ?_⟩
  · exact ((made.trans hashed).trans continues).contents.trans (by simp only [List.append_assoc]; rfl)
  · exact whole.trans (by rw [written])

/-- The parts of items that neither headings nor prototypes have. -/
theorem Flow.filterMap_items {α : Type} {part? : Item → Option α} (flow : Flow)
    (heading : ∀ title, part? (.heading title) = none) (rule : part? .rule = none)
    (forward : ∀ signature, part? (.forward signature) = none) :
    flow.items.filterMap part? =
      flow.pending.filterMap (fun pending => part? (.declare pending.declaration)) ++
        (flow.definitions.filterMap id).filterMap fun definition => part? (.define definition) := by
  have prototypes : (flow.functions.map Item.forward).filterMap part? = [] := by
    simp [List.filterMap_map, forward]
  simp only [Flow.items, List.filterMap_append, List.filterMap_cons, List.filterMap_nil, heading, rule,
    prototypes, List.append_nil]
  simp only [List.filterMap_map, Function.comp_def]

/-- The parts of items that neither the functions at the end nor headings nor prototypes have. -/
theorem Origin.Makes.filterMap_items {α : Type} {part? : Item → Option α}
    (makes : origin.Makes settings program)
    (heading : ∀ title, part? (.heading title) = none) (rule : part? .rule = none)
    (forward : ∀ signature, part? (.forward signature) = none)
    (hash : ∀ globals arrays, part? (.hash globals arrays) = none)
    (main : ∀ shape entry, part? (.main shape entry) = none) :
    program.items.filterMap part? = origin.sheet.contents.filterMap part? ++
      (origin.world.flow.pending.filterMap (fun pending => part? (.declare pending.declaration)) ++
        (origin.world.flow.definitions.filterMap id).filterMap fun definition => part? (.define definition)) := by
  obtain ⟨ends, items, mains, -⟩ := makes.items
  have hashes : (hashItems settings (origin.setup.env.globals ++ origin.world.flow.created)
      origin.setup.env.arrays).filterMap part? = [] := by
    unfold hashItems
    split
    · simp [hash]
    · rfl
  have last : ends.filterMap part? = [] := by
    rw [List.filterMap_eq_nil_iff]
    intro item member
    obtain ⟨shape, entry, rfl⟩ := mains item member
    exact main shape entry
  simp only [items, List.filterMap_append, hashes, last, List.append_nil,
    Flow.filterMap_items origin.world.flow heading rule forward]

/-- The declarations of a program are those before the run and those of the globals that it created. -/
theorem Origin.Makes.declarations_eq (makes : origin.Makes settings program) :
    declarations program.items = declarations origin.sheet.contents ++
      origin.world.flow.pending.map PendingGlobal.declaration := by
  rw [declarations, makes.filterMap_items (fun _ => rfl) rfl (fun _ => rfl) (fun _ _ => rfl) fun _ _ => rfl]
  simp [declarations, Item.declaration?]

/-- What is declared on demand is no array. -/
theorem Origin.Makes.variables_eq (makes : origin.Makes settings program) :
    program.globals = origin.setup.env.globals ++ origin.world.flow.created ∧
      program.arrays = origin.setup.env.arrays ∧ program.pointers = origin.setup.env.pointers := by
  have lists := makes.lists
  refine ⟨?_, ?_, ?_⟩
  · simp [Program.globals, makes.declarations_eq, lists.globals, ← makes.aligned.pending, List.filterMap_map,
      Function.comp_def, PendingGlobal.declaration, Declaration.global?]
  · simp [Program.arrays, makes.declarations_eq, lists.arrays, List.filterMap_map, Function.comp_def,
      PendingGlobal.declaration, Declaration.array?]
  · simp [Program.pointers, makes.declarations_eq, lists.pointers, List.filterMap_map, Function.comp_def,
      PendingGlobal.declaration, Declaration.pointer?]

/-- Every scalar of a program has a number. -/
theorem Origin.Makes.globals_numbered (makes : origin.Makes settings program) :
    ∀ v ∈ program.globals, ∃ number : Nat, v.name = globalName number := by
  rw [makes.variables_eq.1]
  intro v member
  rcases List.mem_append.mp member with early | late
  · obtain ⟨number, -, same⟩ := (makes.sound.globals v early).2
    exact ⟨number, same⟩
  · obtain ⟨number, -, same⟩ := makes.aligned.created_name makes.sound late
    exact ⟨number, same⟩

/-- An item before the run is no function. -/
theorem Origin.Makes.not_isFunction (makes : origin.Makes settings program) {item : Item}
    (early : item ∈ origin.sheet.contents) : item.isFunction = false := by
  have none : functionItems origin.sheet.contents = [] := makes.lists.noFunctions
  have notFunction := List.filter_eq_nil_iff.mp none item early
  simpa using notFunction

/-- The definitions of a program are those of the final state of the run, and they stand in its text in a
row, as they were stored. -/
theorem Origin.Makes.definitions_eq (makes : origin.Makes settings program) :
    program.definitions.map some = origin.world.flow.definitions ∧
      ∃ start rest, program.text =
        start ++ String.join (program.definitions.map Definition.text) ++ rest := by
  obtain ⟨-, -, -, start, rest, text⟩ := makes.items
  obtain ⟨made, all, -, -⟩ := makes.aligned.all_definitions makes.complete
  have before : origin.sheet.contents.filterMap Item.definition? = [] := by
    rw [List.filterMap_eq_nil_iff]
    intro item early
    have notFunction := makes.not_isFunction early
    cases item with
    | define => cases notFunction
    | _ => rfl
  have whole : program.definitions = origin.world.flow.definitions.filterMap id := by
    rw [Program.definitions,
      makes.filterMap_items (fun _ => rfl) rfl (fun _ => rfl) (fun _ _ => rfl) fun _ _ => rfl, before]
    simp [Item.definition?]
  refine ⟨?_, start, rest, whole ▸ text⟩
  rw [whole, ← all, List.filterMap_map, show id ∘ some = (some : Definition → Option Definition) from rfl,
    List.filterMap_some]

/-- What holds of the items before the run and of each kind of item behind them holds of all items. -/
theorem Origin.Makes.forall_items (makes : origin.Makes settings program) {property : Item → Prop}
    (early : ∀ item ∈ origin.sheet.contents, property item)
    (heading : ∀ title, property (.heading title)) (rule : property .rule)
    (created : ∀ pending ∈ origin.world.flow.pending, property (.declare pending.declaration))
    (forward : ∀ signature, property (.forward signature))
    (defined : ∀ definition ∈ program.definitions, property (.define definition))
    (hash : property (.hash program.globals program.arrays))
    (main : ∀ shape entry, property (.main shape entry)) :
    ∀ item ∈ program.items, property item := by
  obtain ⟨ends, items, mains, -⟩ := makes.items
  obtain ⟨globals, arrays, -⟩ := makes.variables_eq
  have stored : origin.world.flow.definitions.filterMap id = program.definitions := by
    rw [← makes.definitions_eq.1, List.filterMap_map]
    exact List.filterMap_some
  have run : ∀ item ∈ origin.world.flow.items, property item := by
    simp only [Flow.items, stored, List.forall_mem_append, List.forall_mem_cons, List.forall_mem_map]
    exact ⟨⟨⟨⟨created, heading _, fun signature _ => forward signature⟩, heading _, nofun⟩, rule, nofun⟩,
      defined⟩
  have hashes : ∀ item ∈ hashItems settings (origin.setup.env.globals ++ origin.world.flow.created)
      origin.setup.env.arrays, property item := by
    rw [← globals, ← arrays]
    unfold hashItems
    split
    · exact List.forall_mem_singleton.mpr hash
    · exact List.forall_mem_nil _
  have last : ∀ item ∈ ends, property item := by
    intro item member
    obtain ⟨shape, entry, rfl⟩ := mains item member
    exact main shape entry
  rw [items]
  simp only [List.forall_mem_append]
  exact ⟨⟨⟨early, run⟩, hashes⟩, last⟩

/-- The function that hashes the globals hashes all that the program declares. -/
theorem Origin.Makes.hash_eq (makes : origin.Makes settings program) {globals : List GlobalVar}
    {arrays : List ArrayVar} (member : .hash globals arrays ∈ program.items) :
    globals = program.globals ∧ arrays = program.arrays := by
  have only : ∀ item ∈ program.items, ∀ globals arrays, item = .hash globals arrays →
      globals = program.globals ∧ arrays = program.arrays := by
    refine makes.forall_items ?early ?heading ?rule ?created ?forward ?defined ?hash ?main
    case early =>
      rintro _ early globals arrays rfl
      cases makes.not_isFunction early
    case hash =>
      rintro globals arrays same
      cases same
      exact ⟨rfl, rfl⟩
    all_goals intros; contradiction
  exact only _ member globals arrays rfl

end

/-! ## Setups of programs -/

/-- The setup is one that a program is generated from: the scalar types are those of the target, and every
array has two elements at least. -/
structure Setup.Regular (setup : Setup) : Prop where
  sound : setup.Sound
  scalars_eq : setup.scalars = CType.scalars setup.settings.intSize setup.settings.longLong
  lengths : ∀ v ∈ setup.env.arrays, 2 ≤ v.length

/-- Every run of generation has a regular setup, also if it fails. -/
theorem Origin.Prepared.regular {origin : Origin} {settings : Settings} (prepared : origin.Prepared settings) :
    origin.setup.Regular where
  sound := prepared.sound
  scalars_eq := by rw [prepared.scalars_eq, prepared.settings_eq]
  lengths := prepared.lists.lengths

end RandomC
