import RandomC.Proofs.Bounds

/-!
# The hash of the globals

The function that hashes the globals is written from the lists that a run has kept, and not from what has
been declared.  Reading its lines back shows that it hashes all scalars and arrays that the program declares,
each of them once and under its own name, and nothing else.
-/

namespace RandomC

/-! ## Reading the function back -/

/-- What a line of the function that hashes the globals does. -/
inductive HashStep where
  /-- It hashes the value of an expression under a label. -/
  | call (argument label : String)
  /-- It repeats the line below, which is how an array is hashed. -/
  | loop (range : String)
  deriving DecidableEq, Repr

/-- What stands behind the start of a text. -/
def behind? (start text : String) : Option (List Char) := start.toList.isPrefixOf? text.toList

/-- The step of a line.  A call hashes its first argument, up to the comma, under the label between the next
two quotes, whatever these are. -/
def Line.hashStep? (line : Line) : Option HashStep :=
  match behind? "transparent_crc(" line.text, behind? "for (" line.text with
  | some inner, _ =>
    let quoted := ((inner.dropWhile (· != ',')).dropWhile (· != '"')).drop 1
    some (.call (.ofList (inner.takeWhile (· != ','))) (.ofList (quoted.takeWhile (· != '"'))))
  | none, some range => some (.loop (.ofList range))
  | none, none => none

/-- The hash of a scalar. -/
def GlobalVar.hashStep (v : GlobalVar) : HashStep := .call ("(uint64_t)" ++ v.name) v.name

/-- The hash of an array: one loop over its elements. -/
def ArrayVar.hashSteps (v : ArrayVar) : List HashStep :=
  [.loop s!"int i = 0; i < {v.length}; i++)", .call ("(uint64_t)" ++ v.name ++ "[i]") (v.name ++ "[i]")]

/-- No comma and no quote in the text ends it early where it is an argument or a label. -/
def Unquoted (text : String) : Prop := ',' ∉ text.toList ∧ '"' ∉ text.toList

section

variable {text : String}

theorem unquoted_of_word (wordChars : ∀ c ∈ text.toList, isWordChar c) : Unquoted text :=
  ⟨fun comma => absurd (wordChars _ comma) (by decide), fun quote => absurd (wordChars _ quote) (by decide)⟩

theorem unquoted_globalName (number : Nat) : Unquoted (globalName number) :=
  unquoted_of_word (isWordChar_numbered number (by decide : "g_".toList.all isWordChar))

theorem Unquoted.element (unquoted : Unquoted text) : Unquoted (text ++ "[i]") := by
  obtain ⟨noComma, noQuote⟩ := unquoted
  simp [Unquoted, noComma, noQuote]

theorem behind_append (start : String) {rest : List Char} (chars : text.toList = start.toList ++ rest) :
    behind? start text = some rest :=
  List.isPrefixOf?_eq_some_iff_append_eq.mpr chars.symm

/-- A text is cut at a character where this stands first. -/
theorem cut_at {c : Char} {start : List Char} (absent : c ∉ start) (rest : List Char) :
    (start ++ c :: rest).takeWhile (· != c) = start ∧
      (start ++ c :: rest).dropWhile (· != c) = c :: rest := by
  have before : ∀ other ∈ start, (other != c) = true := by
    intro other member
    simpa using ne_of_mem_of_not_mem member absent
  simp [List.takeWhile_append_of_pos before, List.dropWhile_append_of_pos before]

/-- A call is read back as it was written. -/
theorem hashStep_call (level : Nat) (unquoted : Unquoted text) :
    (Line.mk level s!"transparent_crc((uint64_t){text}, \"{text}\", print_hash_value);").hashStep? =
      some (.call ("(uint64_t)" ++ text) text) := by
  obtain ⟨noComma, noQuote⟩ := unquoted
  let label := text.toList ++ '"' :: ", print_hash_value);".toList
  let argument := ("(uint64_t)" ++ text).toList
  have inner : behind? "transparent_crc("
      s!"transparent_crc((uint64_t){text}, \"{text}\", print_hash_value);" =
      some (argument ++ ',' :: ' ' :: '"' :: label) :=
    behind_append _ (by simp [argument, label])
  have argumentCut := cut_at (by simp [argument, noComma] : ',' ∉ argument) (' ' :: '"' :: label)
  have quoted : (',' :: ' ' :: '"' :: label).dropWhile (· != '"') = '"' :: label := by simp
  have labelCut : label.takeWhile (· != '"') = text.toList := (cut_at noQuote _).1
  simp only [Line.hashStep?, inner, argumentCut, quoted, List.drop_one, List.tail_cons, labelCut,
    argument, String.ofList_toList]

theorem hashStep_loop (v : ArrayVar) :
    (hashHead v).hashStep? = some (.loop s!"int i = 0; i < {v.length}; i++)") := by
  have range : behind? "for (" (hashHead v).text = some s!"int i = 0; i < {v.length}; i++)".toList :=
    behind_append _ (by simp [hashHead])
  have noCall : behind? "transparent_crc(" (hashHead v).text = none := by
    simp [behind?, hashHead, List.isPrefixOf?]
  simp only [Line.hashStep?, noCall, range, String.ofList_toList]

/-- The function hashes the scalars, one call for each, and then the arrays, one loop for each. -/
theorem hashLines_steps {globals : List GlobalVar} {arrays : List ArrayVar}
    (scalars : ∀ v ∈ globals, Unquoted v.name) (rows : ∀ v ∈ arrays, Unquoted v.name) :
    (hashLines globals arrays).filterMap Line.hashStep? =
      globals.map GlobalVar.hashStep ++ arrays.flatMap ArrayVar.hashSteps := by
  have calls : (globals.map fun v =>
      Line.mk 1 s!"transparent_crc((uint64_t){v.name}, \"{v.name}\", print_hash_value);").filterMap
        Line.hashStep? = globals.map GlobalVar.hashStep := by
    rw [List.filterMap_map, ← List.filterMap_eq_map]
    exact List.filterMap_congr fun v member => hashStep_call 1 (scalars v member)
  have element {v : ArrayVar} (member : v ∈ arrays) :
      (hashElement v).hashStep? = some (.call ("(uint64_t)" ++ v.name ++ "[i]") (v.name ++ "[i]")) := by
    have read := hashStep_call 2 (rows v member).element
    simpa [hashElement, String.append_assoc] using read
  have loops : (arrays.flatMap fun v => [hashHead v, hashElement v]).filterMap Line.hashStep? =
      arrays.flatMap ArrayVar.hashSteps := by
    rw [List.filterMap_flatMap]
    apply List.flatMap_congr
    intro v member
    simp [hashStep_loop, element member, ArrayVar.hashSteps]
  have first : ([⟨0, "void csmith_compute_hash(int print_hash_value)"⟩, ⟨0, "\x7b"⟩] : List Line).filterMap
      Line.hashStep? = [] := by decide
  have last : ([⟨0, "\x7d"⟩] : List Line).filterMap Line.hashStep? = [] := by decide
  rw [hashLines, List.filterMap_append, List.filterMap_append, List.filterMap_append, first, last, calls]
  simpa [hashHead, hashElement] using loops

end

/-! ## Programs -/

section

variable {origin : Origin} {settings : Settings} {source : Random.Source} {program : Program}

/-- Where a hash is wanted, the function for it stands behind all that is declared, in the items as in the
text. -/
theorem Origin.Makes.hashes (makes : origin.Makes settings program) (computeHash : settings.computeHash) :
    ∃ before ends, program.items = before ++ .hash program.globals program.arrays :: ends ∧
      (∀ globals arrays, .hash globals arrays ∉ before ++ ends) ∧
      ∃ start rest, program.text =
        start ++ (Item.hash program.globals program.arrays).layout 0 ++ rest := by
  obtain ⟨globals, arrays, -⟩ := makes.variables_eq
  obtain ⟨ends, items, main, -⟩ := makes.items
  have hashItem : hashItems settings (origin.setup.env.globals ++ origin.world.flow.created)
      origin.setup.env.arrays = [.hash program.globals program.arrays] := by
    rw [hashItems, if_pos computeHash, globals, arrays]
  rw [hashItem] at items
  refine ⟨origin.sheet.contents ++ origin.world.flow.items, ends, by simpa using items, ?_, ?_⟩
  · intro others rows member
    rw [List.mem_append, List.mem_append] at member
    rcases member with (early | made) | last
    · cases makes.not_isFunction early
    · simp [Flow.items] at made
    · obtain ⟨shape, entry, same⟩ := main _ last
      cases same
  · let flowSheet := origin.world.flow.write origin.sheet
    have margin : flowSheet.level = 0 :=
      (origin.world.flow.write_eq makes.lists.margin).1.level.trans makes.lists.margin
    let hashSheet := flowSheet.write 0 (.hash program.globals program.arrays)
    obtain ⟨_, continues, -⟩ := @continues_writeMain hashSheet.blankLine settings origin.world.flow.functions
    obtain ⟨rest, written⟩ := (Text.Sheet.continues_blankLine.trans continues).written
    have whole : program.text =
        (writeMain settings origin.world.flow.functions hashSheet.blankLine).written := by
      rw [makes.program_eq, finish, makes.settings_eq]
      simp only [Program.text, writeEnd, writeHash, computeHash, if_true, hashSheet, globals, arrays]
      rfl
    exact ⟨flowSheet.written, rest, by rw [whole, written, Text.Sheet.written_write, margin]⟩

/-- Where a hash is wanted, a program has one function for it, which stands in the text as it is.  It calls the
runtime once for each scalar that is declared, those of the environment first and those that were created on
demand behind them, each under its own name, and then it has one loop for each array.  There are no other
calls and loops, so that a global that was withdrawn is not hashed. -/
theorem generate_hashes_declared (computeHash : settings.computeHash)
    (returned : (generate settings source).result = .ok program) :
    let hash := Item.hash program.globals program.arrays
    (∃ before after start rest, program.items = before ++ hash :: after ∧
      (∀ globals arrays, .hash globals arrays ∉ before ++ after) ∧
      program.text = start ++ hash.layout 0 ++ rest) ∧
    hash.lines.filterMap Line.hashStep? =
      program.globals.map GlobalVar.hashStep ++ program.arrays.flatMap ArrayVar.hashSteps ∧
    (∃ onDemand, program.globals = program.env.globals ++ onDemand) ∧ program.arrays = program.env.arrays ∧
    (∀ v ∈ program.globals, ∃ number : Nat, v.name = globalName number) ∧
    (program.globals.map (·.name)).Nodup ∧ (program.arrays.map (·.name)).Nodup := by
  obtain ⟨origin, makes⟩ := exists_origin returned
  obtain ⟨globals, arrays, -⟩ := makes.variables_eq
  obtain ⟨before, after, items, single, start, rest, text⟩ := makes.hashes computeHash
  refine ⟨⟨before, after, start, rest, items, single, text⟩, ?_, ⟨origin.world.flow.created, ?_⟩, ?_,
    makes.globals_numbered, ?_, ?_⟩
  · apply hashLines_steps
    · intro v member
      obtain ⟨number, same⟩ := makes.globals_numbered v member
      exact same ▸ unquoted_globalName number
    · intro v member
      obtain ⟨number, -, same⟩ := (makes.sound.arrays v (arrays ▸ member)).2
      exact same ▸ unquoted_globalName number
  · rw [globals, makes.env_eq]
  · rw [arrays, makes.env_eq]
  · exact makes.names_nodup Declaration.names_of_global
  · exact makes.names_nodup Declaration.names_of_array

end

/-- The settings of a small program with an environment of two scalars and some arrays. -/
def hashSettings : Settings := { arraySettings with maxGlobals := 1 }

/-- A small program has a scalar that was created on demand, and it is hashed behind those of the
environment, before the arrays. -/
theorem generate_hashes_declared_small : ∃ program : Program,
    (generate hashSettings (.ofSeed 23 false)).result = .ok program ∧
      program.env.globals.map (·.name) = ["g_0", "g_1"] ∧
      program.globals.map (·.name) = ["g_0", "g_1", "g_14"] ∧ program.arrays.length = 12 ∧
      (Item.hash program.globals program.arrays).lines.filterMap Line.hashStep? =
        program.globals.map GlobalVar.hashStep ++ program.arrays.flatMap ArrayVar.hashSteps := by
  have declares : (generate hashSettings (.ofSeed 23 false)).result.toOption.map (fun program =>
      (program.env.globals.map (·.name), program.globals.map (·.name), program.arrays.length)) =
      some (["g_0", "g_1"], ["g_0", "g_1", "g_14"], 12) := by
    decide +kernel
  obtain ⟨program, returned, parts⟩ := exists_of_toOption_map declares
  obtain ⟨early, others⟩ := Prod.mk.inj parts
  obtain ⟨scalars, rows⟩ := Prod.mk.inj others
  exact ⟨program, returned, early, scalars, rows,
    (generate_hashes_declared (by decide : hashSettings.computeHash = true) returned).2.1⟩

end RandomC
