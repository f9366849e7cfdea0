import RandomC.Proofs.Visible

/-!
# Scope of declarations

Items other than definitions mention only what is declared for the whole file, apart from the parameters in
a prototype and the counters of loops.
-/

namespace RandomC

section

variable {setup : Setup} {flow : Flow} {before : List Item} {item : Item}
variable {above : List Line} {line : Line} {name : String} {kind : NameKind}

/-! ## Names of the whole file -/

/-- The kinds of names that are declared for the whole file. -/
def NameKind.inFile : NameKind → Bool
  | struct | union | global | function => true
  | param | returnLocal | accumulator | counter => false

/-- The items declare the name for the whole file. -/
def DeclaredIn (before : List Item) (name : String) : Prop :=
  ∃ kind, nameKind? name.toList = some kind ∧ kind.inFile ∧ name ∈ declaredOf kind before

theorem InFile.inScope (visible : InFile before item line name kind) (inFile : kind.inFile) :
    InScope before item above line name kind := by
  cases kind with
  | struct => exact visible
  | union => exact visible
  | global => exact visible
  | function => exact visible
  | _ => cases inFile

theorem DeclaredIn.inScope (declared : DeclaredIn before name) (isName : nameKind? name.toList = some kind) :
    InScope before item above line name kind := by
  rcases declared with ⟨other, same, inFile, member⟩
  rw [isName] at same
  cases same
  exact InFile.inScope (.inl member) inFile

/-- A line that declares one name and otherwise mentions visible ones. -/
theorem Item.closed_of_declaring {own : String} {first second : List String}
    (single : item.lines = [line]) (declares : item.declares kind = [own])
    (isName : nameKind? own.toList = some kind) (inFile : kind.inFile)
    (written : names line.text = first ++ own :: second)
    (others : ∀ name ∈ first ++ second, name ≠ own ∧ ∀ other, nameKind? name.toList = some other →
      InScope before item [] line name other) : item.Closed before := by
  have once : (names line.text).count own = 1 := by
    have absent : own ∉ first ++ second := fun member => (others own member).1 rfl
    rw [List.mem_append, not_or] at absent
    rw [written, List.count_append, List.count_cons_self, List.count_eq_zero_of_not_mem absent.1,
      List.count_eq_zero_of_not_mem absent.2]
  apply Item.closed_of_line single
  intro name member other isOther
  by_cases same : name = own
  · subst same
    rw [isName] at isOther
    cases isOther
    exact InFile.inScope (.inr ⟨declares, once⟩) inFile
  · have present : name ∈ first ++ second := by
      rw [written] at member
      simpa [same] using member
    exact (others name present).2 other isOther

/-- An item whose lines mention only what is declared for the whole file, and counters of loops. -/
theorem Item.closed_of_linesNamed (named : LinesNamed (DeclaredIn before) False item.lines) :
    item.Closed before := by
  intro above line below split name member kind isName
  rw [split] at named
  rcases named.line name member with declared | ⟨same, counts⟩
  · exact declared.inScope isName
  · subst same
    cases isName
    rcases counts with own | ⟨-, impossible⟩ | above
    · exact .inl own
    · exact impossible.elim
    · exact .inr above

/-! ## Variables -/

theorem names_qualified (isConst isVolatile : Bool) (text : String) :
    names (qualifierText isConst isVolatile ++ text) = names text := by
  cases isConst <;> cases isVolatile <;> simp (disch := decide) [qualifierText, names_eq_nil]

theorem names_global {v : GlobalVar} {initial : Initial} (plain : initial.Plain)
    (own : names v.name = [v.name]) :
    ∃ tail, names (Declaration.global v initial).text = names v.type.name ++ v.name :: tail ∧
      tail ⊆ names v.type.name := by
  cases initial with
  | literal value =>
      refine ⟨names v.type.name, ?_, List.Subset.refl _⟩
      have text : (Declaration.global v (.literal value)).text =
          s!"static {qualifierText v.isConst v.isVolatile}{v.type.name} {v.name} = " ++
            v.type.castText value.text ++ ";" := rfl
      simp (disch := decide) [text, String.append_assoc, names_qualified, names_castText,
        names_literal plain, own, names_eq_nil]
  | zero =>
      refine ⟨[], ?_, List.nil_subset _⟩
      have text : (Declaration.global v .zero).text =
          s!"static {qualifierText v.isConst v.isVolatile}{v.type.name} {v.name} = " ++ "0" ++ ";" := rfl
      simp (disch := decide) [text, String.append_assoc, names_qualified, own, names_eq_nil]

theorem names_array {v : ArrayVar} (own : names v.name = [v.name]) :
    names (Declaration.array v).text = names v.type.name ++ [v.name] := by
  have text : (Declaration.array v).text =
      s!"static {v.type.name} {v.name}[{v.length}] = \x7b0\x7d;" := rfl
  simp (disch := decide) [text, String.append_assoc, own, names_eq_nil]

theorem names_pointer {v : PointerVar} (own : names v.name = [v.name]) :
    names (Declaration.pointer v).text = names v.targetType.name ++ v.name :: names v.target := by
  have text : (Declaration.pointer v).text =
      s!"static {qualifierText v.constTarget v.volatileTarget}{v.targetType.name} " ++
        s!"*{qualifierText false v.isVolatile}{v.name} = &{v.target};" := rfl
  simp (disch := decide) [text, String.append_assoc, names_qualified, own, names_eq_nil]

theorem names_link {type : CType} {stars : Nat} {own target : String} (word : names own = [own]) :
    names (Declaration.link type stars own target).text = names type.name ++ own :: names target := by
  let levels := String.ofList (List.replicate stars '*')
  have quiet (rest : String) : names (levels ++ rest) = names rest :=
    names_replicate (by decide) stars rest
  have text : (Declaration.link type stars own target).text =
      s!"static {type.name} {levels}{own} = &{target};" := rfl
  simp (disch := decide) [text, String.append_assoc, quiet, word, names_eq_nil]

section

variable {number : Nat}

theorem declaredIn_global (member : globalName number ∈ declaredOf .global before) :
    DeclaredIn before (globalName number) := ⟨.global, kind_globalName number, rfl, member⟩

theorem declaredIn_function (member : functionName number ∈ declaredOf .function before) :
    DeclaredIn before (functionName number) := ⟨.function, kind_functionName number, rfl, member⟩

theorem declaredIn_composite {kind : CompositeKind}
    (member : compositeName kind number ∈ declaredOf kind.nameKind before) :
    DeclaredIn before (compositeName kind number) := by
  have inFile : kind.nameKind.inFile := by cases kind <;> rfl
  exact ⟨kind.nameKind, kind_compositeName number kind, inFile, member⟩

/-- A declaration of a global that otherwise mentions declared names. -/
theorem Item.closed_of_declaration {declaration : Declaration} {first second : List String}
    (own : declaration.names = [globalName number])
    (written : names declaration.text = first ++ globalName number :: second)
    (others : ∀ name ∈ first ++ second, name ≠ globalName number ∧ DeclaredIn before name) :
    (Item.declare declaration).Closed before := by
  have single : (Item.declare declaration).lines = [⟨0, declaration.text⟩] := rfl
  have declares : (Item.declare declaration).declares .global = [globalName number] := own
  apply Item.closed_of_declaring single declares (kind_globalName number) rfl written
  exact fun name member =>
    ⟨(others name member).1, fun _ isOther => (others name member).2.inScope isOther⟩

/-- A scalar, given that its type is named by declared names. -/
theorem Item.closed_global {v : GlobalVar} {initial : Initial} (plain : initial.Plain)
    (own : v.name = globalName number)
    (types : ∀ name ∈ names v.type.name, name ≠ globalName number ∧ DeclaredIn before name) :
    (Item.declare (.global v initial)).Closed before := by
  have word : names v.name = [v.name] := by rw [own, names_globalName]
  have named : (Declaration.global v initial).names = [globalName number] := by rw [Declaration.names, own]
  obtain ⟨tail, written, within⟩ := names_global plain word
  rw [own] at written
  apply Item.closed_of_declaration named written
  intro name member
  rcases List.mem_append.mp member with first | last
  · exact types name first
  · exact types name (within last)

theorem Item.closed_array {v : ArrayVar} (own : v.name = globalName number)
    (quiet : names v.type.name = []) : (Item.declare (.array v)).Closed before := by
  have word : names v.name = [v.name] := by rw [own, names_globalName]
  have written : names (Declaration.array v).text = [] ++ globalName number :: [] := by
    rw [names_array word, quiet, own]
  have named : (Declaration.array v).names = [globalName number] := by rw [Declaration.names, own]
  exact Item.closed_of_declaration named written nofun

/-- A declaration of a global that mentions another one. -/
theorem Item.closed_of_target {declaration : Declaration} {target : Nat} (different : target ≠ number)
    (own : declaration.names = [globalName number])
    (written : names declaration.text = [] ++ globalName number :: [globalName target])
    (member : globalName target ∈ declaredOf .global before) : (Item.declare declaration).Closed before := by
  apply Item.closed_of_declaration own written
  intro name present
  rw [List.nil_append, List.mem_singleton] at present
  subst present
  refine ⟨fun same => different ?_, declaredIn_global member⟩
  exact toString_inj (String.append_right_inj _ |>.mp same)

theorem Item.closed_pointer {v : PointerVar} {target : Nat} (different : target ≠ number)
    (own : v.name = globalName number) (points : v.target = globalName target)
    (quiet : names v.targetType.name = [])
    (member : globalName target ∈ declaredOf .global before) :
    (Item.declare (.pointer v)).Closed before := by
  have word : names v.name = [v.name] := by rw [own, names_globalName]
  have written : names (Declaration.pointer v).text = [] ++ globalName number :: [globalName target] := by
    rw [names_pointer word, quiet, own, points, names_globalName]
  have named : (Declaration.pointer v).names = [globalName number] := by rw [Declaration.names, own]
  exact Item.closed_of_target different named written member

theorem Item.closed_link {type : CType} {stars target : Nat} (different : target ≠ number)
    (quiet : names type.name = []) (member : globalName target ∈ declaredOf .global before) :
    (Item.declare (.link type stars (globalName number) (globalName target))).Closed before := by
  have written : names (Declaration.link type stars (globalName number) (globalName target)).text =
      [] ++ globalName number :: [globalName target] := by
    rw [names_link (names_globalName number), quiet, names_globalName]
  exact Item.closed_of_target different rfl written member

theorem names_declareComposite (kind : CompositeKind) :
    names (Declaration.composite kind number).text = [compositeName kind number] := by
  have written {type stem : String} (listed : stem = "gs_" ∨ stem = "gu_")
      (typeName : names type = [compositeName kind number]) :
      names ("static " ++ (type ++ (" " ++ (stem ++ toString number ++ ";")))) =
        [compositeName kind number] := by
    have variableName := names_compositeVariable number listed
    simp (disch := decide) only [names_append_left, names_append_middle, names_append_right,
      variableName, typeName, names_eq_nil, List.nil_append, List.append_nil]
  cases kind with
  | struct =>
      have text : (Declaration.composite .struct number).text = s!"static struct S{number} gs_{number};" := rfl
      have type : "static struct S" = "static " ++ "struct S" := by decide
      have variableName : " gs_" = " " ++ "gs_" := by decide
      have typeName : names ("struct S" ++ toString number) = [compositeName .struct number] :=
        names_compositeType .struct number
      have regrouped := written (.inl rfl) typeName
      rw [text, type, variableName]
      simpa only [toString_string, String.append_assoc] using regrouped
  | union =>
      have text : (Declaration.composite .union number).text = s!"static union U{number} gu_{number};" := rfl
      have type : "static union U" = "static " ++ "union U" := by decide
      have variableName : " gu_" = " " ++ "gu_" := by decide
      have typeName : names ("union U" ++ toString number) = [compositeName .union number] :=
        names_compositeType .union number
      have regrouped := written (.inr rfl) typeName
      rw [text, type, variableName]
      simpa only [toString_string, String.append_assoc] using regrouped

/-- The variable of a composite type. -/
theorem Item.closed_composite {kind : CompositeKind}
    (member : compositeName kind number ∈ declaredOf kind.nameKind before) :
    (Item.declare (.composite kind number)).Closed before := by
  apply Item.closed_of_line rfl
  intro name inLine other isOther
  have written : name ∈ names (Declaration.composite kind number).text := inLine
  rw [names_declareComposite, List.mem_singleton] at written
  subst written
  exact (declaredIn_composite member).inScope isOther

theorem Item.closed_openComposite (kind : CompositeKind) :
    (Item.openComposite kind number).Closed before := by
  have single : (Item.openComposite kind number).lines = [⟨0, (kind.type number).name ++ " \x7b"⟩] := by
    cases kind <;> rfl
  have written : names ((kind.type number).name ++ " \x7b") =
      [] ++ compositeName kind number :: [] := by
    rw [names_append_right (by decide), names_compositeType]
    rfl
  have inFile : kind.nameKind.inFile := by cases kind <;> rfl
  have declares : (Item.openComposite kind number).declares kind.nameKind = [compositeName kind number] := by
    simp [Item.declares]
  exact Item.closed_of_declaring single declares (kind_compositeName number kind) inFile written nofun

end

/-! ## Fields -/

/-- A field of scalar type or of some bits. -/
theorem Item.closed_field {f : Field} {index : Nat} (own : f.name = "f" ++ toString index)
    (quiet : ∀ type, f.kind = .scalar type → names type.name = []) : (Item.field f).Closed before := by
  have field := names_fieldName index
  rw [← own] at field
  have written : names f.text = [] := by
    unfold Field.text
    rw [names_qualified]
    split
    · rename_i type scalar
      have type := quiet type scalar
      simp (disch := decide) [String.append_assoc, names_eq_nil, field, type]
    · rename_i signed width bits
      cases signed <;> simp (disch := decide) [String.append_assoc, names_eq_nil, field]
  apply Item.closed_of_quiet
  intro line member
  rw [Item.lines, List.mem_singleton] at member
  rw [member]
  exact written

/-! ## Functions -/

/-- A prototype ahead of the definition, given that it mentions only what may be mentioned in the body. -/
theorem Item.closed_forward {signature : Signature} (sound : setup.Sound) (aligned : Aligned setup flow)
    (formed : flow.Formed setup) (member : signature ∈ flow.functions)
    (composites : ∀ (kind : CompositeKind) (index : Nat),
      index < (setup.layouts.ofKind kind).length →
        compositeName kind index ∈ declaredOf kind.nameKind before) :
    (Item.forward signature).Closed before := by
  obtain ⟨number, -, -, same⟩ := aligned.function_name member
  obtain ⟨result, params⟩ := formed.functions signature member
  have isName : nameKind? signature.name.toList = some .function := by
    rw [Signature.name, same, kind_functionName]
  have word : names signature.name = [signature.name] := by
    rw [Signature.name, same, names_functionName]
  have written : names (signature.prototype ++ ";") = names signature.result.name ++ signature.name ::
      signature.params.flatMap fun v => names v.type.name ++ names v.name := by
    rw [names_append_right (by decide), names_prototype, word]
    simp (disch := decide) [names_eq_nil]
  have type {type : CType} (known : setup.Knows type) :
      ∀ name ∈ names type.name, name ≠ signature.name ∧ ∀ other, nameKind? name.toList = some other →
        InScope before (.forward signature) [] ⟨0, signature.prototype ++ ";"⟩ name other := by
    intro name inType
    obtain ⟨kind, index, bound, rfl⟩ := known.mentions sound name inType
    constructor
    · intro equal
      rw [← equal, kind_compositeName] at isName
      cases kind <;> cases isName
    · exact fun _ isOther => (declaredIn_composite (composites kind index bound)).inScope isOther
  have single : (Item.forward signature).lines = [⟨0, signature.prototype ++ ";"⟩] := rfl
  apply Item.closed_of_declaring single rfl isName rfl written
  rw [List.forall_mem_append]
  refine ⟨type result, ?_⟩
  intro name inParams
  obtain ⟨v, declared, inText⟩ := List.mem_flatMap.mp inParams
  cases List.mem_append.mp inText with
  | inl inType => exact type (params v declared) name inType
  | inr inName =>
      obtain ⟨param, named⟩ := aligned.numbers_params member v declared
      rw [named, names_paramName, List.mem_singleton] at inName
      subst inName
      constructor
      · intro equal
        rw [← equal, kind_paramName] at isName
        cases isName
      · intro other isOther
        rw [kind_paramName] at isOther
        cases isOther
        exact ⟨v, declared, named⟩

/-! ## The end of a program -/

theorem names_hashScalar (number : Nat) :
    names s!"transparent_crc((uint64_t){globalName number}, \"{globalName number}\", print_hash_value);" =
      [globalName number, globalName number] := by
  simp (disch := decide) [String.append_assoc, names_eq_nil, names_globalName]

/-- The loop by which an array is hashed mentions its own counter and the array. -/
theorem LinesNamed.hashLoop {number : Nat} {length : Int} (member : globalName number ∈ declaredOf .global before) :
    LinesNamed (DeclaredIn before) False
      [⟨1, s!"for (int i = 0; i < {length}; i++)"⟩,
       ⟨2, s!"transparent_crc((uint64_t){globalName number}[i], \"{globalName number}[i]\", print_hash_value);"⟩] := by
  have global := declaredIn_global member
  have head : names s!"for (int i = 0; i < {length}; i++)" = ["i", "i", "i"] := by
    have frame : names "for (int i = 0; i < " = ["i", "i"] := by decide
    simp (disch := decide) [String.append_assoc, frame]
    decide
  have declares : Line.DeclaresCounter ⟨1, s!"for (int i = 0; i < {length}; i++)"⟩ := by
    have start : "for (int i = 0; i < " = "for (" ++ "int" ++ " i = 0; " ++ "i < " := by decide
    refine ⟨"int", by simp, s!"i < {length}; i++)", ?_⟩
    simp only [start, toString_string, String.append_assoc]
  have body :
      names s!"transparent_crc((uint64_t){globalName number}[i], \"{globalName number}[i]\", print_hash_value);" =
        [globalName number, "i", globalName number, "i"] := by
    have first : names "[i], \"" = ["i"] := by decide
    have second : names "[i]\", print_hash_value);" = ["i"] := by decide
    simp (disch := decide) [String.append_assoc, names_eq_nil, names_globalName, first, second]
  refine ⟨?_, ?_, .nil⟩
  · rw [head]
    simpa using .inr declares
  · rw [body]
    simpa [global] using .inr (.inr declares)

theorem Item.closed_hash {globals : List GlobalVar} {arrays : List ArrayVar}
    (scalars : ∀ v ∈ globals, ∃ number : Nat, v.name = globalName number ∧
      globalName number ∈ declaredOf .global before)
    (indexed : ∀ v ∈ arrays, ∃ number : Nat, v.name = globalName number ∧
      globalName number ∈ declaredOf .global before) : (Item.hash globals arrays).Closed before := by
  have scalarLines : LinesNamed (DeclaredIn before) False
      (globals.map fun v => ⟨1, s!"transparent_crc((uint64_t){v.name}, \"{v.name}\", print_hash_value);"⟩) := by
    apply LinesNamed.of_allowed
    rw [List.forall_mem_map]
    intro v inGlobals
    obtain ⟨number, same, declared⟩ := scalars v inGlobals
    rw [same, names_hashScalar, List.forall_mem_cons, List.forall_mem_singleton]
    exact ⟨declaredIn_global declared, declaredIn_global declared⟩
  have arrayLines : LinesNamed (DeclaredIn before) False (arrays.flatMap fun v =>
      [⟨1, s!"for (int i = 0; i < {v.length}; i++)"⟩,
       ⟨2, s!"transparent_crc((uint64_t){v.name}[i], \"{v.name}[i]\", print_hash_value);"⟩]) := by
    rw [List.flatMap_def]
    apply LinesNamed.flatten
    rw [List.forall_mem_map]
    intro v inArrays
    obtain ⟨number, same, declared⟩ := indexed v inArrays
    rw [same]
    exact .hashLoop declared
  have start : LinesNamed (DeclaredIn before) False
      [⟨0, "void csmith_compute_hash(int print_hash_value)"⟩, ⟨0, "\x7b"⟩] :=
    .quiet (by decide) (.quiet (by decide) .nil)
  have close : LinesNamed (DeclaredIn before) False [⟨0, "\x7d"⟩] := .quiet (by decide) .nil
  exact Item.closed_of_linesNamed (((start.append scalarLines).append arrayLines).append close)

theorem names_mainStart (shape : MainShape) : ∀ line ∈ mainStart shape, names line.text = [] := by
  rcases shape with ⟨acceptArgc, runtime, hash, hashPrintf⟩
  revert acceptArgc runtime hash hashPrintf
  decide

theorem names_mainEnd (shape : MainShape) : ∀ line ∈ mainEnd shape, names line.text = [] := by
  rcases shape with ⟨acceptArgc, runtime, hash, hashPrintf⟩
  revert acceptArgc runtime hash hashPrintf
  decide

theorem Item.closed_main {shape : MainShape} {entry : Signature} {number : Nat}
    (own : entry.number = number) (member : functionName number ∈ declaredOf .function before) :
    (Item.main shape entry).Closed before := by
  have quiet {lines : List Line} (none : ∀ line ∈ lines, names line.text = []) :
      LinesNamed (DeclaredIn before) False lines := by
    apply LinesNamed.of_allowed
    intro line member
    rw [none line member]
    exact nofun
  have written : names s!"(void){entry.name}();" = [functionName number] := by
    have word : names entry.name = [functionName number] := by
      rw [Signature.name, own, names_functionName]
    simp (disch := decide) [String.append_assoc, names_eq_nil, word]
  have call : LinesNamed (DeclaredIn before) False (⟨1, s!"(void){entry.name}();"⟩ :: mainEnd shape) := by
    apply LinesNamed.cons
    · rw [written, List.forall_mem_singleton]
      exact declaredIn_function member
    · exact quiet (names_mainEnd shape)
  exact Item.closed_of_linesNamed ((quiet (names_mainStart shape)).append call)

end

end RandomC
