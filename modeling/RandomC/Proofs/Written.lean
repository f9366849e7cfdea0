import RandomC.Proofs.Definition
import RandomC.Proofs.Names

/-!
# Names in written code

The names in the text of a tree are those of its parts: the types that terms are cast to, the places that
are read and assigned, the functions that are called, and what the frame of a statement or a definition
mentions.
-/

namespace RandomC

/-! ## Expressions -/

theorem names_castText (type : CType) (text : String) :
    names (type.castText text) = names type.name ++ names text := by
  simp (disch := decide) [String.append_assoc, CType.castText, names_eq_nil]

theorem isWordChar_hexDigit (value : Nat) (bound : value < 16) : isWordChar (Text.hexDigit value) := by
  revert value
  decide

theorem isWordChar_of_mem_hexDigits {width value : Nat} {c : Char}
    (member : c ∈ Text.hexDigits width value) : isWordChar c := by
  induction width generalizing value with
  | zero => cases member
  | succ width ih =>
      simp only [Text.hexDigits, List.mem_append, List.mem_singleton] at member
      rcases member with earlier | last
      · exact ih earlier
      · rw [last]
        exact isWordChar_hexDigit _ (Nat.mod_lt _ (by decide))

/-- A literal is a single word. -/
theorem isWordChar_of_mem_literal {value : Literal} (plain : value.Plain) :
    ∀ c ∈ value.text.toList, isWordChar c := by
  have start : "0x".toList.all isWordChar = true := by decide
  have suffixes : literalSuffixes.all (·.toList.all isWordChar) = true := by decide
  intro c member
  simp only [Literal.text, Text.hex, String.toList_append, String.toList_ofList, List.mem_append] at member
  rcases member with (lead | digit) | last
  · exact List.all_eq_true.mp start c lead
  · exact isWordChar_of_mem_hexDigits digit
  · exact List.all_eq_true.mp (List.all_eq_true.mp suffixes value.suffix plain) c last

/-- A literal is no name. -/
theorem names_literal {value : Literal} (plain : value.Plain) : names value.text = [] := by
  rw [names_word (isWordChar_of_mem_literal plain)]
  simp [Literal.text, nameKind?]

theorem names_target (pointer : String) : names (Place.target pointer).text = names pointer := by
  simp (disch := decide) [Place.text, names_eq_nil]

theorem names_element (array : String) (index : Nat) :
    names (Place.element array index).text = names array := by
  simp (disch := decide) [String.append_assoc, Place.text, names_eq_nil]

theorem names_masked (array : String) (mask : Int) :
    names (Place.masked array mask).text = names array ++ ["x"] := by
  have frame : names "[x & " = ["x"] := by decide
  simp (disch := decide) [String.append_assoc, Place.text, names_eq_nil, frame]

theorem names_call (type : CType) (callee : Int) (arguments : List Expr) :
    names (Expr.call type callee arguments).text =
      names type.name ++ (names (functionName callee) ++ (Expr.texts arguments).flatMap names) := by
  simp (disch := decide) [String.append_assoc, Expr.text, names_castText, names_intercalate, names_eq_nil]

theorem names_assign (type : CType) (place : Place) (value : Expr) :
    names (Expr.assign type place value).text =
      names type.name ++ (names place.text ++ names value.text) := by
  simp (disch := decide) [String.append_assoc, Expr.text, names_castText, names_eq_nil]

theorem names_comma (type : CType) (left right : Expr) :
    names (Expr.comma type left right).text =
      names type.name ++ (names left.text ++ names right.text) := by
  simp (disch := decide) [String.append_assoc, Expr.text, names_castText, names_eq_nil]

theorem names_complement (type : CType) (operand : Expr) :
    names (Expr.complement type operand).text = names type.name ++ names operand.text := by
  simp (disch := decide) [String.append_assoc, Expr.text, names_castText, names_eq_nil]

theorem names_xor (type : CType) (left right : Expr) :
    names (Expr.xor type left right).text =
      names type.name ++ (names left.text ++ names right.text) := by
  simp (disch := decide) [String.append_assoc, Expr.text, names_castText, names_eq_nil]

/-- A composite type of a program. -/
def CompositeKind.type : CompositeKind → Int → CType
  | struct => CType.struct
  | union => CType.union

/-- The word that stands before the name of a composite type. -/
def CompositeKind.keyword : CompositeKind → String
  | struct => "struct "
  | union => "union "

theorem compositeType_name (kind : CompositeKind) (index : Nat) :
    (kind.type index).name = kind.keyword ++ compositeName kind index := by
  cases kind <;> rfl

theorem names_compositeType (kind : CompositeKind) (index : Nat) :
    names (kind.type index).name = [compositeName kind index] := by
  have closed : endsOpen kind.keyword = false := by cases kind <;> decide
  have frame : names kind.keyword = [] := by cases kind <;> decide
  rw [compositeType_name, names_append_left closed, frame, names_compositeName, List.nil_append]

/-! ## Names in scope -/

/-- The name is that of a variable of the environment. -/
def Environment.Names (env : Environment) (name : String) : Prop :=
  ∃ number : Nat, (number : Int) < env.nextId ∧ name = globalName number

/-- The variables of an environment are of scalar types and have numbers. -/
structure Environment.Sound (scalars : List CType) (env : Environment) : Prop where
  globals : ∀ v ∈ env.globals, v.type ∈ scalars ∧ env.Names v.name
  arrays : ∀ v ∈ env.arrays, v.type ∈ scalars ∧ env.Names v.name
  pointers : ∀ v ∈ env.pointers, v.targetType ∈ scalars ∧ env.Names v.name

/-- The setup of a program: its scalar types are named without reference to others, and the variables of its
environment are numbered. -/
structure Setup.Sound (setup : Setup) : Prop extends setup.env.Sound setup.scalars where
  nextId : 0 ≤ setup.env.nextId
  scalars : ∀ type ∈ setup.scalars, names type.name = []

/-- The composite types of one kind. -/
def Layouts.ofKind (layouts : Layouts) : CompositeKind → List (Array Field)
  | .struct => layouts.structs
  | .union => layouts.unions

/-- The names that expressions may contain in the body of a function with the given parameters. -/
inductive Named (setup : Setup) (params : List Variable) (flow : Flow) : String → Prop where
  | composite {kind : CompositeKind} {index : Nat} (bound : index < (setup.layouts.ofKind kind).length) :
      Named setup params flow (compositeName kind index)
  | global {number : Nat} (bound : (number : Int) < flow.nextGlobal) :
      Named setup params flow (globalName number)
  | function {signature : Signature} (member : signature ∈ flow.functions) :
      Named setup params flow signature.name
  | param {v : Variable} (member : v ∈ params) : Named setup params flow v.name

section

variable {setup : Setup} {caller : Nat} {params : List Variable} {flow : Flow}

/-- Known types are named without reference to others, or they are composite types that exist. -/
theorem Setup.Knows.mentions {type : CType} (sound : setup.Sound) (known : setup.Knows type) :
    ∀ name ∈ names type.name, ∃ (kind : CompositeKind) (index : Nat),
      index < (setup.layouts.ofKind kind).length ∧ name = compositeName kind index := by
  have quiet {type : CType} (none : names type.name = []) :
      ∀ name ∈ names type.name, ∃ (kind : CompositeKind) (index : Nat),
        index < (setup.layouts.ofKind kind).length ∧ name = compositeName kind index := by simp [none]
  have composite {kind : CompositeKind} {index : Nat}
      (bound : index < (setup.layouts.ofKind kind).length) :
      ∀ name ∈ names (kind.type index).name, ∃ (kind : CompositeKind) (index : Nat),
        index < (setup.layouts.ofKind kind).length ∧ name = compositeName kind index := by
    rw [names_compositeType, List.forall_mem_singleton]
    exact ⟨kind, index, bound, rfl⟩
  cases known with
  | uint32 => exact quiet (by decide)
  | scalar member => exact quiet (sound.scalars type member)
  | struct bound => exact @composite .struct _ bound
  | union bound => exact @composite .union _ bound
  | global member => exact quiet (sound.scalars _ (sound.globals _ member).1)
  | array member => exact quiet (sound.scalars _ (sound.arrays _ member).1)

theorem Setup.Knows.named {type : CType} (sound : setup.Sound) (known : setup.Knows type) :
    ∀ name ∈ names type.name, Named setup params flow name := by
  intro name member
  obtain ⟨kind, index, bound, rfl⟩ := known.mentions sound name member
  exact .composite bound

/-- The function at an index has the name of its number. -/
theorem Aligned.function_name (aligned : Aligned setup flow) {signature : Signature}
    (member : signature ∈ flow.functions) :
    ∃ number : Nat, 1 ≤ number ∧ number ≤ flow.functions.length ∧ signature.number = number := by
  obtain ⟨index, found⟩ := List.getElem?_of_mem member
  have bound := (List.getElem?_eq_some_iff.mp found).1
  exact ⟨index + 1, by omega, bound, aligned.number found⟩

/-- A created global has a number of its own, after those of the environment. -/
theorem Aligned.created_name (aligned : Aligned setup flow) (sound : setup.Sound) {v : GlobalVar}
    (member : v ∈ flow.created) :
    ∃ number : Nat, (number : Int) < flow.nextGlobal ∧ v.name = globalName number := by
  have present : v.name ∈ flow.created.map (·.name) := List.mem_map_of_mem member
  rw [aligned.created] at present
  obtain ⟨count, bound, same⟩ := List.mem_map.mp present
  have within := List.mem_range.mp bound
  have first := sound.nextId
  have next := aligned.nextGlobal
  refine ⟨setup.env.nextId.toNat + count, by omega, ?_⟩
  rw [← same]
  congr 1
  omega

theorem Environment.Names.named (aligned : Aligned setup flow) {name : String}
    (holds : setup.env.Names name) :
    ∃ number : Nat, (number : Int) < flow.nextGlobal ∧ name = globalName number := by
  rcases holds with ⟨number, bound, same⟩
  have next := aligned.nextGlobal
  exact ⟨number, by omega, same⟩

/-- The parameters of a function have numbers. -/
def Numbers (params : List Variable) : Prop := ∀ v ∈ params, ∃ number : Nat, v.name = paramName number

theorem Offered.named {candidate : Candidate} (sound : setup.Sound) (aligned : Aligned setup flow)
    (numbers : Numbers params) (offered : Offered setup params flow candidate) :
    ∀ name ∈ names candidate.place.text, Named setup params flow name := by
  have global {name : String}
      (numbered : ∃ number : Nat, (number : Int) < flow.nextGlobal ∧ name = globalName number) :
      ∀ other ∈ names name, Named setup params flow other := by
    rcases numbered with ⟨number, bound, rfl⟩
    simpa [names_globalName] using Named.global bound
  cases offered with
  | global member =>
      obtain ⟨v, present, rfl⟩ := aligned.exists_candidate member
      rcases List.mem_append.mp present with early | late
      · exact global ((sound.globals v early).2.named aligned)
      · exact global (aligned.created_name sound late)
  | @param v member =>
      obtain ⟨number, same⟩ := numbers v member
      intro name written
      simp only [Variable.candidate, Place.text, same, names_paramName, List.mem_singleton] at written
      rw [written, ← same]
      exact .param member
  | target member =>
      rw [PointerVar.candidate, names_target]
      exact global ((sound.pointers _ member).2.named aligned)
  | element member bound =>
      rw [names_element]
      exact global ((sound.arrays _ member).2.named aligned)

theorem mem_texts {text : String} {exprs : List Expr} :
    text ∈ Expr.texts exprs ↔ ∃ expr ∈ exprs, expr.text = text := by
  induction exprs with
  | nil => simp [Expr.texts]
  | cons expr rest ih => simp [Expr.texts, ih, eq_comm]

/-- A well-formed expression contains no names but those in scope. -/
theorem Expr.Formed.named {expr : Expr} (sound : setup.Sound) (aligned : Aligned setup flow)
    (numbers : Numbers params) (formed : expr.Formed setup caller params flow) :
    ∀ name ∈ names expr.text, Named setup params flow name := by
  induction formed with
  | literal known plain =>
      rw [Expr.text, names_castText, names_literal plain, List.append_nil]
      exact known.named sound
  | read known offered =>
      rw [Expr.text, names_castText, List.forall_mem_append]
      exact ⟨known.named sound, offered.named sound aligned numbers⟩
  | @call type index callee arguments known later found types formed ih =>
      have member := List.mem_of_getElem? found
      rw [names_call, List.forall_mem_append, List.forall_mem_append]
      refine ⟨known.named sound, ?_, ?_⟩
      · obtain ⟨number, -, -, same⟩ := aligned.function_name member
        intro name written
        rw [same, names_functionName, List.mem_singleton] at written
        rw [written, ← same]
        exact .function member
      · intro name written
        obtain ⟨text, inTexts, inText⟩ := List.mem_flatMap.mp written
        obtain ⟨argument, inArguments, rfl⟩ := mem_texts.mp inTexts
        exact ih argument inArguments name inText
  | assign known offered assignable same formed ih =>
      rw [names_assign, List.forall_mem_append, List.forall_mem_append]
      exact ⟨known.named sound, offered.named sound aligned numbers, ih⟩
  | comma known same leftFormed rightFormed left right =>
      rw [names_comma, List.forall_mem_append, List.forall_mem_append]
      exact ⟨known.named sound, left, right⟩
  | complement known same formed ih =>
      rw [names_complement, List.forall_mem_append]
      exact ⟨known.named sound, ih⟩
  | xor known leftSame rightSame leftFormed rightFormed left right =>
      rw [names_xor, List.forall_mem_append, List.forall_mem_append]
      exact ⟨known.named sound, left, right⟩

end

end RandomC
