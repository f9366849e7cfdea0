import RandomC.Proofs.Scope

/-!
# Names in bodies

Which names the lines of statements and definitions contain.  Besides those that expressions may contain,
there are the accumulator and the return local, which the definition declares in its first lines, and the
counter, which only the head of a loop and the line after it mention.
-/

namespace RandomC

/-- Every name in the lines is allowed, or it is the counter of a loop, in the head of the loop or the line
after it.  `inHead` says that the line before the first one is such a head. -/
def LinesNamed (allowed : String → Prop) : (inHead : Prop) → List Line → Prop
  | _, [] => True
  | inHead, line :: rest =>
      (∀ name ∈ names line.text, allowed name ∨ name = "i" ∧ (line.DeclaresCounter ∨ inHead)) ∧
        LinesNamed allowed line.DeclaresCounter rest

section

variable {allowed : String → Prop} {inHead : Prop} {first second : List Line}

theorem LinesNamed.weaken (named : LinesNamed allowed False first) : LinesNamed allowed inHead first := by
  cases first with
  | nil => trivial
  | cons line rest =>
      refine ⟨?_, named.2⟩
      intro name member
      rcases named.1 name member with inScope | ⟨same, head | impossible⟩
      · exact .inl inScope
      · exact .inr ⟨same, .inl head⟩
      · exact impossible.elim

theorem LinesNamed.append (named : LinesNamed allowed inHead first)
    (rest : LinesNamed allowed False second) : LinesNamed allowed inHead (first ++ second) := by
  induction first generalizing inHead with
  | nil => exact rest.weaken
  | cons line lines ih => exact ⟨named.1, ih named.2⟩

theorem LinesNamed.nil : LinesNamed allowed inHead [] := trivial

/-- A line that does not mention the counter. -/
theorem LinesNamed.cons {line : Line} (visible : ∀ name ∈ names line.text, allowed name)
    (rest : LinesNamed allowed False first) : LinesNamed allowed inHead (line :: first) :=
  ⟨fun name member => .inl (visible name member), rest.weaken⟩

/-- A line without names. -/
theorem LinesNamed.quiet {line : Line} (none : names line.text = [])
    (rest : LinesNamed allowed False first) : LinesNamed allowed inHead (line :: first) :=
  .cons (by simp [none]) rest

/-- Lines that do not mention the counter. -/
theorem LinesNamed.of_allowed (all : ∀ line ∈ first, ∀ name ∈ names line.text, allowed name) :
    LinesNamed allowed inHead first := by
  induction first generalizing inHead with
  | nil => trivial
  | cons line lines ih =>
      apply LinesNamed.cons
      · exact all line (by simp)
      · exact ih fun other member => all other (List.mem_cons_of_mem _ member)

/-- Groups of lines, none of which ends in the head of a loop. -/
theorem LinesNamed.flatten {groups : List (List Line)} (each : ∀ lines ∈ groups, LinesNamed allowed False lines) :
    LinesNamed allowed False groups.flatten := by
  induction groups with
  | nil => trivial
  | cons lines rest ih =>
      obtain ⟨first, others⟩ := List.forall_mem_cons.mp each
      exact first.append (ih others)

theorem linesOf_eq (block : Block) : linesOf block = (block.map Statement.lines).flatten := by
  induction block with
  | nil => rfl
  | cons statement rest ih => rw [linesOf, ih, List.map_cons, List.flatten_cons]

theorem LinesNamed.block {block : Block}
    (each : ∀ statement ∈ block, LinesNamed allowed False statement.lines) :
    LinesNamed allowed False (linesOf block) := by
  rw [linesOf_eq]
  exact .flatten (List.forall_mem_map.mpr each)

/-- What holds of a line in the midst of others. -/
theorem LinesNamed.line {above below : List Line} {line : Line}
    (named : LinesNamed allowed inHead (above ++ line :: below)) :
    ∀ name ∈ names line.text, allowed name ∨ name = "i" ∧
      (line.DeclaresCounter ∨ (above = [] ∧ inHead) ∨
        ∃ head, above.getLast? = some head ∧ head.DeclaresCounter) := by
  induction above generalizing inHead with
  | nil =>
      intro name member
      rcases named.1 name member with inScope | ⟨same, head | inHead⟩
      · exact .inl inScope
      · exact .inr ⟨same, .inl head⟩
      · exact .inr ⟨same, .inr (.inl ⟨rfl, inHead⟩)⟩
  | cons head rest ih =>
      intro name member
      rcases ih named.2 name member with inScope | ⟨same, own | ⟨rfl, declares⟩ | ⟨last, found, declares⟩⟩
      · exact .inl inScope
      · exact .inr ⟨same, .inl own⟩
      · exact .inr ⟨same, .inr (.inr ⟨head, rfl, declares⟩)⟩
      · refine .inr ⟨same, .inr (.inr ⟨last, ?_, declares⟩)⟩
        rw [List.getLast?_cons, found]
        rfl

end

/-! ## Statements -/

theorem names_condition_bits (mask : Nat) : names (Condition.bits mask).text = ["x"] := by
  have frame : names "((x & " = ["x"] := by decide
  simp (disch := decide) [Condition.text, String.append_assoc, names_eq_nil, frame]

theorem names_condition_constant {value : Literal} (plain : value.Plain) :
    names (Condition.constant value).text = [] := by
  have word : names CType.uint32.name = [] := by decide
  simp (disch := decide) [Condition.text, String.append_assoc, names_castText, names_literal plain, word,
    names_eq_nil]

theorem names_condition_nonzero (value : Expr) :
    names (Condition.nonzero value).text = names value.text := by
  simp (disch := decide) [Condition.text, String.append_assoc, names_eq_nil]

theorem checked_frame : ∀ bits ∈ ([8, 16, 32, 64] : List Int),
    (endsOpen s!"safe_add_func_int{bits}_t_s_s(" = false ∧
      names s!"safe_add_func_int{bits}_t_s_s(" = []) ∧
    endsOpen s!"safe_add_func_uint{bits}_t_u_u(" = false ∧
      names s!"safe_add_func_uint{bits}_t_u_u(" = [] := by
  decide

/-- The sum of two operands mentions no names but theirs. -/
theorem names_addition (type : CType) (left right : String) (addition : Addition) :
    names (addition.text type left right) = names left ++ names right := by
  cases addition with
  | operator => simp (disch := decide) [Addition.text, String.append_assoc, names_eq_nil]
  | checked =>
      have offered : (if [8, 16, 32, 64].contains type.bits then type.bits else 32) ∈
          ([8, 16, 32, 64] : List Int) := by
        split
        · rename_i known
          exact List.contains_iff_mem.mp known
        · decide
      simp only [Addition.text]
      generalize (if [8, 16, 32, 64].contains type.bits then type.bits else 32) = bits at offered ⊢
      obtain ⟨signed, unsigned⟩ := checked_frame bits offered
      have call {frame : String} (closed : endsOpen frame = false) (quiet : names frame = []) :
          names (frame ++ (left ++ (", " ++ (right ++ ")")))) = names left ++ names right := by
        rw [names_append_left closed, quiet]
        simp (disch := decide) [names_eq_nil]
      split
      · have frame := call signed.1 signed.2
        simpa [String.append_assoc] using frame
      · have frame := call unsigned.1 unsigned.2
        simpa [String.append_assoc] using frame

/-! The lines of each kind of statement. -/

section

variable {allowed : String → Prop}

/-- An assignment to the accumulator mentions what its right side mentions. -/
theorem LinesNamed.assign {compound : Bool} {value : Expr} (mixed : allowed accumulator)
    (visible : ∀ name ∈ names value.text, allowed name) :
    LinesNamed allowed False (Statement.assign (.named accumulator) none compound value).lines := by
  have written : names (Place.named accumulator).text = [accumulator] := by decide
  have mixes : names s!"x ^= (uint32_t){(Place.named accumulator).text};" = [accumulator, accumulator] := by
    decide
  have line : names ((Place.named accumulator).text ++ (if compound then " += " else " = ") ++
      value.text ++ ";") = accumulator :: names value.text := by
    cases compound <;>
      simp (disch := decide) [String.append_assoc, names_eq_nil, written]
  apply LinesNamed.cons
  · rw [line, List.forall_mem_cons]
    exact ⟨mixed, visible⟩
  · apply LinesNamed.cons _ .nil
    rw [mixes]
    simpa using mixed

/-- A branching mentions what its condition and its two blocks mention. -/
theorem LinesNamed.ifElse {condition : Condition} {yes no : Block}
    (visible : ∀ name ∈ names condition.text, allowed name)
    (yesNamed : ∀ statement ∈ yes, LinesNamed allowed False statement.lines)
    (noNamed : ∀ statement ∈ no, LinesNamed allowed False statement.lines) :
    LinesNamed allowed False (Statement.ifElse condition yes no).lines := by
  have head : names s!"if {condition.text} \x7b" = names condition.text := by
    simp (disch := decide) [String.append_assoc, names_eq_nil]
  have yesLines : LinesNamed allowed False (⟨1, s!"if {condition.text} \x7b"⟩ :: linesOf yes) := by
    apply LinesNamed.cons
    · rw [head]
      exact visible
    · exact .block yesNamed
  have noLines : LinesNamed allowed False (⟨1, "\x7d else \x7b"⟩ :: linesOf no) :=
    .quiet (by decide) (.block noNamed)
  exact (yesLines.append noLines).append (.quiet (by decide) .nil)

/-- The head of a loop declares the counter. -/
theorem declaresCounter_head (bound : Nat) :
    Line.DeclaresCounter ⟨1, s!"for (uint32_t i = 0; i < {bound}u; ++i) \x7b"⟩ := by
  have start : "for (uint32_t i = 0; i < " = "for (" ++ "uint32_t" ++ " i = 0; " ++ "i < " := rfl
  refine ⟨"uint32_t", by simp, s!"i < {bound}u; ++i) \x7b", ?_⟩
  simp only [start, toString_string, String.append_assoc]

/-- A loop mentions the counter in its head and in the line after it, and what its body mentions. -/
theorem LinesNamed.loop {bound : Nat} {body : Block} (mixed : allowed accumulator)
    (bodyNamed : ∀ statement ∈ body, LinesNamed allowed False statement.lines) :
    LinesNamed allowed False (Statement.loop bound body).lines := by
  have head : names s!"for (uint32_t i = 0; i < {bound}u; ++i) \x7b" = ["i", "i", "i"] := by
    have frame : names "for (uint32_t i = 0; i < " = ["i", "i"] := by decide
    simp (disch := decide) [String.append_assoc, frame]
    decide
  have next : names "x += (i ^ 0x00000000u);" = [accumulator, "i"] := by decide
  have rest : LinesNamed allowed False (linesOf body ++ [⟨1, "\x7d"⟩]) :=
    (LinesNamed.block bodyNamed).append (.quiet (by decide) .nil)
  refine ⟨?_, ?_, rest.weaken⟩
  · rw [head]
    simpa using .inr (declaresCounter_head bound)
  · rw [next, List.forall_mem_cons, List.forall_mem_singleton]
    exact ⟨.inl mixed, .inr ⟨rfl, .inr (declaresCounter_head bound)⟩⟩

/-- A return mentions the return local and the accumulator that is mixed into it. -/
theorem LinesNamed.leave {number : Nat} (mixed : allowed accumulator)
    (result : allowed (localName number)) :
    LinesNamed allowed False (Statement.leave (localName number)).lines := by
  have mixes : names s!"{localName number} ^= (uint32_t)x;" = [localName number, accumulator] := by
    have frame : names " ^= (uint32_t)x;" = [accumulator] := by decide
    simp (disch := decide) [names_localName, frame]
  have returns : names s!"return {localName number};" = [localName number] := by
    simp (disch := decide) [String.append_assoc, names_localName, names_eq_nil]
  apply LinesNamed.cons
  · rw [mixes, List.forall_mem_cons, List.forall_mem_singleton]
    exact ⟨result, mixed⟩
  · apply LinesNamed.cons _ .nil
    rw [returns, List.forall_mem_singleton]
    exact result

/-- An update of an array element mentions the array, the accumulator in its index and what its right side
mentions. -/
theorem LinesNamed.updateElement {id : Nat} {mask : Int} {type : CType} {value : Expr} {increment : Option Addition}
    (unnamed : names type.name = []) (mixed : allowed accumulator) (array : allowed (globalName id))
    (visible : ∀ name ∈ names value.text, allowed name) :
    LinesNamed allowed False (Statement.updateElement (globalName id) type mask value increment).lines := by
  let element := Place.masked (globalName id) mask
  have place : ∀ name ∈ names element.text, allowed name := by
    rw [names_masked, names_globalName]
    simpa using ⟨array, mixed⟩
  have update : names s!"{element.text} ^= {value.text};" = names element.text ++ names value.text := by
    simp (disch := decide) [String.append_assoc, names_eq_nil]
  apply LinesNamed.cons
  · rw [update, List.forall_mem_append]
    exact ⟨place, visible⟩
  · cases increment with
    | none => exact .nil
    | some addition =>
        have one : names (type.castText "1u") = [] := by
          rw [names_castText, unnamed]
          decide
        have sum : names ("x = (" ++ element.text ++ " = " ++
            addition.text type element.text (type.castText "1u") ++ ");") =
            accumulator :: (names element.text ++ names element.text) := by
          have frame : names "x = (" = [accumulator] := by decide
          simp (disch := decide) [String.append_assoc, names_eq_nil, names_addition, one, frame]
        apply LinesNamed.cons _ .nil
        rw [sum, List.forall_mem_cons, List.forall_mem_append]
        exact ⟨mixed, place, place⟩

end

section

variable {setup : Setup} {caller number : Nat} {params : List Variable} {returnLocal : String}
variable {flow : Flow}

/-- The names that the lines of a body may contain anywhere. -/
def InBody (setup : Setup) (params : List Variable) (returnLocal : String) (flow : Flow)
    (name : String) : Prop :=
  Named setup params flow name ∨ name = accumulator ∨ name = returnLocal

theorem Condition.Formed.named {condition : Condition} (sound : setup.Sound)
    (aligned : Aligned setup flow) (numbers : Numbers params)
    (formed : condition.Formed setup caller params flow) :
    ∀ name ∈ names condition.text, InBody setup params returnLocal flow name := by
  cases formed with
  | bits =>
      rw [names_condition_bits, List.forall_mem_singleton]
      exact .inr (.inl rfl)
  | constant plain =>
      rw [names_condition_constant plain]
      exact nofun
  | nonzero same formed =>
      rw [names_condition_nonzero]
      exact fun name member => .inl (formed.named sound aligned numbers name member)

/-- A well-formed statement contains no names but those in scope. -/
theorem Statement.Formed.named {statement : Statement} (sound : setup.Sound)
    (aligned : Aligned setup flow) (numbers : Numbers params) (own : returnLocal = localName number)
    (formed : statement.Formed setup caller params returnLocal flow) :
    LinesNamed (InBody setup params returnLocal flow) False statement.lines := by
  have mixed : InBody setup params returnLocal flow accumulator := .inr (.inl rfl)
  have value {expr : Expr} (formed : expr.Formed setup caller params flow) :
      ∀ name ∈ names expr.text, InBody setup params returnLocal flow name :=
    fun name member => .inl (formed.named sound aligned numbers name member)
  induction formed with
  | assign same formed => exact .assign mixed (value formed)
  | ifElse formed _ _ yesNamed noNamed => exact .ifElse (formed.named sound aligned numbers) yesNamed noNamed
  | loop _ bodyNamed => exact .loop mixed bodyNamed
  | leave =>
      have result : InBody setup params returnLocal flow (localName number) := .inr (.inr own.symm)
      have lines := LinesNamed.leave mixed result
      rwa [← own] at lines
  | nextRound => exact .quiet (by decide) .nil
  | leaveLoop => exact .quiet (by decide) .nil
  | @updateElement v expr increment member same formed =>
      obtain ⟨known, numbered⟩ := sound.arrays v member
      obtain ⟨id, bound, named⟩ := numbered.named aligned
      have array : InBody setup params returnLocal flow (globalName id) := .inl (.global bound)
      rw [named]
      exact .updateElement (sound.scalars v.type known) mixed array (value formed)
  | filler =>
      have written : names "x ^= 0u;" = [accumulator] := by decide
      exact .cons (by simpa [written] using mixed) .nil

/-! ## Signatures -/

theorem names_paramText (params : List Variable) :
    names (paramText params) = params.flatMap fun v => names v.type.name ++ names v.name := by
  unfold paramText
  split
  · rename_i none
    rw [List.isEmpty_iff.mp none]
    decide
  · rw [names_intercalate, List.flatMap_map]
    congr
    funext v
    simp (disch := decide) [String.append_assoc, names_eq_nil]

theorem names_prototype (signature : Signature) :
    names signature.prototype = names signature.result.name ++ (names signature.name ++
      signature.params.flatMap fun v => names v.type.name ++ names v.name) := by
  simp (disch := decide) [Signature.prototype, prototypeText, String.append_assoc, names_paramText,
    names_eq_nil]

/-- The parameters of every function have numbers. -/
theorem Aligned.numbers_params (aligned : Aligned setup flow) {signature : Signature}
    (member : signature ∈ flow.functions) : Numbers signature.params := by
  intro v inParams
  have present : v.name ∈ (flow.functions.flatMap (·.params)).map (·.name) :=
    List.mem_map_of_mem (List.mem_flatMap.mpr ⟨signature, member, inParams⟩)
  rw [aligned.params] at present
  obtain ⟨number, -, same⟩ := List.mem_map.mp present
  exact ⟨number, same.symm⟩

/-- A prototype contains no names but those in scope in the body. -/
theorem Signature.named {signature : Signature} (sound : setup.Sound) (aligned : Aligned setup flow)
    (formed : flow.Formed setup) (member : signature ∈ flow.functions) :
    ∀ name ∈ names signature.prototype, Named setup signature.params flow name := by
  obtain ⟨result, params⟩ := formed.functions signature member
  rw [names_prototype, List.forall_mem_append, List.forall_mem_append]
  refine ⟨result.named sound, ?_, ?_⟩
  · obtain ⟨number, -, -, same⟩ := aligned.function_name member
    have written : names signature.name = [signature.name] := by
      rw [Signature.name, same, names_functionName]
    rw [written, List.forall_mem_singleton]
    exact .function member
  · intro name written
    obtain ⟨v, inParams, inText⟩ := List.mem_flatMap.mp written
    rcases List.mem_append.mp inText with inType | inName
    · exact (params v inParams).named sound name inType
    · obtain ⟨number, same⟩ := aligned.numbers_params member v inParams
      rw [same, names_paramName, List.mem_singleton] at inName
      rw [inName, ← same]
      exact .param inParams

end

end RandomC
