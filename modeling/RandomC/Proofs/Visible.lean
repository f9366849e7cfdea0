import RandomC.Proofs.Body

/-!
# Scope in definitions

A definition is closed when the composite types, globals and functions that its body may refer to have been
declared before: `Declared` collects what that is.  Everything else it declares in its own first lines.
-/

namespace RandomC

/-- The items declare everything that bodies may refer to. -/
structure Declared (setup : Setup) (flow : Flow) (before : List Item) : Prop where
  composites : ∀ (kind : CompositeKind) (index : Nat),
    index < (setup.layouts.ofKind kind).length → compositeName kind index ∈ declaredOf kind.nameKind before
  globals : ∀ number : Nat, (number : Int) < flow.nextGlobal →
    globalName number ∈ declaredOf .global before
  functions : ∀ signature ∈ flow.functions, signature.name ∈ declaredOf .function before

section

variable {setup : Setup} {caller : Nat} {flow : Flow} {before : List Item} {item : Item}
variable {above : List Line} {line : Line} {name : String} {kind : NameKind}

theorem Named.inScope (declared : Declared setup flow before) (aligned : Aligned setup flow)
    (numbers : Numbers item.params) (named : Named setup item.params flow name)
    (isName : nameKind? name.toList = some kind) : InScope before item above line name kind := by
  cases named with
  | @composite which index bound =>
      have member := declared.composites which index bound
      rw [kind_compositeName] at isName
      cases which with
      | struct =>
          cases isName
          exact .inl member
      | union =>
          cases isName
          exact .inl member
  | @global number bound =>
      rw [kind_globalName] at isName
      cases isName
      exact .inl (declared.globals number bound)
  | @function signature member =>
      obtain ⟨number, -, -, same⟩ := aligned.function_name member
      rw [Signature.name, same, kind_functionName] at isName
      cases isName
      exact .inl (declared.functions signature member)
  | @param v member =>
      obtain ⟨number, same⟩ := numbers v member
      rw [same, kind_paramName] at isName
      cases isName
      exact ⟨v, member, rfl⟩

/-! ## Definitions -/

theorem Definition.resultLine_declares (definition : Definition) :
    definition.resultLine.Declares definition.signature.result.name definition.returnLocal :=
  ⟨definition.signature.result.castText "0u" ++ ";", by simp [resultLine, String.append_assoc]⟩

theorem Definition.accumulatorLine_declares (definition : Definition) :
    definition.accumulatorLine.Declares "uint32_t" accumulator := by
  have start : "uint32_t" ++ " " ++ accumulator ++ " = " = "uint32_t x = " := rfl
  unfold Definition.accumulatorLine Line.Declares
  rw [start]
  cases definition.seeds with
  | none => exact ⟨"0u;", rfl⟩
  | some seeds =>
      have more : "uint32_t x = ((uint32_t)" = "uint32_t x = " ++ "((uint32_t)" := rfl
      exact ⟨s!"((uint32_t){seeds.1}) + ((uint32_t){seeds.2});", by
        simp only [more, toString_string, String.append_assoc]⟩

/-- The line that declares the return local mentions nothing else that is declared in the body. -/
theorem Definition.resultLine_named {definition : Definition} {number : Nat} (sound : setup.Sound)
    (known : setup.Knows definition.signature.result) (own : definition.returnLocal = localName number) :
    ∀ name ∈ names definition.resultLine.text,
      Named setup definition.signature.params flow name ∨ name = definition.returnLocal := by
  have written : names definition.resultLine.text =
      names definition.signature.result.name ++ (definition.returnLocal ::
        names definition.signature.result.name) := by
    simp (disch := decide) [resultLine, String.append_assoc, own, names_localName, names_castText,
      names_eq_nil]
  rw [written, List.forall_mem_append, List.forall_mem_cons]
  have type : ∀ name ∈ names definition.signature.result.name,
      Named setup definition.signature.params flow name ∨ name = definition.returnLocal :=
    fun name member => .inl (known.named sound name member)
  exact ⟨type, .inr rfl, type⟩

/-- The accumulator starts with globals of the environment. -/
theorem Definition.accumulatorLine_named {definition : Definition} {params : List Variable}
    (sound : setup.Sound) (aligned : Aligned setup flow)
    (seeds : definition.seeds = accumulatorSeeds setup.env) :
    ∀ name ∈ names definition.accumulatorLine.text, Named setup params flow name ∨ name = accumulator := by
  have global {v : GlobalVar} (member : v ∈ setup.env.globals) :
      names v.name = [v.name] ∧ Named setup params flow v.name := by
    obtain ⟨number, bound, same⟩ := (sound.globals v member).2.named aligned
    rw [same, names_globalName]
    exact ⟨rfl, .global bound⟩
  unfold accumulatorLine
  rw [seeds]
  unfold accumulatorSeeds
  split
  · rename_i first second given
    split at given
    · rename_i left right others listed
      cases given
      obtain ⟨leftName, leftNamed⟩ := @global left (by simp [listed])
      obtain ⟨rightName, rightNamed⟩ := @global right (by simp [listed])
      have frame : names "uint32_t x = ((uint32_t)" = ["x"] := by decide
      have written : names s!"uint32_t x = ((uint32_t){left.name}) + ((uint32_t){right.name});" =
          ["x", left.name, right.name] := by
        simp (disch := decide) [String.append_assoc, names_eq_nil, frame, leftName, rightName]
      rw [written, List.forall_mem_cons, List.forall_mem_cons, List.forall_mem_singleton]
      exact ⟨.inr rfl, .inl leftNamed, .inl rightNamed⟩
    · cases given
  · have written : names "uint32_t x = 0u;" = ["x"] := by decide
    rw [written, List.forall_mem_singleton]
    exact .inr rfl

/-- Mixing the parameters into the accumulator mentions just these. -/
theorem names_paramLines {params : List Variable} {returnLocal : String} (numbers : Numbers params) :
    LinesNamed (InBody setup params returnLocal flow) False
      (params.map fun param => ⟨1, s!"x ^= (uint32_t){param.name};"⟩) := by
  apply LinesNamed.of_allowed
  intro line member
  obtain ⟨param, inParams, rfl⟩ := List.mem_map.mp member
  obtain ⟨number, same⟩ := numbers param inParams
  have frame : names "x ^= (uint32_t)" = [accumulator] := by decide
  have written : names s!"x ^= (uint32_t){param.name};" = [accumulator, param.name] := by
    simp (disch := decide) [String.append_assoc, names_eq_nil, frame, same, names_paramName]
  rw [written, List.forall_mem_cons, List.forall_mem_singleton]
  exact ⟨.inr (.inl rfl), .inl (.param inParams)⟩

/-- The last update of a global mentions what may stand in an expression. -/
theorem Definition.Formed.mixLines_named {definition : Definition} (sound : setup.Sound)
    (aligned : Aligned setup flow) (formed : definition.Formed setup caller flow)
    (numbers : Numbers definition.signature.params) :
    LinesNamed (InBody setup definition.signature.params definition.returnLocal flow) False
      definition.mixLines := by
  unfold Definition.mixLines
  split
  · rename_i name expr given
    obtain ⟨⟨v, member, same, -⟩, exprFormed⟩ := formed.mix name expr given
    obtain ⟨number, bound, numbered⟩ :=
      (sound.globals v (List.mem_filter.mp member).1).2.named aligned
    rw [same] at numbered
    have written : names s!"{name} ^= {expr.text};" = name :: names expr.text := by
      simp (disch := decide) [String.append_assoc, names_eq_nil, numbered, names_globalName]
    apply LinesNamed.cons _ .nil
    rw [written, List.forall_mem_cons]
    constructor
    · rw [numbered]
      exact .inl (.global bound)
    · exact fun other inExpr => .inl (exprFormed.named sound aligned numbers other inExpr)
  · exact .nil

/-- The end of a definition mentions the return local, its type and the accumulator. -/
theorem names_endLines {params : List Variable} {result : CType} {number : Nat} (sound : setup.Sound)
    (known : setup.Knows result) :
    LinesNamed (InBody setup params (localName number) flow) False
      [⟨1, localName number ++ " ^= " ++ result.castText accumulator ++ ";"⟩,
       ⟨1, s!"return {localName number};"⟩, ⟨0, "\x7d"⟩] := by
  have returned : InBody setup params (localName number) flow (localName number) := .inr (.inr rfl)
  have word : names accumulator = [accumulator] := by decide
  have mixes : names (localName number ++ " ^= " ++ result.castText accumulator ++ ";") =
      localName number :: (names result.name ++ [accumulator]) := by
    simp (disch := decide) [String.append_assoc, names_eq_nil, names_localName, names_castText, word]
  have returns : names s!"return {localName number};" = [localName number] := by
    simp (disch := decide) [String.append_assoc, names_localName, names_eq_nil]
  apply LinesNamed.cons
  · rw [mixes, List.forall_mem_cons, List.forall_mem_append, List.forall_mem_singleton]
    exact ⟨returned, fun name member => .inl (known.named sound name member), .inr (.inl rfl)⟩
  · apply LinesNamed.cons
    · rw [returns, List.forall_mem_singleton]
      exact returned
    · exact .quiet (by decide) .nil

/-- What follows the declarations contains no names but those in scope. -/
theorem Definition.bodyLines_named {definition : Definition} {number : Nat} (sound : setup.Sound)
    (aligned : Aligned setup flow) (formed : definition.Formed setup caller flow)
    (numbers : Numbers definition.signature.params)
    (known : setup.Knows definition.signature.result) (own : definition.returnLocal = localName number) :
    LinesNamed (InBody setup definition.signature.params definition.returnLocal flow) False
      definition.bodyLines := by
  have blockLines : LinesNamed (InBody setup definition.signature.params definition.returnLocal flow) False
      (linesOf definition.body) :=
    .block fun statement member => (formed.body statement member).named sound aligned numbers own
  have endLines : LinesNamed (InBody setup definition.signature.params definition.returnLocal flow) False
      [⟨1, definition.returnLocal ++ " ^= " ++ definition.signature.result.castText accumulator ++ ";"⟩,
       ⟨1, s!"return {definition.returnLocal};"⟩, ⟨0, "\x7d"⟩] := by
    rw [own]
    exact names_endLines sound known
  exact (((names_paramLines numbers).append blockLines).append
    (formed.mixLines_named sound aligned numbers)).append endLines

/-! The two locals of a definition are visible where they stand below the line that declares them. -/

theorem InScope.of_returnLocal {definition : Definition} {number : Nat}
    (own : definition.returnLocal = localName number) (same : name = definition.returnLocal)
    (isName : nameKind? name.toList = some kind) (present : definition.resultLine ∈ above ++ [line]) :
    InScope before (.define definition) above line name kind := by
  rw [same, own, kind_localName] at isName
  cases isName
  exact ⟨definition, rfl, same.symm, _, present, same ▸ definition.resultLine_declares⟩

theorem InScope.of_accumulator {definition : Definition} (same : name = accumulator)
    (isName : nameKind? name.toList = some kind)
    (present : definition.accumulatorLine ∈ above ++ [line]) :
    InScope before (.define definition) above line name kind := by
  subst same
  cases isName
  exact ⟨definition, rfl, _, present, definition.accumulatorLine_declares⟩

/-- Every name in a definition is visible where it stands. -/
theorem Definition.Formed.closed {definition : Definition} {number : Nat} (sound : setup.Sound)
    (aligned : Aligned setup flow) (whole : flow.Formed setup) (declared : Declared setup flow before)
    (formed : definition.Formed setup caller flow) (member : definition.signature ∈ flow.functions)
    (own : definition.returnLocal = localName number) : (Item.define definition).Closed before := by
  have numbers := aligned.numbers_params member
  have known := (whole.functions _ member).1
  have ofNamed {above : List Line} {line : Line} {name : String} {kind : NameKind}
      (isName : nameKind? name.toList = some kind)
      (named : Named setup definition.signature.params flow name) :
      InScope before (.define definition) above line name kind :=
    named.inScope declared aligned numbers isName
  intro above line below split name written kind isName
  rw [Item.lines, Definition.lines] at split
  -- The three lines at the begin declare what the lines after them may mention.
  rcases above with _ | ⟨first, _ | ⟨second, _ | ⟨third, above⟩⟩⟩ <;>
    simp only [List.nil_append, List.cons_append, List.cons.injEq] at split
  · rcases split with ⟨rfl, -⟩
    have text : names (definition.signature.prototype ++ " \x7b") =
        names definition.signature.prototype := by
      simp (disch := decide) [names_eq_nil]
    rw [text] at written
    exact ofNamed isName (definition.signature.named sound aligned whole member name written)
  · rcases split with ⟨-, rfl, -⟩
    rcases definition.resultLine_named sound known own name written with named | same
    · exact ofNamed isName named
    · exact .of_returnLocal own same isName (by simp)
  · rcases split with ⟨-, -, rfl, -⟩
    rcases definition.accumulatorLine_named sound aligned formed.seeds name written with named | same
    · exact ofNamed isName named
    · exact .of_accumulator same isName (by simp)
  · rcases split with ⟨-, rfl, rfl, split⟩
    have lines := definition.bodyLines_named sound aligned formed numbers known own
    rw [split] at lines
    rcases lines.line name written with (named | same | same) | ⟨same, counts⟩
    · exact ofNamed isName named
    · exact .of_accumulator same isName (by simp)
    · exact .of_returnLocal own same isName (by simp)
    · subst same
      cases isName
      rcases counts with own | ⟨-, impossible⟩ | ⟨head, last, declares⟩
      · exact .inl own
      · exact impossible.elim
      · refine .inr ⟨head, ?_, declares⟩
        simp [List.getLast?_cons, last]

end

end RandomC
