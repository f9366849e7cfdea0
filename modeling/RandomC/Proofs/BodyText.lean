import RandomC.Proofs.BodyShape
import RandomC.Proofs.ExpressionText

/-!
# The grammar of function bodies

The lines of a definition, as a grammar: a frame around one block, whose statements contain blocks
themselves.  The statements of loops stand directly in the body of a loop, loops have few rounds, and blocks
are nested no deeper than the settings allow.  Every definition is written by the grammar, whatever was
tried and taken back while it was made.
-/

namespace RandomC

/-- The text of some lines, each at its level. -/
def writtenLines (lines : List Line) : String :=
  String.join (lines.map fun line => Text.indentedLine line.level line.text)

/-- The conditions of branches in the body of the function at an index. -/
inductive ConditionText (words : Vocabulary) (caller : Nat) (params : List Variable) : String → Prop where
  | bits {mask : Nat} : ConditionText words caller params s!"((x & {mask}u) != 0u)"
  | constant {value : String} (hex : HexText value) :
      ConditionText words caller params s!"(((uint32_t)({value})) != 0u)"
  | nonzero {value : String} (whole : WholeText words caller params .uint32 value) :
      ConditionText words caller params s!"((uint32_t){value} != 0u)"

mutual

/-- The lines of a statement in a block at a depth, which is the body of a loop or not, in the body of the
function at an index. -/
inductive StatementText (words : Vocabulary) (caller : Nat) (params : List Variable) :
    (depth : Int) → (inLoop : Bool) → List Line → Prop where
  | assign {depth : Int} {inLoop : Bool} {operator value : String}
      (plain : operator = "=" ∨ operator = "+=") (whole : WholeText words caller params .uint32 value) :
      StatementText words caller params depth inLoop
        [⟨1, s!"x {operator} {value};"⟩, ⟨1, "x ^= (uint32_t)x;"⟩]
  | ifElse {depth : Int} {inLoop : Bool} {condition : String} {yes no : List Line}
      (deeper : depth < maxDepth words.settings) (tested : ConditionText words caller params condition)
      (first : BlockText words caller params (depth + 1) false yes)
      (second : BlockText words caller params (depth + 1) false no) :
      StatementText words caller params depth inLoop
        (⟨1, s!"if {condition} \x7b"⟩ :: yes ++ ⟨1, "\x7d else \x7b"⟩ :: no ++ [⟨1, "\x7d"⟩])
  | loop {depth : Int} {inLoop : Bool} {bound : Nat} {body : List Line}
      (deeper : depth < maxDepth words.settings) (least : 1 ≤ bound) (most : bound ≤ 5)
      (inside : BlockText words caller params (depth + 1) true body) :
      StatementText words caller params depth inLoop
        (⟨1, s!"for (uint32_t i = 0; i < {bound}u; ++i) \x7b"⟩ ::
          ⟨2, "x += (i ^ 0x00000000u);"⟩ :: body ++ [⟨1, "\x7d"⟩])
  | leave {depth : Int} {inLoop : Bool} :
      StatementText words caller params depth inLoop
        [⟨1, s!"{localName caller} ^= (uint32_t)x;"⟩, ⟨1, s!"return {localName caller};"⟩]
  | nextRound {depth : Int} : StatementText words caller params depth true [⟨1, "continue;"⟩]
  | leaveLoop {depth : Int} : StatementText words caller params depth true [⟨1, "break;"⟩]
  | updateElement {depth : Int} {inLoop : Bool} {v : ArrayVar} {mask : Int} {value : String}
      (member : v ∈ words.arrays) (least : 0 ≤ mask) (most : mask < v.length)
      (whole : WholeText words caller params v.type value) :
      StatementText words caller params depth inLoop [⟨1, s!"{v.name}[x & {mask}u] ^= {value};"⟩]
  | incrementElement {depth : Int} {inLoop : Bool} {v : ArrayVar} {mask : Int} {value sum : String}
      {addition : Addition} (member : v ∈ words.arrays) (least : 0 ≤ mask) (most : mask < v.length)
      (whole : WholeText words caller params v.type value)
      (added : sum = addition.text v.type s!"{v.name}[x & {mask}u]" (v.type.castText "1u")) :
      StatementText words caller params depth inLoop
        [⟨1, s!"{v.name}[x & {mask}u] ^= {value};"⟩, ⟨1, s!"x = ({v.name}[x & {mask}u] = {sum});"⟩]
  | filler {depth : Int} {inLoop : Bool} :
      StatementText words caller params depth inLoop [⟨1, "x ^= 0u;"⟩]

/-- The lines of a block at a depth: those of its statements, of which there are not too many, and not too
few where there is no limit on statements. -/
inductive BlockText (words : Vocabulary) (caller : Nat) (params : List Variable) :
    (depth : Int) → (inLoop : Bool) → List Line → Prop where
  | of {depth : Int} {inLoop : Bool} {statements : List (List Line)}
      (each : ∀ lines ∈ statements, StatementText words caller params depth inLoop lines)
      (most : (statements.length : Int) < leastStatements depth + max 1 words.settings.maxBlockSize)
      (least : words.settings.stopByStmt < 0 → leastStatements depth ≤ statements.length) :
      BlockText words caller params depth inLoop statements.flatten

end

/-- What the accumulator starts with: the sum of the first two scalars of the environment, or zero where
there are not that many. -/
inductive StartText (words : Vocabulary) : String → Prop where
  | zero (few : words.initial.length < 2) : StartText words "0u"
  | sum {first second : GlobalVar} {rest : List GlobalVar} (scalars : words.initial = first :: second :: rest) :
      StartText words s!"((uint32_t){first.name}) + ((uint32_t){second.name})"

/-- What is mixed into a scalar of the environment behind the block, if there is one that is not const. -/
inductive MixText (words : Vocabulary) (caller : Nat) (params : List Variable) : List Line → Prop where
  | none (constant : ∀ v ∈ words.initial, v.isConst = true) : MixText words caller params []
  | some {v : GlobalVar} {value : String} (member : v ∈ words.initial) (writable : v.isConst = false)
      (whole : WholeText words caller params v.type value) :
      MixText words caller params [⟨1, s!"{v.name} ^= {value};"⟩]

/-- The lines of the definition of the function at an index, with the given signature. -/
inductive DefinitionText (words : Vocabulary) (index : Nat) (signature : Signature) : List Line → Prop where
  | of {start : String} {block mix : List Line} (starts : StartText words start)
      (body : BlockText words index signature.params 0 false block)
      (mixed : MixText words index signature.params mix) :
      DefinitionText words index signature
        ([⟨0, signature.prototype ++ " \x7b"⟩,
          ⟨1, s!"{signature.result.name} {localName index} = (({signature.result.name})(0u));"⟩,
          ⟨1, s!"uint32_t x = {start};"⟩] ++
        signature.params.map (fun param => ⟨1, s!"x ^= (uint32_t){param.name};"⟩) ++ block ++ mix ++
        [⟨1, s!"{localName index} ^= (({signature.result.name})(x));"⟩,
         ⟨1, s!"return {localName index};"⟩, ⟨0, "\x7d"⟩])

/-! ## Statements are written by the grammar -/

/-- The mask under which the accumulator becomes an index keeps it within the array. -/
theorem arrayMask_bounds {maxLength length : Int} (two : 2 ≤ length) :
    0 ≤ arrayMask maxLength length ∧ arrayMask maxLength length < length := by
  unfold arrayMask
  omega

/-! The lines of statements, with the frame of each line in one piece. -/

theorem text_condition (value : Literal) :
    (Condition.constant value).text = s!"(((uint32_t)({value.text})) != 0u)" := by
  apply String.toList_inj.mp
  simp [Condition.text, CType.castText, CType.uint32]

theorem lines_assign (compound : Bool) (value : Expr) {operator : String}
    (same : operator = if compound then "+=" else "=") :
    (Statement.assign (.named accumulator) none compound value).lines =
      [⟨1, s!"x {operator} {value.text};"⟩, ⟨1, "x ^= (uint32_t)x;"⟩] := by
  have start : "x" ++ (if compound then " += " else " = ") ++ value.text ++ ";" =
      s!"x {operator} {value.text};" := by
    apply String.toList_inj.mp
    cases compound <;> simp [same]
  rw [← start]
  rfl

theorem lines_updateElement (array : String) (type : CType) (mask : Int) (value : Expr)
    (increment : Option Addition) :
    (Statement.updateElement array type mask value increment).lines =
      ⟨1, s!"{array}[x & {mask}u] ^= {value.text};"⟩ ::
        match increment with
        | none => []
        | some addition =>
            let sum := addition.text type s!"{array}[x & {mask}u]" (type.castText "1u")
            [⟨1, s!"x = ({array}[x & {mask}u] = {sum});"⟩] := by
  cases increment <;> simp [Statement.lines, Place.text, ← String.toList_inj]

section

variable {setup : Setup} {caller : Nat} {params : List Variable} {flow : Flow} {unlimited : Prop}
variable (lengths : ∀ v ∈ setup.env.arrays, 2 ≤ v.length) (aligned : Aligned setup flow)

include lengths aligned

theorem Condition.Shaped.conditionText {condition : Condition} (shaped : condition.Shaped setup.settings)
    (formed : condition.Formed setup caller params flow) :
    ConditionText (flow.vocabulary setup) caller params condition.text := by
  cases shaped with
  | bits => exact .bits
  | constant digits =>
      cases formed with
      | constant plain => exact text_condition _ ▸ .constant (hexText_of_plain plain digits)
  | nonzero whole =>
      cases formed with
      | nonzero same formed => exact .nonzero (same ▸ whole.exprText lengths aligned formed)

omit lengths aligned in
theorem BlockShaped.blockText {block : Block} {depth : Int} {inLoop : Bool}
    (shaped : BlockShaped setup.settings (setup.settings.stopByStmt < 0) depth inLoop block)
    (each : ∀ statement ∈ block, ∀ {depth : Int} {inLoop : Bool},
      StatementShaped setup.settings (setup.settings.stopByStmt < 0) depth inLoop statement →
        StatementText (flow.vocabulary setup) caller params depth inLoop statement.lines) :
    BlockText (flow.vocabulary setup) caller params depth inLoop (linesOf block) := by
  cases shaped with
  | of all most least =>
      rw [linesOf_eq]
      rw [← List.length_map Statement.lines] at most
      refine .of ?_ most ?_
      · intro lines member
        obtain ⟨statement, present, rfl⟩ := List.mem_map.mp member
        exact each statement present (all statement present)
      · intro free
        rw [List.length_map]
        exact least free

/-- A well-formed statement of the right shape is written by the grammar.  Induction on how it is formed,
which is the only thing that is known of the blocks inside. -/
theorem Statement.Formed.statementText {statement : Statement} {depth : Int} {inLoop : Bool}
    (formed : statement.Formed setup caller params (localName caller) flow)
    (shaped : StatementShaped setup.settings (setup.settings.stopByStmt < 0) depth inLoop statement) :
    StatementText (flow.vocabulary setup) caller params depth inLoop statement.lines := by
  have text {value : Expr} {type : CType} (same : value.type = type) (whole : value.Whole setup.settings)
      (formed : value.Formed setup caller params flow) :
      WholeText (flow.vocabulary setup) caller params type value.text :=
    same ▸ whole.exprText lengths aligned formed
  induction formed generalizing depth inLoop with
  | @assign compound value same formed =>
      cases shaped with
      | assign whole =>
          rw [lines_assign compound value rfl]
          exact .assign (by cases compound <;> simp) (text same whole formed)
  | ifElse condition _ _ yes no =>
      cases shaped with
      | ifElse deeper conditionShaped yesShaped noShaped =>
          exact .ifElse deeper (conditionShaped.conditionText lengths aligned condition)
            (yesShaped.blockText yes) (noShaped.blockText no)
  | loop _ ih =>
      cases shaped with
      | loop deeper least most bodyShaped => exact .loop deeper least most (bodyShaped.blockText ih)
  | leave => exact .leave
  | nextRound =>
      cases shaped
      exact .nextRound
  | leaveLoop =>
      cases shaped
      exact .leaveLoop
  | @updateElement v value increment member same formed =>
      cases shaped with
      | updateElement whole inUse =>
          obtain ⟨least, most⟩ := arrayMask_bounds (lengths v member)
          rw [lines_updateElement]
          cases increment with
          | none => exact .updateElement member least most (text same whole formed)
          | some addition => exact .incrementElement member least most (text same whole formed) rfl
  | filler => exact .filler

theorem Definition.Formed.mixText {definition : Definition} (formed : definition.Formed setup caller flow)
    (shaped : definition.Shaped setup unlimited) :
    MixText (flow.vocabulary setup) caller definition.signature.params definition.mixLines := by
  unfold Definition.mixLines
  cases mixed : definition.mix with
  | none =>
      have constant := List.filter_eq_nil_iff.mp (shaped.unmixed mixed)
      apply MixText.none
      intro v member
      simpa using constant v member
  | some made =>
      obtain ⟨name, expr⟩ := made
      obtain ⟨⟨v, member, rfl, same⟩, exprFormed⟩ := formed.mix name expr mixed
      obtain ⟨declared, writable⟩ := List.mem_filter.mp member
      have whole := (shaped.mix _ _ mixed).exprText lengths aligned exprFormed
      exact .some declared (by simpa using writable) (same ▸ whole)

omit lengths aligned in
theorem Definition.Formed.startText {definition : Definition}
    (formed : definition.Formed setup caller flow) :
    ∃ start, StartText (flow.vocabulary setup) start ∧
      definition.accumulatorLine = ⟨1, s!"uint32_t x = {start};"⟩ := by
  unfold Definition.accumulatorLine
  rw [formed.seeds, accumulatorSeeds]
  match scalars : setup.env.globals with
  | [] => exact ⟨"0u", .zero (by simp [Flow.vocabulary, scalars]), rfl⟩
  | [only] => exact ⟨"0u", .zero (by simp [Flow.vocabulary, scalars]), rfl⟩
  | first :: second :: rest =>
      refine ⟨_, .sum scalars, ?_⟩
      simp [← String.toList_inj]

/-- A well-formed definition of the right shape is written by the grammar. -/
theorem Definition.Formed.definitionText {definition : Definition}
    (formed : definition.Formed setup caller flow) (own : definition.returnLocal = localName caller)
    (shaped : definition.Shaped setup (setup.settings.stopByStmt < 0)) :
    DefinitionText (flow.vocabulary setup) caller definition.signature definition.lines := by
  have body : BlockText (flow.vocabulary setup) caller definition.signature.params 0 false
      (linesOf definition.body) := by
    apply shaped.body.blockText
    intro statement member _ _ statementShaped
    exact (own ▸ formed.body statement member).statementText lengths aligned statementShaped
  obtain ⟨start, starts, accumulatorLine⟩ := formed.startText
  have frame := DefinitionText.of starts body (formed.mixText lengths aligned shaped)
  have resultLine : definition.resultLine =
      ⟨1, s!"{definition.signature.result.name} {localName caller} = (({definition.signature.result.name})(0u));"⟩ := by
    simp [Definition.resultLine, own, CType.castText, ← String.toList_inj]
  have last : definition.returnLocal ++ " ^= " ++ definition.signature.result.castText accumulator ++ ";" =
      s!"{localName caller} ^= (({definition.signature.result.name})(x));" := by
    simp [own, accumulator, CType.castText, ← String.toList_inj]
  rw [Definition.lines, Definition.bodyLines, accumulatorLine, resultLine, last, own]
  simpa using frame

end

/-! ## Definitions are balanced -/

theorem writtenLines_nil : writtenLines [] = "" := rfl

theorem writtenLines_cons (line : Line) (lines : List Line) :
    writtenLines (line :: lines) = Text.indentedLine line.level line.text ++ writtenLines lines := by
  simp [writtenLines, String.join_cons]

theorem writtenLines_append (first second : List Line) :
    writtenLines (first ++ second) = writtenLines first ++ writtenLines second := by
  induction first with
  | nil => simp [writtenLines_nil]
  | cons line rest ih => rw [List.cons_append, writtenLines_cons, writtenLines_cons, ih, String.append_assoc]

theorem unbracketed_indentation (level : Int) : Unbracketed (Text.indentation level) := by
  intro c member
  rw [Text.indentation, String.toList_ofList] at member
  rw [List.eq_of_mem_replicate member]
  decide

/-- How the brackets of some lines are found: the blanks and the line ends around them are no brackets. -/
theorem stillOpen_writtenLines (expected : List Char) (line : Line) (lines : List Line) :
    stillOpen expected (writtenLines (line :: lines)).toList =
      stillOpen expected (line.text.toList ++ (writtenLines lines).toList) := by
  have blanks := (unbracketed_indentation line.level).balanced
  have lineEnd : Balanced "\n" := by decide
  simp only [writtenLines_cons, Text.indentedLine, String.toList_append, List.append_assoc, blanks.read]
  rw [stillOpen_append, stillOpen_append]
  simp only [lineEnd.read]

theorem balanced_writtenLines {lines : List Line} (each : ∀ line ∈ lines, Balanced line.text) :
    Balanced (writtenLines lines) := by
  induction lines with
  | nil => decide
  | cons line rest ih =>
      have rest := ih fun other member => each other (List.mem_cons_of_mem _ member)
      rw [Balanced, stillOpen_writtenLines, (each line List.mem_cons_self).read]
      exact rest

theorem balanced_linesOf {block : Block} (each : ∀ statement ∈ block, Balanced (writtenLines statement.lines)) :
    Balanced (writtenLines (linesOf block)) := by
  induction block with
  | nil => decide
  | cons statement rest ih =>
      rw [linesOf, writtenLines_append]
      exact (each statement List.mem_cons_self).append
        (ih fun other member => each other (List.mem_cons_of_mem _ member))

theorem Addition.balanced (addition : Addition) {type : CType} {left right : String}
    (first : Balanced left) (second : Balanced right) : Balanced (addition.text type left right) := by
  cases addition with
  | operator =>
      simp (disch := decide) [Balanced, Addition.text, first.read, second.read, stillOpen_plain]
  | checked =>
      unfold Addition.text
      generalize (if [8, 16, 32, 64].contains type.bits then type.bits else 32 : Int) = bits
      cases type.signed <;>
        simp (disch := decide) [Balanced, first.read, second.read, (unbracketed_int bits).balanced.read,
          stillOpen_plain]

section

variable {setup : Setup} {caller : Nat} {params : List Variable} {flow : Flow}
variable (regular : setup.Regular) (aligned : Aligned setup flow) (numbers : Numbers params)

include regular aligned numbers

theorem Condition.Formed.balanced {condition : Condition}
    (formed : condition.Formed setup caller params flow) : Balanced condition.text := by
  cases formed with
  | @bits mask =>
      simp (disch := decide) [Balanced, Condition.text, read_nat, stillOpen_plain]
  | constant plain =>
      have value : Balanced (CType.uint32.castText _) :=
        balanced_castText (by decide) (unbracketed_of_word (isWordChar_of_mem_literal plain)).balanced
      simp (disch := decide) [Balanced, Condition.text, value.read, stillOpen_plain]
  | nonzero same formed =>
      have value := formed.balanced regular aligned numbers
      simp (disch := decide) [Balanced, Condition.text, value.read, stillOpen_plain]

theorem Statement.Formed.balanced {statement : Statement}
    (formed : statement.Formed setup caller params (localName caller) flow) :
    Balanced (writtenLines statement.lines) := by
  have result : Balanced (localName caller) := (unbracketed_numbered (by decide) caller).balanced
  induction formed with
  | @assign compound value same formed =>
      have value := formed.balanced regular aligned numbers
      rw [lines_assign compound _ rfl]
      cases compound <;>
        simp (disch := decide) [Balanced, stillOpen_writtenLines, value.read, writtenLines_nil,
          stillOpen_plain]
  | ifElse condition _ _ yes no =>
      have condition := condition.balanced regular aligned numbers
      have yes := balanced_linesOf yes
      have no := balanced_linesOf no
      simp (disch := decide) [Balanced, Statement.lines, stillOpen_writtenLines, writtenLines_append,
        condition.read, yes.read, no.read, writtenLines_nil, stillOpen_plain]
  | @loop bound body _ ih =>
      have body := balanced_linesOf ih
      simp (disch := decide) [Balanced, Statement.lines, stillOpen_writtenLines, writtenLines_append,
        read_nat, body.read, writtenLines_nil, stillOpen_plain]
  | leave =>
      simp (disch := decide) [Balanced, Statement.lines, stillOpen_writtenLines, result.read,
        writtenLines_nil, stillOpen_plain]
  | nextRound => decide
  | leaveLoop => decide
  | @updateElement v value increment member same formed =>
      have value := formed.balanced regular aligned numbers
      have name := (regular.sound.arrays v member).2.unbracketed.balanced
      have one : Balanced (v.type.castText "1u") :=
        balanced_castText ((Setup.Knows.array member).unbracketed regular).balanced (by decide)
      rw [lines_updateElement]
      generalize arrayMask setup.settings.maxArrayLenPerDim v.length = mask
      have maskText := (unbracketed_int mask).balanced
      cases increment with
      | none =>
          simp (disch := decide) [Balanced, stillOpen_writtenLines, name.read, maskText.read, value.read,
            writtenLines_nil, stillOpen_plain]
      | some addition =>
          have element : Balanced s!"{v.name}[x & {mask}u]" := by
            simp (disch := decide) [Balanced, name.read, maskText.read, stillOpen_plain]
          have sum := @Addition.balanced addition v.type _ _ element one
          dsimp only
          generalize addition.text v.type s!"{v.name}[x & {mask}u]" (v.type.castText "1u") = text at sum
          simp (disch := decide) [Balanced, stillOpen_writtenLines, name.read, maskText.read, value.read,
            sum.read, writtenLines_nil, stillOpen_plain]
  | filler => decide

omit numbers in
theorem Signature.balanced_prototype {signature : Signature} (member : signature ∈ flow.functions)
    (formed : Flow.Formed setup flow) : Balanced signature.prototype := by
  obtain ⟨result, types⟩ := formed.functions signature member
  have name := (signature.unbracketed_name aligned member).balanced
  have own := aligned.numbers_params member
  have list : Balanced (paramText signature.params) := by
    unfold paramText
    split
    · decide
    · apply balanced_intercalate
      intro text present
      obtain ⟨param, listed, rfl⟩ := List.mem_map.mp present
      have type := ((types param listed).unbracketed regular).balanced
      have param := (own.unbracketed listed).balanced
      simp (disch := decide) [Balanced, type.read, param.stillOpen, stillOpen_plain]
  have result := (result.unbracketed regular).balanced
  simp (disch := decide) [Balanced, Signature.prototype, prototypeText, result.read, name.read, list.read,
    stillOpen_plain]

end

section

variable {setup : Setup} {index : Nat} {flow : Flow} {definition : Definition}

theorem Definition.balanced_accumulatorLine (sound : setup.Sound)
    (formed : definition.Formed setup index flow) : Balanced definition.accumulatorLine.text := by
  unfold accumulatorLine
  rw [formed.seeds, accumulatorSeeds]
  have zero : Balanced "uint32_t x = 0u;" := by decide
  match scalars : setup.env.globals with
  | [] => exact zero
  | [only] => exact zero
  | first :: second :: rest =>
      have one := (sound.globals first (by simp [scalars])).2.unbracketed.balanced
      have two := (sound.globals second (by simp [scalars])).2.unbracketed.balanced
      simp (disch := decide) [Balanced, one.read, two.read, stillOpen_plain]

theorem Definition.text_eq (definition : Definition) :
    definition.text = writtenLines definition.lines ++ "\n" := by
  simp [Definition.text, Item.layout, Item.lines, writtenLines]

/-- The brackets of a definition are balanced. -/
theorem Definition.Formed.balanced (regular : setup.Regular) (aligned : Aligned setup flow)
    (world : Flow.Formed setup flow) (member : definition.signature ∈ flow.functions)
    (own : definition.returnLocal = localName index) (formed : definition.Formed setup index flow) :
    Balanced definition.text := by
  have numbers := aligned.numbers_params member
  have prototype := Signature.balanced_prototype regular aligned member world
  have type := ((world.functions _ member).1.unbracketed regular).balanced
  have result : Balanced (localName index) := (unbracketed_numbered (by decide) index).balanced
  have start := definition.balanced_accumulatorLine regular.sound formed
  have params : Balanced (writtenLines (definition.signature.params.map fun param =>
      ⟨1, "x ^= (uint32_t)" ++ param.name ++ ";"⟩)) := by
    apply balanced_writtenLines
    simp only [List.forall_mem_map]
    intro param present
    have name := (numbers.unbracketed present).balanced
    simp (disch := decide) [Balanced, name.read, stillOpen_plain]
  have body : Balanced (writtenLines (linesOf definition.body)) :=
    balanced_linesOf fun statement present =>
      (own ▸ formed.body statement present).balanced regular aligned numbers
  have mix : Balanced (writtenLines definition.mixLines) := by
    unfold Definition.mixLines
    cases mixed : definition.mix with
    | none => decide
    | some made =>
        obtain ⟨name, expr⟩ := made
        obtain ⟨⟨v, declared, rfl, -⟩, exprFormed⟩ := formed.mix name expr mixed
        have value := exprFormed.balanced regular aligned numbers
        have name := (regular.sound.globals v (List.mem_filter.mp declared).1).2.unbracketed.balanced
        simp (disch := decide) [Balanced, stillOpen_writtenLines, writtenLines_nil, name.read, value.read,
          stillOpen_plain]
  rw [Definition.text_eq, Definition.lines, Definition.bodyLines, own]
  apply Balanced.append _ (by decide)
  simp (disch := decide) [Balanced, stillOpen_writtenLines, writtenLines_append, writtenLines_nil,
    Definition.resultLine, CType.castText, accumulator, own, prototype.read, type.read, result.read, start.read,
    params.read, body.read, mix.read, stillOpen_plain]

end

/-! ## Programs -/

/-- No place that bodies may mention is the counter of a loop, which is a single letter. -/
theorem PlaceText.ne_counter {words : Vocabulary} {params : List Variable} {assignable : Bool}
    {place : String} (globals : ∀ v ∈ words.globals, ∃ number : Nat, v.name = globalName number)
    (numbers : Numbers params) (visible : PlaceText words params assignable place) : place ≠ "i" := by
  rintro rfl
  generalize same : "i" = place at visible
  have letter (c : Char) (other : c ≠ 'i') : c ∉ place.toList := by simpa [← same] using other
  cases visible with
  | global member =>
      obtain ⟨number, named⟩ := globals _ member
      exact letter '_' (by decide) (by simp [named, globalName])
  | param member =>
      obtain ⟨number, named⟩ := numbers _ member
      exact letter '_' (by decide) (by simp [named, paramName])
  | target => exact letter '*' (by decide) (by simp)
  | element => exact letter ']' (by decide) (by simp)

section

variable {origin : Origin} {settings : Settings} {source : Random.Source} {program : Program}

theorem Origin.Makes.vocabulary_eq (makes : origin.Makes settings program) :
    program.vocabulary settings = origin.world.flow.vocabulary origin.setup := by
  obtain ⟨globals, arrays, pointers⟩ := makes.variables_eq
  rw [Program.vocabulary, globals, arrays, pointers, makes.program_eq, Flow.vocabulary, makes.settings_eq]
  rfl

/-- The definitions of a program are shaped. -/
theorem Origin.Makes.shaped (makes : origin.Makes settings program) : origin.world.Shaped origin.setup :=
  (run_shaped origin.source origin.log).of_ok makes.succeeds

/-- The definition at an index is the one that the run has stored for the function at this index. -/
theorem Origin.Makes.definition (makes : origin.Makes settings program) {index : Nat}
    {definition : Definition} (found : program.definitions[index]? = some definition) :
    definition.signature ∈ origin.world.flow.functions ∧ definition.returnLocal = localName index ∧
      definition.Formed origin.setup index origin.world.flow ∧
      definition.Shaped origin.setup (settings.stopByStmt < 0) := by
  have stored : origin.world.flow.definitions[index]? = some (some definition) := by
    rw [← makes.definitions_eq.1, List.getElem?_map, found, Option.map_some]
  obtain ⟨signature, own⟩ := makes.aligned.returnLocals index definition stored
  have shaped := makes.shaped.1 definition (List.mem_of_getElem? stored)
  rw [makes.settings_eq] at shaped
  exact ⟨List.mem_of_getElem? signature, own, makes.good.formed.definitions index definition stored, shaped⟩

/-- There is one definition for each function of a program.  Each of them is written by the grammar, its
brackets are balanced, and no place that its expressions may assign is the counter of a loop.  The
definitions stand in the text of the program as they are. -/
theorem generate_writes_bodies (returned : (generate settings source).result = .ok program) :
    program.definitions.map (·.signature) = program.functions ∧
      (∀ (index : Nat) (definition : Definition), program.definitions[index]? = some definition →
        (∃ lines, DefinitionText (program.vocabulary settings) index definition.signature lines ∧
          definition.text = writtenLines lines ++ "\n") ∧
        Balanced definition.text ∧
        ∀ assignable, ¬ PlaceText (program.vocabulary settings) definition.signature.params assignable "i") ∧
      ∃ start rest, program.text =
        start ++ String.join (program.definitions.map Definition.text) ++ rest := by
  obtain ⟨origin, makes⟩ := exists_origin returned
  have aligned := makes.aligned
  have regular := makes.regular
  refine ⟨?_, ?_, makes.definitions_eq.2⟩
  · obtain ⟨definitions, all, signatures, -⟩ := aligned.all_definitions makes.complete
    have same : program.definitions = definitions :=
      List.map_injective_iff.mpr (Option.some_injective _) (makes.definitions_eq.1.trans all.symm)
    rw [same, signatures, makes.functions_eq]
  · intro index definition found
    obtain ⟨member, own, formed, shaped⟩ := makes.definition found
    rw [makes.vocabulary_eq]
    refine ⟨⟨definition.lines, ?_, definition.text_eq⟩, ?_, ?_⟩
    · apply formed.definitionText regular.lengths aligned own
      rw [makes.settings_eq]
      exact shaped
    · exact formed.balanced regular aligned makes.good.formed member own
    · intro assignable visible
      refine visible.ne_counter ?_ (aligned.numbers_params member) rfl
      intro v declared
      rcases List.mem_append.mp declared with early | late
      · obtain ⟨number, -, same⟩ := (regular.sound.globals v early).2
        exact ⟨number, same⟩
      · obtain ⟨number, -, same⟩ := aligned.created_name regular.sound late
        exact ⟨number, same⟩

end

/-- The block is a loop of three rounds in which a function is called. -/
def callsInLoop : Block → Bool
  | [.loop 3 [.assign _ none false (.call ..)]] => true
  | _ => false

/-- The entry function of a small program calls another function in a loop. -/
theorem generate_writes_bodies_small : ∃ (program : Program) (entry : Definition),
    (generate smallSettings (.ofSeed 2 false)).result = .ok program ∧
      program.definitions[0]? = some entry ∧ callsInLoop entry.body ∧
      (∃ lines, DefinitionText (program.vocabulary smallSettings) 0 entry.signature lines ∧
        entry.text = writtenLines lines ++ "\n") ∧
      Balanced entry.text := by
  have calls : (generate smallSettings (.ofSeed 2 false)).result.toOption.map
      (·.definitions.map fun definition => callsInLoop definition.body) = some [true, false] := by
    decide +kernel
  obtain ⟨program, returned, inLoops⟩ := exists_of_toOption_map calls
  obtain ⟨entry, _, definitions, inLoop, -⟩ := List.map_eq_cons_iff.mp inLoops
  have found : program.definitions[0]? = some entry := by rw [definitions]; rfl
  have written := (generate_writes_bodies returned).2.1 0 entry found
  exact ⟨program, entry, returned, found, inLoop, written.1, written.2.1⟩

end RandomC
