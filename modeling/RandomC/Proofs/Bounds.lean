import RandomC.Proofs.BodyText

/-!
# Array accesses

An opening bracket in the text of a definition stands behind the name of an array and before an index that
is less than its length: a number, or the accumulator under a mask.  The function that hashes the globals
runs over each array by a loop up to its length.
-/

namespace RandomC

/-- The characters start with an index below a length and the bracket that closes it. -/
inductive IndexText (length : Int) : List Char → Prop where
  | constant {index : Nat} {rest : List Char} (bound : (index : Int) < length) :
      IndexText length ((toString index).toList ++ ']' :: rest)
  | masked {mask : Int} {rest : List Char} (least : 0 ≤ mask) (most : mask < length) :
      IndexText length (s!"x & {mask}u".toList ++ ']' :: rest)

/-- At every opening bracket of the text, one of the arrays is accessed within its length. -/
def InBounds (arrays : List ArrayVar) (text : String) : Prop :=
  ∀ before after, text.toList = before ++ '[' :: after →
    ∃ v ∈ arrays, v.name.toList <:+ before ∧ IndexText v.length after

section

variable {arrays : List ArrayVar} {left right text : String}

theorem IndexText.append {length : Int} {chars : List Char} (index : IndexText length chars)
    (more : List Char) : IndexText length (chars ++ more) := by
  cases index with
  | constant bound =>
      rw [List.append_assoc]
      exact .constant bound
  | masked least most =>
      rw [List.append_assoc]
      exact .masked least most

theorem InBounds.append (first : InBounds arrays left) (second : InBounds arrays right) :
    InBounds arrays (left ++ right) := by
  intro before after split
  rw [String.toList_append, List.append_eq_append_iff] at split
  rcases split with ⟨start, rfl, inRight⟩ | ⟨rest, inLeft, remains⟩
  · obtain ⟨v, member, named, index⟩ := second start after inRight
    exact ⟨v, member, named.trans (List.suffix_append _ _), index⟩
  · cases rest with
    | nil =>
        obtain ⟨v, member, named, index⟩ := second [] after remains.symm
        exact ⟨v, member, named.trans (List.nil_suffix), index⟩
    | cons c rest =>
        obtain ⟨rfl, rfl⟩ := List.cons_eq_cons.mp remains
        obtain ⟨v, member, named, index⟩ := first before rest inLeft
        exact ⟨v, member, named, index.append _⟩

/-- A text without opening brackets of this kind. -/
theorem inBounds_plain (plain : '[' ∉ text.toList) : InBounds arrays text := by
  intro before after split
  exact absurd (by simp [split]) plain

theorem InBounds.frame (first : InBounds arrays left) (plain : '[' ∉ right.toList) :
    InBounds arrays (left ++ right) :=
  first.append (inBounds_plain plain)

/-- No other bracket of this kind stands in the name of an array or in an index. -/
theorem inBounds_access {v : ArrayVar} {index : String} (member : v ∈ arrays) (name : Unbracketed v.name)
    (plain : Unbracketed index) (bound : IndexText v.length (index.toList ++ [']'])) :
    InBounds arrays (v.name ++ "[" ++ index ++ "]") := by
  have notInName : '[' ∉ v.name.toList := fun member => by cases (name _ member).1
  have notInIndex : '[' ∉ index.toList := fun member => by cases (plain _ member).1
  intro before after split
  have split : v.name.toList ++ '[' :: (index.toList ++ [']']) = before ++ '[' :: after := by
    simpa [String.append_assoc] using split
  have parts : before = v.name.toList ∧ after = index.toList ++ [']'] := by
    rcases List.append_eq_append_iff.mp split with ⟨start, rfl, later⟩ | ⟨rest, named, later⟩
    · cases start with
      | nil => exact ⟨by simp, (List.cons_inj_right _).mp later.symm⟩
      | cons c start =>
          have member : '[' ∈ index.toList ++ [']'] := by simp [(List.cons_eq_cons.mp later).2]
          simp [notInIndex] at member
    · cases rest with
      | nil => exact ⟨by simpa using named.symm, (List.cons_inj_right _).mp later⟩
      | cons c rest =>
          obtain ⟨rfl, -⟩ := List.cons_eq_cons.mp later
          exact absurd (by simp [named]) notInName
  obtain ⟨rfl, rfl⟩ := parts
  exact ⟨v, member, List.suffix_rfl, bound⟩

theorem Unbracketed.inBounds (unbracketed : Unbracketed text) : InBounds arrays text :=
  inBounds_plain fun member => by cases (unbracketed _ member).1

theorem inBounds_intercalate {texts : List String} (each : ∀ text ∈ texts, InBounds arrays text) :
    InBounds arrays (", ".intercalate texts) := by
  induction texts with
  | nil => exact inBounds_plain (by decide)
  | cons text rest ih =>
      have first := each text List.mem_cons_self
      have others := ih fun other member => each other (List.mem_cons_of_mem _ member)
      cases rest with
      | nil => simpa using first
      | cons next rest =>
          rw [String.intercalate_cons_cons]
          exact (first.frame (by decide)).append others

theorem inBounds_castText {type : CType} (name : Unbracketed type.name) (inside : InBounds arrays text) :
    InBounds arrays (type.castText text) := by
  have start : InBounds arrays "((" := inBounds_plain (by decide)
  exact (((start.append name.inBounds).frame (by decide)).append inside).frame (by decide)

end

/-! ## Bodies -/

section

variable {setup : Setup} {caller : Nat} {params : List Variable} {flow : Flow}
variable (regular : setup.Regular) (aligned : Aligned setup flow) (numbers : Numbers params)

include regular aligned numbers

theorem Offered.inBounds {candidate : Candidate} (offered : Offered setup params flow candidate) :
    InBounds setup.env.arrays candidate.place.text := by
  cases offered with
  | global member =>
      obtain ⟨v, declared, rfl⟩ := aligned.exists_candidate member
      exact (aligned.unbracketed_global regular.sound declared).inBounds
  | param member => exact (numbers.unbracketed member).inBounds
  | target member =>
      have pointer := (regular.sound.pointers _ member).2.unbracketed
      exact (Unbracketed.append (by decide : Unbracketed "*") pointer).inBounds
  | @element v index member bound =>
      have two := regular.lengths v member
      exact inBounds_access member (regular.sound.arrays v member).2.unbracketed (unbracketed_nat index)
        (.constant (by omega))

theorem Expr.Formed.inBounds {expr : Expr} (formed : expr.Formed setup caller params flow) :
    InBounds setup.env.arrays expr.text := by
  induction formed with
  | literal known plain =>
      have value := unbracketed_of_word (isWordChar_of_mem_literal plain)
      exact inBounds_castText (known.unbracketed regular) value.inBounds
  | read known offered =>
      exact inBounds_castText (known.unbracketed regular) (offered.inBounds regular aligned numbers)
  | @call type index callee arguments known later found types formed ih =>
      have name : InBounds setup.env.arrays callee.name :=
        (callee.unbracketed_name aligned (List.mem_of_getElem? found)).inBounds
      have list : InBounds setup.env.arrays (", ".intercalate (Expr.texts arguments)) := by
        apply inBounds_intercalate
        intro text member
        obtain ⟨argument, present, rfl⟩ := mem_texts.mp member
        exact ih argument present
      apply inBounds_castText (known.unbracketed regular)
      exact ((name.frame (by decide)).append list).frame (by decide)
  | assign known offered assignable same formed ih =>
      have place := offered.inBounds regular aligned numbers
      apply inBounds_castText (known.unbracketed regular)
      exact (((inBounds_plain (by decide)).append place |>.frame (by decide)).append ih).frame (by decide)
  | comma known same leftFormed rightFormed left right =>
      have start : InBounds setup.env.arrays "((" := inBounds_plain (by decide)
      apply inBounds_castText (known.unbracketed regular)
      exact (((start.append left).frame (by decide)).append right).frame (by decide)
  | complement known same formed ih =>
      have start : InBounds setup.env.arrays "(~(" := inBounds_plain (by decide)
      apply inBounds_castText (known.unbracketed regular)
      exact (start.append ih).frame (by decide)
  | xor known leftSame rightSame leftFormed rightFormed left right =>
      have start : InBounds setup.env.arrays "((" := inBounds_plain (by decide)
      apply inBounds_castText (known.unbracketed regular)
      exact (((start.append left).frame (by decide)).append right).frame (by decide)

theorem Condition.Formed.inBounds {condition : Condition}
    (formed : condition.Formed setup caller params flow) : InBounds setup.env.arrays condition.text := by
  cases formed with
  | @bits mask =>
      have start : InBounds setup.env.arrays "((x & " := inBounds_plain (by decide)
      exact (start.append (unbracketed_nat mask).inBounds).frame (by decide)
  | constant plain =>
      have start : InBounds setup.env.arrays "(" := inBounds_plain (by decide)
      have value := unbracketed_of_word (isWordChar_of_mem_literal plain)
      exact (start.append (inBounds_castText (by decide) value.inBounds)).frame (by decide)
  | nonzero same formed =>
      have start : InBounds setup.env.arrays "((uint32_t)" := inBounds_plain (by decide)
      exact (start.append (formed.inBounds regular aligned numbers)).frame (by decide)

omit regular aligned numbers in
theorem Addition.inBounds (addition : Addition) {arrays : List ArrayVar} {type : CType}
    {left right : String} (first : InBounds arrays left) (second : InBounds arrays right) :
    InBounds arrays (addition.text type left right) := by
  have operands {start close : String} (begins : InBounds arrays start) (plain : '[' ∉ close.toList) :
      InBounds arrays (start ++ left ++ ", " ++ right ++ close) :=
    (((begins.append first).frame (by decide)).append second).frame plain
  cases addition with
  | operator =>
      have start : InBounds arrays "((" := inBounds_plain (by decide)
      exact (((start.append first).frame (by decide)).append second).frame (by decide)
  | checked =>
      unfold Addition.text
      generalize (if [8, 16, 32, 64].contains type.bits then type.bits else 32 : Int) = bits
      have width : InBounds arrays bits.repr := (unbracketed_int bits).inBounds
      have signed : InBounds arrays "safe_add_func_int" := inBounds_plain (by decide)
      have unsigned : InBounds arrays "safe_add_func_uint" := inBounds_plain (by decide)
      dsimp only
      split
      · exact operands ((signed.append width).frame (by decide)) (by decide)
      · exact operands ((unsigned.append width).frame (by decide)) (by decide)

omit regular aligned numbers in
theorem inBounds_linesOf {arrays : List ArrayVar} {block : Block}
    (each : ∀ statement ∈ block, ∀ line ∈ statement.lines, InBounds arrays line.text) :
    ∀ line ∈ linesOf block, InBounds arrays line.text := by
  intro line member
  rw [linesOf_eq, List.mem_flatten] at member
  obtain ⟨lines, member, inLines⟩ := member
  obtain ⟨statement, present, rfl⟩ := List.mem_map.mp member
  exact each statement present line inLines

omit aligned numbers in
/-- An index that is masked by the length of the array lies within it. -/
theorem inBounds_element {v : ArrayVar} (member : v ∈ setup.env.arrays) :
    InBounds setup.env.arrays
      (Place.masked v.name (arrayMask setup.settings.maxArrayLenPerDim v.length)).text := by
  obtain ⟨least, most⟩ := arrayMask_bounds (regular.lengths v member)
  generalize arrayMask setup.settings.maxArrayLenPerDim v.length = mask at least most
  have name := (regular.sound.arrays v member).2.unbracketed
  have index : Unbracketed s!"x & {mask}u" :=
    ((by decide : Unbracketed "x & ").append (unbracketed_int mask)).append (by decide)
  have same : (Place.masked v.name mask).text = v.name ++ "[" ++ s!"x & {mask}u" ++ "]" := by
    simp [Place.text, ← String.toList_inj]
  exact same ▸ inBounds_access member name index (.masked least most)

/-- In every line of a statement, arrays are accessed within their lengths. -/
theorem Statement.Formed.inBounds {statement : Statement}
    (formed : statement.Formed setup caller params (localName caller) flow) :
    ∀ line ∈ statement.lines, InBounds setup.env.arrays line.text := by
  have plain (text : String) (plain : '[' ∉ text.toList) : InBounds setup.env.arrays text :=
    inBounds_plain plain
  induction formed with
  | @assign compound value same formed =>
      rw [lines_assign compound _ rfl, List.forall_mem_cons, List.forall_mem_singleton]
      have start : InBounds setup.env.arrays ("x " ++ (if compound then "+=" else "=") ++ " ") := by
        cases compound <;> exact plain _ (by decide)
      exact ⟨(start.append (formed.inBounds regular aligned numbers)).frame (by decide), plain _ (by decide)⟩
  | ifElse condition _ _ yes no =>
      have condition := condition.inBounds regular aligned numbers
      have head := ((plain "if " (by decide)).append condition).frame (by decide : '[' ∉ " \x7b".toList)
      simp only [Statement.lines, List.forall_mem_append, List.forall_mem_cons]
      exact ⟨⟨⟨head, inBounds_linesOf yes⟩, plain _ (by decide), inBounds_linesOf no⟩, plain _ (by decide),
        List.forall_mem_nil _⟩
  | @loop bound body _ ih =>
      have start := plain "for (uint32_t i = 0; i < " (by decide)
      have head := (start.append (unbracketed_nat bound).inBounds).frame
        (by decide : '[' ∉ "u; ++i) \x7b".toList)
      simp only [Statement.lines, List.forall_mem_append, List.forall_mem_cons]
      exact ⟨⟨head, plain _ (by decide), inBounds_linesOf ih⟩, plain _ (by decide), List.forall_mem_nil _⟩
  | leave =>
      have result : InBounds setup.env.arrays (localName caller) :=
        (unbracketed_numbered (by decide) caller).inBounds
      have last := ((plain "return " (by decide)).append result).frame (by decide : '[' ∉ ";".toList)
      simp only [Statement.lines, List.forall_mem_cons]
      exact ⟨result.frame (by decide), last, List.forall_mem_nil _⟩
  | nextRound => exact List.forall_mem_singleton.mpr (plain _ (by decide))
  | leaveLoop => exact List.forall_mem_singleton.mpr (plain _ (by decide))
  | @updateElement v value increment member same formed =>
      have value := formed.inBounds regular aligned numbers
      have element := inBounds_element regular member
      have update := ((element.frame (by decide : '[' ∉ " ^= ".toList)).append value).frame
        (by decide : '[' ∉ ";".toList)
      have start := plain "x = (" (by decide)
      have one : InBounds setup.env.arrays (v.type.castText "1u") :=
        inBounds_castText ((Setup.Knows.array member).unbracketed regular) (plain _ (by decide))
      cases increment with
      | none => exact List.forall_mem_singleton.mpr update
      | some addition =>
          have sum := @Addition.inBounds addition _ v.type _ _ element one
          simp only [Statement.lines, List.forall_mem_cons]
          exact ⟨update, (((start.append element).frame (by decide)).append sum).frame (by decide),
            List.forall_mem_nil _⟩
  | filler => exact List.forall_mem_singleton.mpr (plain _ (by decide))

omit numbers in
theorem Signature.inBounds_prototype {signature : Signature} (member : signature ∈ flow.functions)
    (formed : Flow.Formed setup flow) : InBounds setup.env.arrays signature.prototype := by
  obtain ⟨result, types⟩ := formed.functions signature member
  have own := aligned.numbers_params member
  have list : InBounds setup.env.arrays (paramText signature.params) := by
    unfold paramText
    split
    · exact inBounds_plain (by decide)
    · apply inBounds_intercalate
      intro text present
      obtain ⟨param, listed, rfl⟩ := List.mem_map.mp present
      have type := ((types param listed).unbracketed regular).append (by decide : Unbracketed " ")
      exact (type.append (own.unbracketed listed)).inBounds
  have start : InBounds setup.env.arrays "static " := inBounds_plain (by decide)
  have result := start.append (result.unbracketed regular).inBounds
  have name := (result.frame (by decide : '[' ∉ " ".toList)).append
    (signature.unbracketed_name aligned member).inBounds
  exact ((name.frame (by decide)).append list).frame (by decide)

end

theorem inBounds_writtenLines {arrays : List ArrayVar} {lines : List Line}
    (each : ∀ line ∈ lines, InBounds arrays line.text) : InBounds arrays (writtenLines lines) := by
  induction lines with
  | nil => exact inBounds_plain (by decide)
  | cons line rest ih =>
      obtain ⟨first, others⟩ := List.forall_mem_cons.mp each
      rw [writtenLines_cons]
      have blanks : InBounds arrays _ := (unbracketed_indentation line.level).inBounds
      exact ((blanks.append first).frame (by decide)).append (ih others)

section

variable {setup : Setup} {index : Nat} {flow : Flow} {definition : Definition}

theorem Definition.inBounds_accumulatorLine (sound : setup.Sound)
    (formed : definition.Formed setup index flow) :
    InBounds setup.env.arrays definition.accumulatorLine.text := by
  have zero : InBounds setup.env.arrays "uint32_t x = 0u;" := inBounds_plain (by decide)
  unfold accumulatorLine
  rw [formed.seeds, accumulatorSeeds]
  rcases scalars : setup.env.globals with _ | ⟨first, _ | ⟨second, rest⟩⟩
  · exact zero
  · exact zero
  · have start : InBounds setup.env.arrays "uint32_t x = ((uint32_t)" := inBounds_plain (by decide)
    have one := start.append (sound.globals first (by simp [scalars])).2.unbracketed.inBounds
    have two : InBounds setup.env.arrays second.name :=
      (sound.globals second (by simp [scalars])).2.unbracketed.inBounds
    exact ((one.frame (by decide)).append two).frame (by decide)

/-- In a definition, arrays are accessed within their lengths. -/
theorem Definition.Formed.inBounds (regular : setup.Regular) (aligned : Aligned setup flow)
    (world : Flow.Formed setup flow) (member : definition.signature ∈ flow.functions)
    (own : definition.returnLocal = localName index) (formed : definition.Formed setup index flow) :
    InBounds setup.env.arrays definition.text := by
  have plain (text : String) (plain : '[' ∉ text.toList) : InBounds setup.env.arrays text :=
    inBounds_plain plain
  have numbers := aligned.numbers_params member
  have prototype := Signature.inBounds_prototype regular aligned member world
  have type := (world.functions _ member).1.unbracketed regular
  have result : InBounds setup.env.arrays definition.returnLocal :=
    own ▸ (unbracketed_numbered (by decide) index).inBounds
  have resultLine : InBounds setup.env.arrays definition.resultLine.text := by
    have start := (type.append (by decide : Unbracketed " ")).inBounds.append result
    have zero := inBounds_castText type (plain "0u" (by decide))
    exact ((start.frame (by decide : '[' ∉ " = ".toList)).append zero).frame (by decide)
  have params (param : Variable) (present : param ∈ definition.signature.params) :
      InBounds setup.env.arrays s!"x ^= (uint32_t){param.name};" :=
    ((plain "x ^= (uint32_t)" (by decide)).append (numbers.unbracketed present).inBounds).frame (by decide)
  have body : ∀ line ∈ linesOf definition.body, InBounds setup.env.arrays line.text :=
    inBounds_linesOf fun statement present =>
      (own ▸ formed.body statement present).inBounds regular aligned numbers
  have mix : ∀ line ∈ definition.mixLines, InBounds setup.env.arrays line.text := by
    unfold Definition.mixLines
    cases mixed : definition.mix with
    | none => exact List.forall_mem_nil _
    | some made =>
        obtain ⟨name, expr⟩ := made
        obtain ⟨⟨v, declared, rfl, -⟩, exprFormed⟩ := formed.mix name expr mixed
        have value := exprFormed.inBounds regular aligned numbers
        have name : InBounds setup.env.arrays v.name :=
          (regular.sound.globals v (List.mem_filter.mp declared).1).2.unbracketed.inBounds
        exact List.forall_mem_singleton.mpr (((name.frame (by decide)).append value).frame (by decide))
  rw [Definition.text_eq]
  apply InBounds.frame _ (by decide)
  apply inBounds_writtenLines
  simp only [Definition.lines, Definition.bodyLines, List.forall_mem_cons, List.forall_mem_append,
    List.forall_mem_map]
  have accumulated := inBounds_castText type (plain accumulator (by decide))
  have last := ((result.frame (by decide : '[' ∉ " ^= ".toList)).append accumulated).frame
    (by decide : '[' ∉ ";".toList)
  have leave := ((plain "return " (by decide)).append result).frame (by decide : '[' ∉ ";".toList)
  exact ⟨prototype.frame (by decide), resultLine, definition.inBounds_accumulatorLine regular.sound formed,
    ⟨⟨params, body⟩, mix⟩, last, leave, plain _ (by decide), List.forall_mem_nil _⟩

end

/-! ## Loops over arrays -/

/-- The head of the loop by which an array is hashed: it runs from zero up to the length. -/
def hashHead (v : ArrayVar) : Line := ⟨1, s!"for (int i = 0; i < {v.length}; i++)"⟩

/-- The line under this head: one element is hashed in each round. -/
def hashElement (v : ArrayVar) : Line :=
  ⟨2, s!"transparent_crc((uint64_t){v.name}[i], \"{v.name}[i]\", print_hash_value);"⟩

/-- Where a line contains an opening bracket, it hashes the elements of one of the arrays, under the head of
a loop over this array. -/
def LoopsInBounds (arrays : List ArrayVar) (lines : List Line) : Prop :=
  ∀ above line below, lines = above ++ line :: below → '[' ∈ line.text.toList →
    ∃ v ∈ arrays, line = hashElement v ∧ above.getLast? = some (hashHead v)

section

variable {arrays : List ArrayVar} {globals : List GlobalVar} {first second lines : List Line}

theorem LoopsInBounds.append (early : LoopsInBounds arrays first) (late : LoopsInBounds arrays second) :
    LoopsInBounds arrays (first ++ second) := by
  intro above line below split bracket
  rcases List.append_eq_append_iff.mp split with ⟨start, rfl, inSecond⟩ | ⟨rest, inFirst, remains⟩
  · obtain ⟨v, member, same, head⟩ := late start line below inSecond bracket
    exact ⟨v, member, same, by simp [List.getLast?_append, head]⟩
  · cases rest with
    | nil =>
        obtain ⟨v, -, -, head⟩ := late [] line below remains.symm bracket
        cases head
    | cons other rest =>
        obtain ⟨rfl, -⟩ := List.cons_eq_cons.mp remains
        exact early above line rest inFirst bracket

theorem loopsInBounds_plain (plain : ∀ line ∈ lines, '[' ∉ line.text.toList) :
    LoopsInBounds arrays lines := by
  intro above line below split bracket
  exact absurd bracket (plain line (by simp [split]))

theorem loopsInBounds_loop {v : ArrayVar} (member : v ∈ arrays) :
    LoopsInBounds arrays [hashHead v, hashElement v] := by
  have head : '[' ∉ (hashHead v).text.toList := by
    have length : '[' ∉ v.length.repr.toList := fun member => by cases (unbracketed_int _ _ member).1
    simp [hashHead, length]
  intro above line below split bracket
  match above with
  | [] =>
      obtain ⟨rfl, -⟩ := List.cons_eq_cons.mp split
      exact absurd bracket head
  | [only] =>
      obtain ⟨rfl, rest⟩ := List.cons_eq_cons.mp split
      obtain ⟨rfl, -⟩ := List.cons_eq_cons.mp rest
      exact ⟨v, member, rfl, rfl⟩
  | _ :: _ :: _ => simp at split

/-- The function that hashes the globals accesses arrays nowhere but in loops up to their lengths. -/
theorem hashLines_loops (scalars : ∀ v ∈ globals, Unbracketed v.name) :
    LoopsInBounds arrays (hashLines globals arrays) := by
  have loops (some : List ArrayVar) (inArrays : ∀ v ∈ some, v ∈ arrays) :
      LoopsInBounds arrays (some.flatMap fun v => [hashHead v, hashElement v]) := by
    induction some with
    | nil => exact loopsInBounds_plain nofun
    | cons v rest ih =>
        obtain ⟨member, others⟩ := List.forall_mem_cons.mp inArrays
        exact (loopsInBounds_loop member).append (ih others)
  refine (LoopsInBounds.append ?_ (loops arrays fun _ member => member)).append (loopsInBounds_plain (by decide))
  refine (loopsInBounds_plain (by decide)).append (loopsInBounds_plain ?_)
  simp only [List.forall_mem_map]
  intro v member
  have name : '[' ∉ v.name.toList := fun bracket => by cases (scalars v member _ bracket).1
  simp [name]

end

/-! ## Programs -/

/-- The declarations of one sort are some of those of variables. -/
theorem declared_sublist {α : Type} {part? : Declaration → Option α} {name : α → String}
    (own : ∀ declaration v, part? declaration = some v → declaration.names = [name v]) (items : List Item) :
    (((declarations items).filterMap part?).map name).Sublist (declaredOf .global items) := by
  induction items with
  | nil => exact .slnil
  | cons item rest ih =>
      have here : declaredOf .global (item :: rest) = item.declares .global ++ declaredOf .global rest := rfl
      rw [here]
      cases item with
      | declare declaration =>
          have listed : declarations (.declare declaration :: rest) = declaration :: declarations rest := rfl
          rw [listed]
          cases isPart : part? declaration with
          | none =>
              rw [List.filterMap_cons_none isPart]
              exact ih.trans (List.sublist_append_right _ _)
          | some v =>
              have names : (Item.declare declaration).declares .global = [name v] := own declaration v isPart
              rw [List.filterMap_cons_some isPart, names]
              exact ih.cons_cons (name v)
      | _ => exact ih.trans (List.sublist_append_right _ _)

theorem Declaration.names_of_global (declaration : Declaration) (v : GlobalVar)
    (isGlobal : declaration.global? = some v) : declaration.names = [v.name] := by
  cases declaration <;> cases isGlobal
  rfl

theorem Declaration.names_of_array (declaration : Declaration) (v : ArrayVar)
    (isArray : declaration.array? = some v) : declaration.names = [v.name] := by
  cases declaration <;> cases isArray
  rfl

theorem Declaration.names_of_pointer (declaration : Declaration) (v : PointerVar)
    (isPointer : declaration.pointer? = some v) : declaration.names = [v.name] := by
  cases declaration <;> cases isPointer
  rfl

/-- The arrays among the declarations are some of the variables that are declared. -/
theorem arrays_sublist (items : List Item) :
    (((declarations items).filterMap Declaration.array?).map (·.name)).Sublist
      (declaredOf .global items) :=
  declared_sublist Declaration.names_of_array items

/-- What a program declares has names of its own, sort by sort. -/
theorem Origin.Makes.names_nodup {origin : Origin} {settings : Settings} {program : Program} {α : Type}
    {part? : Declaration → Option α} {name : α → String} (makes : origin.Makes settings program)
    (own : ∀ declaration v, part? declaration = some v → declaration.names = [name v]) :
    (((declarations program.items).filterMap part?).map name).Nodup := by
  have nodup : (declaredOf .global program.items).Nodup := makes.sheet.ledger.nodup
  exact nodup.sublist (declared_sublist own program.items)

section

variable {origin : Origin} {settings : Settings} {source : Random.Source} {program : Program}

/-- Every array of a generated program has two elements at least and a name of its own.  Every bracket in a
definition that opens an index belongs to an access to one of the arrays within its length, and the
function that hashes the globals runs over each array up to its length. -/
theorem generate_stays_in_bounds (returned : (generate settings source).result = .ok program) :
    (∀ v ∈ program.arrays, 2 ≤ v.length) ∧ (program.arrays.map (·.name)).Nodup ∧
      (∀ definition ∈ program.definitions, InBounds program.arrays definition.text) ∧
      ∀ globals arrays, .hash globals arrays ∈ program.items →
        LoopsInBounds program.arrays (Item.hash globals arrays).lines := by
  obtain ⟨origin, makes⟩ := exists_origin returned
  have aligned := makes.aligned
  have regular := makes.regular
  obtain ⟨globals_eq, arrays_eq, -⟩ := makes.variables_eq
  refine ⟨arrays_eq ▸ regular.lengths, ?_, ?_, ?_⟩
  · exact makes.sheet.ledger.nodup.sublist (arrays_sublist _)
  · intro definition present
    obtain ⟨index, found⟩ := List.getElem?_of_mem present
    obtain ⟨member, own, formed, -⟩ := makes.definition found
    rw [arrays_eq]
    exact formed.inBounds regular aligned makes.good.formed member own
  · intro globals arrays present
    obtain ⟨rfl, rfl⟩ := makes.hash_eq present
    apply hashLines_loops
    rw [globals_eq]
    intro v member
    exact aligned.unbracketed_global regular.sound member

end

/-- The settings of a program of one small function behind an environment of arrays. -/
def arraySettings : Settings :=
  { smallSettings with
    maxFuncs := 1, maxParams := 0, maxExprComplexity := 1, maxGlobals := 2, maxArrayLenPerDim := 3
    pointers := false, initialEnvironment := true }

/-- The block updates an element under a mask of two and then reads the first element of an array. -/
def accessesElements : Block → Bool
  | [.updateElement _ _ 2 _ (some _), .assign _ none true (.read _ (.element _ 0))] => true
  | _ => false

/-- A function that updates an element and then reads another one. -/
theorem generate_stays_in_bounds_small : ∃ (program : Program) (definition : Definition),
    (generate arraySettings (.ofSeed 0 false)).result = .ok program ∧ definition ∈ program.definitions ∧
      accessesElements definition.body ∧ InBounds program.arrays definition.text ∧
      ∀ v ∈ program.arrays, 2 ≤ v.length := by
  have accesses : (generate arraySettings (.ofSeed 0 false)).result.toOption.map
      (·.definitions.map (accessesElements ·.body)) = some [true] := by
    decide +kernel
  obtain ⟨program, returned, bodies⟩ := exists_of_toOption_map accesses
  obtain ⟨definition, _, definitions, inBody, -⟩ := List.map_eq_cons_iff.mp bodies
  obtain ⟨lengths, -, bounds, -⟩ := generate_stays_in_bounds returned
  have present : definition ∈ program.definitions := definitions ▸ List.mem_cons_self
  exact ⟨program, definition, returned, present, inBody, bounds definition present, lengths⟩

end RandomC
