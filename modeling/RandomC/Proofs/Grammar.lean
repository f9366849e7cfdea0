import RandomC.Proofs.Brackets
import RandomC.Proofs.Contents
import RandomC.Proofs.ExpressionShape

/-!
# The grammar of expressions

The texts that expressions have in a function body, as a grammar over the variables and functions that the
body may mention.  A derivation is the tree of terms of a text; it has a bounded number of levels, and its
root is cast to the type that was asked for.  Well-formed expressions of the right shape are written by the
grammar, and their brackets are balanced.
-/

namespace RandomC

/-- What the bodies of a program may mention. -/
structure Vocabulary where
  settings : Settings
  /-- The scalars of the environment. -/
  initial : List GlobalVar
  /-- All scalars. -/
  globals : List GlobalVar
  arrays : List ArrayVar
  pointers : List PointerVar
  functions : List Signature

/-- What bodies may mention in a state of a run. -/
def Flow.vocabulary (setup : Setup) (flow : Flow) : Vocabulary :=
  ⟨setup.settings, setup.env.globals, setup.env.globals ++ flow.created, setup.env.arrays,
    setup.env.pointers, flow.functions⟩

/-- What the bodies of a program may mention: what it declares. -/
def Program.vocabulary (settings : Settings) (program : Program) : Vocabulary :=
  ⟨settings, program.env.globals, program.globals, program.arrays, program.pointers, program.functions⟩

/-- A hexadecimal literal: some upper-case digits and possibly a suffix. -/
def HexText (text : String) : Prop :=
  ∃ digits : List Char, digits ≠ [] ∧ (∀ c ∈ digits, c ∈ "0123456789ABCDEF".toList) ∧
    ∃ suffix ∈ literalSuffixes, text = "0x" ++ String.ofList digits ++ suffix

/-- The places that an expression may read in the body of a function with the given parameters, and assign
where that is allowed. -/
inductive PlaceText (words : Vocabulary) (params : List Variable) :
    (assignable : Bool) → String → Prop where
  | global {v : GlobalVar} (member : v ∈ words.globals) : PlaceText words params (! v.isConst) v.name
  | param {v : Variable} (member : v ∈ params) : PlaceText words params true v.name
  | target {v : PointerVar} (member : v ∈ words.pointers) :
      PlaceText words params (! v.constTarget) s!"*{v.name}"
  | element {v : ArrayVar} {index : Nat} (member : v ∈ words.arrays) (bound : (index : Int) < v.length) :
      PlaceText words params true s!"{v.name}[{index}]"

/-- The texts of expressions of a type in the body of the function at an index.  They have so many levels at
most, and there are operators in them only in an exact replay, and not at the root of a whole expression. -/
inductive ExprText (words : Vocabulary) (caller : Nat) (params : List Variable) :
    (whole : Bool) → (levels : Nat) → CType → String → Prop where
  | literal {whole : Bool} {levels : Nat} {type : CType} {value : String} (hex : HexText value) :
      ExprText words caller params whole (levels + 1) type s!"(({type.name})({value}))"
  | read {whole assignable : Bool} {levels : Nat} {type : CType} {place : String}
      (visible : PlaceText words params assignable place) :
      ExprText words caller params whole (levels + 1) type s!"(({type.name})({place}))"
  | call {whole : Bool} {levels index : Nat} {type : CType} {callee : Signature}
      {arguments : List String} {list : String} (later : caller < index)
      (found : words.functions[index]? = some callee)
      (count : arguments.length = callee.params.length)
      (each : ∀ (position : Nat) (param : Variable) (argument : String),
        callee.params[position]? = some param → arguments[position]? = some argument →
          ExprText words caller params false levels param.type argument)
      (listed : list = ", ".intercalate arguments) :
      ExprText words caller params whole (levels + 1) type s!"(({type.name})({callee.name}({list})))"
  | assign {whole : Bool} {levels : Nat} {type : CType} {place value : String}
      (visible : PlaceText words params true place)
      (inside : ExprText words caller params false levels type value) :
      ExprText words caller params whole (levels + 1) type s!"(({type.name})(({place} = {value})))"
  | comma {whole : Bool} {levels : Nat} {type other : CType} {left right : String}
      (leftInside : ExprText words caller params false levels other left)
      (rightInside : ExprText words caller params false levels type right) :
      ExprText words caller params whole (levels + 1) type s!"(({type.name})((({left}), ({right}))))"
  | complement {levels : Nat} {type : CType} {operand : String}
      (replay : words.settings.exactReplay = true)
      (inside : ExprText words caller params false levels type operand) :
      ExprText words caller params false (levels + 1) type s!"(({type.name})((~({operand}))))"
  | xor {levels : Nat} {type : CType} {left right : String}
      (replay : words.settings.exactReplay = true)
      (leftInside : ExprText words caller params false levels type left)
      (rightInside : ExprText words caller params false levels type right) :
      ExprText words caller params false (levels + 1) type s!"(({type.name})((({left}) ^ ({right}))))"

/-- The texts of whole expressions of a type. -/
abbrev WholeText (words : Vocabulary) (caller : Nat) (params : List Variable) : CType → String → Prop :=
  ExprText words caller params true (Site.maxLevels words.settings).toNat

section

variable {setup : Setup} {caller : Nat} {params : List Variable} {flow : Flow}

theorem hexText_of_plain {value : Literal} (plain : value.Plain) (digits : 0 < value.digits) :
    HexText value.text := by
  have digit (number : Nat) (bound : number < 16) :
      Text.hexDigit number ∈ "0123456789ABCDEF".toList := by
    revert number
    decide
  have all (width number : Nat) : ∀ c ∈ Text.hexDigits width number, c ∈ "0123456789ABCDEF".toList := by
    induction width generalizing number with
    | zero => exact nofun
    | succ width ih =>
        intro c member
        rcases List.mem_append.mp member with early | last
        · exact ih _ c early
        · rw [List.mem_singleton.mp last]
          exact digit _ (Nat.mod_lt _ (by decide))
  refine ⟨Text.hexDigits value.digits value.value, ?_, all _ _, value.suffix, plain, rfl⟩
  intro none
  have length := congrArg List.length none
  rw [Text.length_hexDigits] at length
  exact Nat.ne_of_gt digits length

theorem Offered.placeText {candidate : Candidate} (lengths : ∀ v ∈ setup.env.arrays, 2 ≤ v.length)
    (aligned : Aligned setup flow) (offered : Offered setup params flow candidate) :
    PlaceText (flow.vocabulary setup) params candidate.assignable candidate.place.text := by
  cases offered with
  | global member =>
      obtain ⟨v, declared, rfl⟩ := aligned.exists_candidate member
      exact .global declared
  | param member => exact .param member
  | target member => exact .target member
  | element member bound =>
      have two := lengths _ member
      exact .element member (by omega)

theorem texts_eq (exprs : List Expr) : Expr.texts exprs = exprs.map Expr.text := by
  induction exprs with
  | nil => rfl
  | cons expr rest ih => rw [Expr.texts, ih, List.map_cons]

/-! The texts of expressions, with the frame of each kind of term in one piece. -/

theorem text_call (type : CType) (callee : Signature) (arguments : List Expr) {list : String}
    (listed : list = ", ".intercalate (arguments.map Expr.text)) :
    (Expr.call type callee.number arguments).text = s!"(({type.name})({callee.name}({list})))" := by
  apply String.toList_inj.mp
  simp [Expr.text, CType.castText, Signature.name, texts_eq, listed]

theorem text_assign (type : CType) (place : Place) (value : Expr) :
    (Expr.assign type place value).text = s!"(({type.name})(({place.text} = {value.text})))" := by
  apply String.toList_inj.mp
  simp [Expr.text, CType.castText]

theorem text_comma (type : CType) (left right : Expr) :
    (Expr.comma type left right).text = s!"(({type.name})((({left.text}), ({right.text}))))" := by
  apply String.toList_inj.mp
  simp [Expr.text, CType.castText]

theorem text_complement (type : CType) (operand : Expr) :
    (Expr.complement type operand).text = s!"(({type.name})((~({operand.text}))))" := by
  apply String.toList_inj.mp
  simp [Expr.text, CType.castText]

theorem text_xor (type : CType) (left right : Expr) :
    (Expr.xor type left right).text = s!"(({type.name})((({left.text}) ^ ({right.text}))))" := by
  apply String.toList_inj.mp
  simp [Expr.text, CType.castText]

/-- A well-formed expression of the right shape is written by the grammar.  Induction on the shape, which
bounds the levels. -/
theorem Expr.Shaped.exprText {whole : Bool} {levels : Nat} {expr : Expr}
    (lengths : ∀ v ∈ setup.env.arrays, 2 ≤ v.length) (aligned : Aligned setup flow)
    (shaped : expr.Shaped setup.settings whole levels)
    (formed : expr.Formed setup caller params flow) :
    ExprText (flow.vocabulary setup) caller params whole levels expr.type expr.text := by
  induction shaped with
  | literal digits =>
      cases formed with
      | literal known plain =>
          rw [Expr.text, CType.castText]
          exact .literal (hexText_of_plain plain digits)
  | read =>
      cases formed with
      | read known offered =>
          rw [Expr.text, CType.castText]
          exact .read (offered.placeText lengths aligned)
  | @call whole levels type callee arguments inside ih =>
      cases formed with
      | call known later found types formed =>
          rw [text_call _ _ _ rfl]
          refine .call later found ?_ ?_ rfl
          · simpa using congrArg List.length types
          · intro position param argument inParams inArguments
            rw [List.getElem?_map, Option.map_eq_some_iff] at inArguments
            obtain ⟨expr, present, rfl⟩ := inArguments
            have member := List.mem_of_getElem? present
            have type : expr.type = param.type := by
              have both := congrArg (·[position]?) types
              simp only [List.getElem?_map, present, inParams, Option.map_some] at both
              exact Option.some.inj both
            exact type ▸ ih expr member (formed expr member)
  | assign inUse inside ih =>
      cases formed with
      | assign known offered assignable same formed =>
          have place := offered.placeText lengths aligned
          rw [assignable] at place
          rw [text_assign]
          exact .assign place (same ▸ ih formed)
  | comma inUse leftInside rightInside left right =>
      cases formed with
      | comma known same leftFormed rightFormed =>
          rw [text_comma]
          exact .comma (left leftFormed) (same ▸ right rightFormed)
  | complement inUse inside ih =>
      cases formed with
      | complement known same formed =>
          rw [text_complement]
          exact .complement inUse (same ▸ ih formed)
  | xor inUse leftInside rightInside left right =>
      cases formed with
      | xor known leftSame rightSame leftFormed rightFormed =>
          rw [text_xor]
          exact .xor inUse (leftSame ▸ left leftFormed) (rightSame ▸ right rightFormed)

end

end RandomC
