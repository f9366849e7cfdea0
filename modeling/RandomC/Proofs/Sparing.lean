import RandomC.Proofs.Toward

/-!
# Forbidden constants

A constant is forbidden on the left of a comma, and as a condition where the settings say so.  Wherever a
program has one there, it was the last resort of six attempts that the run of the program made: they stand in
its history, and what they drew in its readings.
-/

namespace RandomC

/-! ## Where constants are forbidden -/

mutual

/-- The expressions on the left of the commas in an expression. -/
def Expr.leftOperands : Expr → List Expr
  | .literal .. | .read .. => []
  | .call _ _ arguments => leftOperandsOf arguments
  | .assign _ _ value => value.leftOperands
  | .comma _ left right => left :: (left.leftOperands ++ right.leftOperands)
  | .complement _ operand => operand.leftOperands
  | .xor _ left right => left.leftOperands ++ right.leftOperands

/-- The expressions on the left of the commas in some expressions. -/
def leftOperandsOf : List Expr → List Expr
  | [] => []
  | expr :: rest => expr.leftOperands ++ leftOperandsOf rest

end

/-- The whole expressions of a condition. -/
def Condition.exprs : Condition → List Expr
  | .bits _ | .constant _ => []
  | .nonzero value => [value]

/-- The condition is nothing but a constant that is compared with zero. -/
def Condition.isBare : Condition → Bool
  | .bits _ => false
  | .constant _ => true
  | .nonzero value => value.isLiteral

mutual

/-- The whole expressions of a statement. -/
def Statement.exprs : Statement → List Expr
  | .assign _ _ _ value | .updateElement _ _ _ value _ => [value]
  | .ifElse condition yes no => condition.exprs ++ (blockExprs yes ++ blockExprs no)
  | .loop _ body => blockExprs body
  | .leave _ | .nextRound | .leaveLoop | .filler => []

/-- The whole expressions of the statements of a block. -/
def blockExprs : List Statement → List Expr
  | [] => []
  | statement :: rest => statement.exprs ++ blockExprs rest

end

mutual

/-- The conditions of the branches in a statement. -/
def Statement.conditions : Statement → List Condition
  | .ifElse condition yes no => condition :: (blockConditions yes ++ blockConditions no)
  | .loop _ body => blockConditions body
  | .assign .. | .leave _ | .nextRound | .leaveLoop | .updateElement .. | .filler => []

/-- The conditions of the branches in the statements of a block. -/
def blockConditions : List Statement → List Condition
  | [] => []
  | statement :: rest => statement.conditions ++ blockConditions rest

end

namespace Definition

/-- The whole expressions of a definition. -/
def exprs (definition : Definition) : List Expr :=
  blockExprs definition.body ++ (definition.mix.map Prod.snd).toList

/-- The expressions on the left of the commas in a definition. -/
def leftOperands (definition : Definition) : List Expr := leftOperandsOf definition.exprs

/-- The conditions of the branches in a definition. -/
def conditions (definition : Definition) : List Condition := blockConditions definition.body

end Definition

theorem mem_leftOperandsOf {left : Expr} {exprs : List Expr} :
    left ∈ leftOperandsOf exprs ↔ ∃ expr ∈ exprs, left ∈ expr.leftOperands := by
  induction exprs with
  | nil => simp [leftOperandsOf]
  | cons expr rest ih => simp [leftOperandsOf, ih]

theorem blockExprs_append (first second : Block) :
    blockExprs (first ++ second) = blockExprs first ++ blockExprs second := by
  induction first with
  | nil => rfl
  | cons statement rest ih => simp [blockExprs, ih]

theorem blockConditions_append (first second : Block) :
    blockConditions (first ++ second) = blockConditions first ++ blockConditions second := by
  induction first with
  | nil => rfl
  | cons statement rest ih => simp [blockConditions, ih]

/-! ## Last resorts -/

/-- On the way to `final`, six attempts to meet the request at the depth came to nothing, and the expression is
the constant that was drawn after them. -/
def LastResort (site : Site) (depth : Int) (request : Request) (final : World) (expr : Expr) : Prop :=
  ∃ world last drawn, Fruitless site.setup (site.tries depth request world) 6 world last ∧
    site.constant request.type last = (.ok expr, drawn) ∧ drawn.Precedes final

/-- A constant on the left of a comma is a last resort. -/
def Expr.Sparing (site : Site) (final : World) (expr : Expr) : Prop :=
  ∀ left ∈ expr.leftOperands, left.isLiteral = true →
    ∃ depth request, 0 < depth ∧ request.noConstant = true ∧ LastResort site depth request final left

/-- Where constants are forbidden as conditions, one is a last resort. -/
def Condition.Sparing (site : Site) (final : World) (condition : Condition) : Prop :=
  site.settings.constAsCondition = false → condition.isBare = true →
    ∃ value, condition = .nonzero value ∧ LastResort site 0 ⟨.uint32, false, false, true⟩ final value

/-- The constants that are forbidden in some expressions and conditions are last resorts. -/
structure Sparing (site : Site) (final : World) (exprs : List Expr) (conditions : List Condition) : Prop where
  exprs : ∀ expr ∈ exprs, expr.Sparing site final
  conditions : ∀ condition ∈ conditions, condition.Sparing site final

/-- Where the expressions in the body of a definition are made, if so many functions may still be created. -/
def Definition.site (setup : Setup) (free : Nat) (definition : Definition) : Site :=
  ⟨setup, .ofParams definition.signature.params definition.returnLocal, bodies setup free⟩

/-- The constants that are forbidden in the body of the definition are last resorts. -/
def Definition.Sparing (setup : Setup) (final : World) (definition : Definition) : Prop :=
  ∃ free, RandomC.Sparing (definition.site setup free) final definition.exprs definition.conditions

section

variable {site : Site} {final : World} {exprs others : List Expr} {conditions further : List Condition}

theorem Sparing.nil : Sparing site final [] [] := ⟨List.forall_mem_nil _, List.forall_mem_nil _⟩

theorem Sparing.append (first : Sparing site final exprs conditions)
    (second : Sparing site final others further) :
    Sparing site final (exprs ++ others) (conditions ++ further) :=
  ⟨List.forall_mem_append.mpr ⟨first.exprs, second.exprs⟩,
    List.forall_mem_append.mpr ⟨first.conditions, second.conditions⟩⟩

theorem Sparing.single {expr : Expr} (sparing : expr.Sparing site final) : Sparing site final [expr] [] :=
  ⟨List.forall_mem_singleton.mpr sparing, List.forall_mem_nil _⟩

end

/-! ## Expressions -/

namespace Site

/-- On the way to `final`, the expressions that are made for requests at a depth are sparing, and where they
may not be constants, they are constants only as last resorts. -/
abbrev Spares (site : Site) (final : World) (sound : Definition → Prop) (depth : Int) (inner : Inner) : Prop :=
  ∀ request, Toward final sound (inner request) fun expr => expr.Sparing site final ∧
    (request.noConstant = true → expr.isLiteral = true → LastResort site depth request final expr)

/-- Bodies are built on the way to `final`. -/
abbrev Advances (site : Site) (final : World) (sound : Definition → Prop) : Prop :=
  ∀ build, site.build = some build → ∀ index, Toward final sound (build index) fun _ => True

variable {site : Site} {final : World} {sound : Definition → Prop}
variable {type : CType} {inner : Inner} {depth : Int} {request : Request}

theorem constant_toward : Toward final sound (site.constant type) (Expr.Sparing site final) :=
  (Toward.idle (idle_drawConstant type) (blind_drawConstant _ type)).after fun _ => .pure (List.forall_mem_nil _)

theorem spendTerms_toward (settings : Settings) (count : Int) :
    Toward final sound (spendTerms settings count) fun _ => True := by
  apply Toward.unnoted
  refine ⟨blind_spendTerms settings count, fun world => ?_⟩
  unfold spendTerms
  split <;> rfl

theorem readTerm_toward : Toward final sound (site.readTerm type) (IfSome (Expr.Sparing site final)) := by
  have read (candidate : Option Candidate) :
      Toward final sound (pure (candidate.map fun candidate => Expr.read type candidate.place))
        (IfSome (Expr.Sparing site final)) := by
    apply Toward.pure
    intro expr made
    obtain ⟨candidate, -, rfl⟩ := Option.map_eq_some_iff.mp made
    exact List.forall_mem_nil _
  apply (Toward.idle (idle_drawBand _) (blind_drawBand _)).after
  intro band
  apply (Toward.aside (aside_newPlace type band) (blind_newPlace type band)).after
  rintro (_ | candidate)
  · apply (Toward.aside (aside_scopedCandidates band) (blind_scopedCandidates _ _ band)).after
    intro candidates
    apply (Toward.aside (aside_missingPlace type candidates band) (blind_missingPlace type candidates band)).after
    rintro (_ | candidate)
    · apply (Toward.aside (aside_orAllCandidates candidates) (blind_orAllCandidates _ _ candidates)).after
      intro candidates
      exact (Toward.idle (idle_selectPlace type candidates false) (blind_selectPlace _ _ _)).after read
    · exact read (some candidate)
  · exact read (some candidate)

theorem Spares.sparing (inside : site.Spares final sound depth inner) (request : Request) :
    Toward final sound (inner request) (Expr.Sparing site final) :=
  (inside request).mono fun _ => And.left

theorem assignTerm_toward (inside : site.Spares final sound (depth + 1) inner) :
    Toward final sound (site.assignTerm inner type) (IfSome (Expr.Sparing site final)) := by
  apply (Toward.idle idle_beforeAssignment blind_beforeAssignment).after
  intro _
  apply (spendTerms_toward _ 1).after
  intro _
  apply (Spares.sparing inside _).bind
  intro value
  have assign (candidate : Option Candidate) :
      Toward final sound (pure (candidate.map fun candidate => Expr.assign type candidate.place value)) fun made =>
        value.Sparing site final → IfSome (Expr.Sparing site final) made := by
    apply Toward.pure
    intro sparing expr made
    obtain ⟨candidate, -, rfl⟩ := Option.map_eq_some_iff.mp made
    exact sparing
  apply (Toward.idle (idle_drawBand _) (blind_drawBand _)).after
  intro band
  apply (Toward.aside (aside_scopedCandidates band) (blind_scopedCandidates _ _ band)).after
  intro candidates
  split
  · apply (Toward.aside (aside_createGlobal type true) (blind_createGlobal _ _ _)).after
    exact fun created => assign (some created)
  · apply (Toward.aside (aside_orAllCandidates candidates) (blind_orAllCandidates _ _ candidates)).after
    intro candidates
    exact (Toward.idle (idle_selectPlace type candidates true) (blind_selectPlace _ _ _)).after assign

/-- On the left of the comma, a constant is forbidden. -/
theorem commaTerm_toward (rooted : 0 ≤ depth) (inside : site.Spares final sound (depth + 1) inner) :
    Toward final sound (site.commaTerm inner type) (Expr.Sparing site final) := by
  apply (Toward.aside (aside_commaType type) (blind_commaType type)).after
  intro leftType
  apply (spendTerms_toward _ 2).after
  intro _
  apply (inside _).bind
  intro left
  apply (Spares.sparing inside _).bind
  intro right
  apply Toward.pure
  rintro rightSparing ⟨leftSparing, resort⟩
  refine List.forall_mem_cons.mpr ⟨?_, List.forall_mem_append.mpr ⟨leftSparing, rightSparing⟩⟩
  exact fun literal => ⟨depth + 1, _, by omega, rfl, resort rfl literal⟩

theorem operatorForm_toward (inside : site.Spares final sound (depth + 1) inner) :
    Toward final sound (site.operatorForm inner type) (IfSome (Expr.Sparing site final)) := by
  unfold operatorForm
  split
  · exact .pure nofun
  · apply (Toward.idle (idle_coin 80) (blind_coin 80)).after
    intro operator
    split
    · exact .pure nofun
    · apply (Toward.idle (idle_coin 5) (blind_coin 5)).after
      intro unary
      split
      · apply (Toward.idle idle_beforeComplement blind_beforeComplement).after
        intro _
        apply (Spares.sparing inside _).bind
        intro operand
        apply Toward.pure
        rintro sparing _ ⟨⟩
        exact sparing
      · apply (Toward.idle idle_beforeXor blind_beforeXor).after
        intro _
        apply (Spares.sparing inside _).bind
        intro left
        apply (Spares.sparing inside _).bind
        intro right
        apply Toward.pure
        rintro rightSparing leftSparing _ ⟨⟩
        exact List.forall_mem_append.mpr ⟨leftSparing, rightSparing⟩

/-! ### Calls -/

theorem createFunction_toward (setup : Setup) (type : CType) :
    Toward final sound (createFunction setup (some type)) fun _ => True := by
  have drawn : Unnoted (drawParams setup.scalars setup.settings.maxParams) := by
    refine ⟨blind_drawParams _ _, fun world => ?_⟩
    have ends := drawParams_matches setup.scalars setup.settings.maxParams world
    exact (ends.mono (fun _ _ ends => ends.1.history) fun _ matched => matched.history).reached
  apply Toward.get
  intro world
  dsimp only
  split
  · exact .pure trivial
  · apply (Toward.unnoted drawn).after
    intro params
    rw [pure_bind]
    apply (Toward.changeFlow _).after
    intro _
    apply (Toward.changeFlow _).after
    intro _
    apply (Toward.remember nofun).after
    intro _
    exact (Toward.report _).after fun _ => .pure trivial

theorem createCallee_toward (advances : site.Advances final sound) :
    Toward final sound (site.createCallee type) fun _ => True := by
  unfold createCallee
  split
  · exact .pure trivial
  · rename_i build given
    apply (createFunction_toward _ _).after
    rintro (_ | index)
    · exact .pure trivial
    · exact (advances build given index).after fun _ => .pure trivial

theorem callee_toward (advances : site.Advances final sound) :
    Toward final sound (site.callee type) fun _ => True := by
  have below (first : Int) (count : Nat) :
      Toward final sound (do return some (first + (← Step.below count)) : Gen (Option Int)) fun _ => True :=
    (Toward.idle (idle_below count) (blind_below count)).after fun _ => .pure trivial
  apply Toward.get
  intro world
  apply (Toward.idle idle_reuseCallee blind_reuseCallee).after
  intro reuse
  split
  · exact below _ _
  · split
    · exact .pure trivial
    · apply (createCallee_toward advances).after
      rintro (_ | index)
      · dsimp only
        split
        · exact below _ _
        · apply (Toward.aside (aside_functionAt _) (blind_functionAt _)).after
          intro caller
          exact (Toward.report _).after fun _ => .pure trivial
      · exact .pure trivial

theorem callTerm_toward (advances : site.Advances final sound)
    (inside : site.Spares final sound (depth + 1) inner) :
    Toward final sound (site.callTerm inner type) (IfSome (Expr.Sparing site final)) := by
  apply (callee_toward advances).after
  rintro (_ | index)
  · exact .pure nofun
  · apply Toward.get
    intro world
    apply (Toward.remember nofun).after
    intro _
    apply (Toward.aside (aside_functionAt index) (blind_functionAt index)).after
    intro signature
    apply (spendTerms_toward _ _).after
    intro _
    apply (Toward.mapM fun _ => Spares.sparing inside _).bind
    intro arguments
    apply Toward.pure
    rintro sparing _ ⟨⟩ left member
    obtain ⟨argument, listed, inArgument⟩ := mem_leftOperandsOf.mp member
    exact sparing argument listed left inArgument

theorem functionTerm_toward (advances : site.Advances final sound)
    (inside : site.Spares final sound (depth + 1) inner) :
    Toward final sound (site.functionTerm inner depth type) (IfSome (Expr.Sparing site final)) := by
  have call : Toward final sound
      (if depth < maxLevels site.settings then site.callTerm inner type else return none)
      (IfSome (Expr.Sparing site final)) := by
    split
    · exact callTerm_toward advances inside
    · exact .pure nofun
  unfold functionTerm
  -- The call stands on both branches; under a name it is not split along with them.
  generalize (if depth < maxLevels site.settings then site.callTerm inner type else return none) = step at call
  dsimp only
  split
  · apply (operatorForm_toward inside).bind
    rintro (_ | expr)
    · exact call.mono fun _ sparing _ => sparing
    · exact .pure id
  · exact call

theorem term_toward {inner : Option Inner} (rooted : 0 ≤ depth) (advances : site.Advances final sound)
    (inside : ∀ make, inner = some make → site.Spares final sound (depth + 1) make) (kind : Term) :
    Toward final sound (site.term inner depth type kind) (IfSome (Expr.Sparing site final)) := by
  have some_of {step : Gen Expr} (toward : Toward final sound step (Expr.Sparing site final)) :
      Toward final sound (some <$> step) (IfSome (Expr.Sparing site final)) := by
    apply Toward.map
    apply toward.mono
    rintro expr sparing _ ⟨⟩
    exact sparing
  cases inner with
  | none =>
      cases kind with
      | constant => exact some_of constant_toward
      | read => exact readTerm_toward
      | call => exact .pure nofun
      | assign => exact .pure nofun
      | comma => exact .pure nofun
  | some inner =>
      have inside := inside inner rfl
      cases kind with
      | constant => exact some_of constant_toward
      | read => exact readTerm_toward
      | call => exact functionTerm_toward advances inside
      | assign => exact assignTerm_toward inside
      | comma => exact some_of (commaTerm_toward rooted inside)

/-! ### Whole expressions -/

theorem attempts_toward {make : Term → Gen (Option Expr)} {closed : Bool}
    (makes : ∀ kind, Toward final sound (make kind) (IfSome (Expr.Sparing site final))) (count : Nat) :
    Toward final sound (site.attempts make request closed count) (Expr.Sparing site final) := by
  induction count with
  | zero => exact constant_toward
  | succ count ih =>
      apply Toward.attemptOr _ ih
      apply (Toward.idle (idle_chooseTerm _ _ _) (blind_chooseTerm _ _ _)).after
      rintro (_ | kind)
      · exact .pure nofun
      · exact makes kind

/-- An expression over expressions one level deeper. -/
theorem leaf_toward (rooted : 0 ≤ depth) (advances : site.Advances final sound)
    (inside : ∀ make, site.below depth = some make → site.Spares final sound (depth + 1) make) :
    site.Spares final sound depth (site.leaf (levelsBelow site.settings depth) depth) := by
  intro request
  have sparing : Toward final sound (site.leaf (levelsBelow site.settings depth) depth request)
      (Expr.Sparing site final) := by
    rw [leaf_eq]
    apply Toward.spanning
    apply (Toward.idle (idle_termsExhausted _) (blind_termsExhausted _)).after
    exact fun _ => attempts_toward (term_toward rooted advances inside) 6
  apply sparing.also
  intro world expr after made precedes forbidden literal
  obtain ⟨last, drawn, fruitless, constant, rfl⟩ := leaf_literal forbidden literal made
  exact ⟨world, last, drawn, fruitless, constant, (drawn.precedes_remembering _).trans precedes⟩

theorem budgeted_toward {step : Gen Expr} {post : Expr → Prop} (toward : Toward final sound step post) :
    Toward final sound (site.budgeted depth request step) post := by
  unfold Site.budgeted
  split
  · exact toward
  · exact toward.withTerms _

/-- Induction on the number of levels that may still be opened. -/
theorem inner_toward (advances : site.Advances final sound) (levels : Nat) (rooted : 0 ≤ depth)
    (opened : levelsBelow site.settings depth = levels) :
    site.Spares final sound depth (site.inner depth) := by
  induction levels generalizing depth with
  | zero =>
      refine fun request => budgeted_toward (leaf_toward rooted advances ?_ request)
      intro make deeper
      simp [below, opened] at deeper
  | succ levels ih =>
      refine fun request => budgeted_toward (leaf_toward rooted advances ?_ request)
      intro make deeper
      simp only [below, opened, Nat.succ_ne_zero, if_false, Option.some.injEq] at deeper
      exact deeper ▸ ih (by omega) (levelsBelow_succ opened)

theorem expression_toward (advances : site.Advances final sound) :
    site.Spares final sound 0 site.expression := by
  intro request
  apply (inner_toward advances _ (Int.le_refl 0) rfl request).bind
  intro expr
  apply (Toward.remember nofun).after
  exact fun _ => .pure id

end Site

end RandomC
