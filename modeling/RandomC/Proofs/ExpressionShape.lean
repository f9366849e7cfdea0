import RandomC.Proofs.Expression
import RandomC.Proofs.Regime

/-!
# The shape of expressions

How many levels an expression has, and where operators, assignments and commas may stand in it.  This does
not depend on what the state holds, so it goes along with any regime that stands what happens in expressions:
the induction on the number of levels that may still be opened shows that every step gives an expression of
the right shape and keeps to the regime.
-/

namespace RandomC

/-- The expression has so many levels at most, and operators, assignments and commas in it only where they
are in use; where it is a whole expression, there is no operator at its root. -/
inductive Expr.Shaped (settings : Settings) : (whole : Bool) → (levels : Nat) → Expr → Prop where
  | literal {whole : Bool} {levels : Nat} {type : CType} {value : Literal} (digits : 0 < value.digits) :
      Shaped settings whole (levels + 1) (.literal type value)
  | read {whole : Bool} {levels : Nat} {type : CType} {place : Place} :
      Shaped settings whole (levels + 1) (.read type place)
  | call {whole : Bool} {levels : Nat} {type : CType} {callee : Int} {arguments : List Expr}
      (inside : ∀ argument ∈ arguments, Shaped settings false levels argument) :
      Shaped settings whole (levels + 1) (.call type callee arguments)
  | assign {whole : Bool} {levels : Nat} {type : CType} {place : Place} {value : Expr}
      (inUse : settings.embeddedAssigns = true) (inside : Shaped settings false levels value) :
      Shaped settings whole (levels + 1) (.assign type place value)
  | comma {whole : Bool} {levels : Nat} {type : CType} {left right : Expr}
      (inUse : settings.commaOperators = true) (leftInside : Shaped settings false levels left)
      (rightInside : Shaped settings false levels right) :
      Shaped settings whole (levels + 1) (.comma type left right)
  | complement {levels : Nat} {type : CType} {operand : Expr} (inUse : settings.exactReplay = true)
      (inside : Shaped settings false levels operand) :
      Shaped settings false (levels + 1) (.complement type operand)
  | xor {levels : Nat} {type : CType} {left right : Expr} (inUse : settings.exactReplay = true)
      (leftInside : Shaped settings false levels left)
      (rightInside : Shaped settings false levels right) :
      Shaped settings false (levels + 1) (.xor type left right)

/-- The expression is shaped like a whole one. -/
abbrev Expr.Whole (settings : Settings) (expr : Expr) : Prop :=
  expr.Shaped settings true (Site.maxLevels settings).toNat

/-- What may stand anywhere may stand inside an expression. -/
theorem Expr.Shaped.inner {settings : Settings} {levels : Nat} {whole : Bool} {expr : Expr}
    (shaped : expr.Shaped settings whole levels) : expr.Shaped settings false levels := by
  cases shaped with
  | literal digits => exact .literal digits
  | read => exact .read
  | call inside => exact .call inside
  | assign inUse inside => exact .assign inUse inside
  | comma inUse left right => exact .comma inUse left right
  | complement inUse inside => exact .complement inUse inside
  | xor inUse left right => exact .xor inUse left right

/-- Creating a function and building its body keeps to the regime. -/
def Upholds (setup : Setup) (regime : Regime) (build : Int → Gen Unit) : Prop :=
  ∀ (signature : Signature) (before after : World), regime.inv before →
    before.Creates setup signature after →
      (build before.flow.functions.length).Ends after (fun _ last => regime.To 0 before last) regime.failed

/-- Every value that is there satisfies the property. -/
abbrev IfSome {α : Type} (property : α → Prop) (made : Option α) : Prop :=
  ∀ value, made = some value → property value

namespace Site

section

variable {site : Site} {regime : Regime} {type : CType}
variable {inner : Inner} {levels : Nat} {whole : Bool} {depth : Int}

/-! ### Places -/

theorem aside_indirectCandidates (setup : Setup) : Aside (indirectCandidates setup) :=
  (idle_indirectCandidates [] (.initial setup)).aside

theorem aside_scopedCandidates (band : Band) :
    Aside (scopedCandidates site.setup site.scope band) := by
  apply Aside.get
  intro world
  cases band with
  | globals => exact (aside_indirectCandidates _).bind fun _ => .pure
  | locals => exact (aside_indirectCandidates _).bind fun _ => .pure
  | params => exact .pure
  | fresh => exact aside_indirectCandidates _

theorem aside_orAllCandidates (candidates : List Candidate) :
    Aside (orAllCandidates site.setup site.scope candidates) := by
  unfold orAllCandidates
  split
  · apply Aside.get
    intro world
    exact (aside_indirectCandidates _).bind fun _ => .pure
  · exact .pure

theorem aside_localType (type : CType) : Aside (site.localType type) := by
  unfold localType
  dsimp only
  split
  · exact (idle_below 14).aside.bind fun _ => (idle_element _ _).aside
  · exact .pure

theorem aside_parentLocal (type : CType) : Aside (site.parentLocal type) := by
  unfold parentLocal
  split
  · exact .pure
  · apply (aside_localType type).bind
    intro chosen
    apply idle_drawProperties.aside.bind
    intro _
    exact (aside_createZeroGlobal chosen).bind fun _ => .pure

theorem aside_newPlace (type : CType) (band : Band) : Aside (site.newPlace type band) := by
  cases band with
  | fresh => exact (aside_createGlobal type false).map
  | locals => exact idle_beforeLocals.aside.bind fun _ => .pure
  | globals => exact .pure
  | params => exact .pure

theorem aside_missingPlace (type : CType) (candidates : List Candidate) (band : Band) :
    Aside (site.missingPlace type candidates band) := by
  unfold missingPlace
  split
  · exact .pure
  · cases band with
    | globals => exact (aside_createGlobal type false).map
    | locals => exact aside_parentLocal type
    | params => exact .pure
    | fresh => exact .pure

/-! ### Terms -/

theorem spendTerms_holds (expressive : regime.Expressive) (settings : Settings) (count : Int) :
    regime.Holds (spendTerms settings count) fun _ => True := by
  intro world kept
  apply (spendTerms_ends settings count world _).mono
  · intro _ after still
    exact ⟨0, expressive.leads kept still.resembles, rfl, trivial⟩
  · exact fun _ failed => failed

theorem withTerms_holds {step : Gen Expr} {settings : Settings} {post : Expr → Prop}
    (expressive : regime.Expressive) (holds : regime.Holds step post) :
    regime.Holds (withTerms settings step) post := by
  intro world kept
  have opened : regime.To 0 world (world.openTerms settings).2 := by
    apply expressive.leads kept
    simp only [World.openTerms]
    split <;> exact ⟨rfl, rfl, rfl, rfl, rfl⟩
  have same (saved : Option Int) (after : World) : after.Resembles (after.closeTerms saved) := by
    cases saved <;> exact ⟨rfl, rfl, rfl, rfl, rfl⟩
  have inside := holds _ opened.kept
  simp only [Regime.Spends, Step.Ends, withTerms] at inside ⊢
  revert inside
  rcases step (world.openTerms settings).2 with ⟨failure | value, after⟩
  · intro failed
    have flow : (after.closeTerms (world.openTerms settings).1).flow = after.flow := by
      cases (world.openTerms settings).1 <;> rfl
    exact regime.stopping failed flow (same _ after).history
  · rintro ⟨count, leads, holds⟩
    have closed := expressive.leads leads.kept (same (world.openTerms settings).1 after)
    exact ⟨count, (opened.zero_trans leads).trans_zero closed, holds⟩

/-- Making the expressions inside a term keeps to the regime, and they are shaped. -/
abbrev Shapes (site : Site) (regime : Regime) (levels : Nat) (inner : Inner) : Prop :=
  ∀ request, regime.Holds (inner request) (Expr.Shaped site.settings false levels)

theorem idle_drawConstant_digits (setup : Setup) (type : CType) :
    Idle (drawConstant setup type) fun value => 0 < value.digits := by
  apply idle_draw
  intro source
  simp only [Literal.draw, draw_bind]
  by_cases byte : type.bits ≤ 8
  · simp [byte]
  · by_cases short : type.bits ≤ 16
    · simp [byte, short]
    · by_cases word : type.bits ≤ 32 <;> simp [byte, short, word]

theorem constant_holds :
    regime.Holds (site.constant type) (Expr.Shaped site.settings whole (levels + 1)) :=
  (Regime.Holds.idle (idle_drawConstant_digits _ type)).bind fun _ digits => .pure (.literal digits)

theorem readTerm_holds :
    regime.Holds (site.readTerm type)
      (IfSome (Expr.Shaped site.settings whole (levels + 1))) := by
  have read (candidate : Option Candidate) :
      IfSome (Expr.Shaped site.settings whole (levels + 1))
        (candidate.map fun candidate => .read type candidate.place) := by
    intro expr made
    obtain ⟨candidate, -, rfl⟩ := Option.map_eq_some_iff.mp made
    exact .read
  apply (Regime.Holds.idle (idle_drawBand _)).bind
  intro band _
  apply (Regime.Holds.aside (aside_newPlace type band)).bind
  intro made _
  cases made with
  | some candidate => exact .pure (read (some candidate))
  | none =>
      apply (Regime.Holds.aside (aside_scopedCandidates band)).bind
      intro candidates _
      apply (Regime.Holds.aside (aside_missingPlace type candidates band)).bind
      intro made _
      cases made with
      | some candidate => exact .pure (read (some candidate))
      | none =>
          apply (Regime.Holds.aside (aside_orAllCandidates candidates)).bind
          intro candidates _
          apply (Regime.Holds.idle (idle_selectPlace type candidates false)).bind
          exact fun selected _ => .pure (read selected)

theorem assignTerm_holds (expressive : regime.Expressive)
    (inUse : site.settings.embeddedAssigns = true) (shapes : site.Shapes regime levels inner) :
    regime.Holds (site.assignTerm inner type)
      (IfSome (Expr.Shaped site.settings whole (levels + 1))) := by
  apply (Regime.Holds.idle idle_beforeAssignment).bind
  intro _ _
  apply (spendTerms_holds expressive _ 1).bind
  intro _ _
  apply (shapes _).bind
  intro value inside
  have assign (candidate : Option Candidate) :
      IfSome (Expr.Shaped site.settings whole (levels + 1))
        (candidate.map fun candidate => .assign type candidate.place value) := by
    intro expr made
    obtain ⟨candidate, -, rfl⟩ := Option.map_eq_some_iff.mp made
    exact .assign inUse inside
  apply (Regime.Holds.idle (idle_drawBand _)).bind
  intro band _
  apply (Regime.Holds.aside (aside_scopedCandidates band)).bind
  intro candidates _
  split
  · apply (Regime.Holds.aside (aside_createGlobal type true)).bind
    exact fun created _ => .pure (assign (some created))
  · apply (Regime.Holds.aside (aside_orAllCandidates candidates)).bind
    intro candidates _
    apply (Regime.Holds.idle (idle_selectPlace type candidates true)).bind
    exact fun selected _ => .pure (assign selected)

theorem aside_chooseType (scalars : List CType) (layouts : Layouts) (fallback : CType) :
    Aside (layouts.chooseType scalars fallback) := by
  unfold Layouts.chooseType
  dsimp only
  split
  · exact .pure
  · apply (idle_below _).aside.bind
    intro number
    unfold Layouts.typeAt
    dsimp only
    split
    · exact (idle_element _ _).aside
    · split <;> exact .pure

theorem aside_commaType (type : CType) : Aside (site.commaType type) := by
  unfold commaType
  split
  · exact aside_chooseType _ _ _
  · exact .pure

theorem commaTerm_holds (expressive : regime.Expressive)
    (inUse : site.settings.commaOperators = true) (shapes : site.Shapes regime levels inner) :
    regime.Holds (site.commaTerm inner type)
      (Expr.Shaped site.settings whole (levels + 1)) := by
  apply (Regime.Holds.aside (aside_commaType type)).bind
  intro leftType _
  apply (spendTerms_holds expressive _ 2).bind
  intro _ _
  apply (shapes _).bind
  intro left leftInside
  apply (shapes _).bind
  exact fun right rightInside => .pure (.comma inUse leftInside rightInside)

/-- Operators are not made where they are not in use. -/
theorem operatorForm_holds (shapes : site.Shapes regime levels inner) :
    regime.Holds (site.operatorForm inner type)
      (IfSome (Expr.Shaped site.settings false (levels + 1))) := by
  unfold operatorForm
  split
  · exact .pure nofun
  · rename_i replays
    have inUse : site.settings.exactReplay = true := by simpa using replays
    apply (Regime.Holds.idle (idle_coin 80)).bind
    intro wanted _
    split
    · exact .pure nofun
    · apply (Regime.Holds.idle (idle_coin 5)).bind
      intro unary _
      split
      · apply (Regime.Holds.idle idle_beforeComplement).bind
        intro _ _
        apply (shapes _).bind
        intro operand inside
        apply Regime.Holds.pure
        rintro _ ⟨⟩
        exact .complement inUse inside
      · apply (Regime.Holds.idle idle_beforeXor).bind
        intro _ _
        apply (shapes _).bind
        intro left leftInside
        apply (shapes _).bind
        intro right rightInside
        apply Regime.Holds.pure
        rintro _ ⟨⟩
        exact .xor inUse leftInside rightInside

/-! ### Calls -/

/-- Every way of building bodies that the site has keeps to the regime. -/
abbrev Upheld (site : Site) (regime : Regime) : Prop :=
  ∀ build, site.build = some build → Upholds site.setup regime build

/-- Whatever is built keeps to the regime that demands nothing. -/
theorem upheld_free (site : Site) : site.Upheld Regime.free := by
  intro build _ signature before after _ _
  simp only [Step.Ends]
  split
  · exact ⟨trivial, trivial⟩
  · trivial

theorem createCallee_holds (upheld : site.Upheld regime) :
    regime.Holds (site.createCallee type) fun _ => True := by
  unfold createCallee
  split
  · exact .pure trivial
  · rename_i build given
    intro world kept
    apply Step.ends_bind.mpr
    apply (createFunction_creates site.setup type world).mono
    · intro created after ends
      cases created with
      | none =>
          obtain rfl := ends.1 rfl
          exact Regime.Spends.pure kept ⟨rfl, trivial⟩
      | some index =>
          obtain ⟨rfl, signature, creates⟩ := ends.2 index rfl
          apply Step.ends_bind.mpr
          apply (upheld build given signature world after kept creates).mono
          · exact fun _ _ leads => ⟨0, leads, rfl, trivial⟩
          · exact fun _ failed => failed
    · exact fun _ matched => regime.failing (regime.matching kept matched).1

theorem aside_functionAt (index : Int) : Aside (functionAt index) :=
  .get fun _ => (idle_element _ _).aside

theorem callee_holds (upheld : site.Upheld regime) :
    regime.Holds (site.callee type) fun _ => True := by
  have some_below (first : Int) (count : Nat) :
      regime.Holds (do return some (first + (← Step.below count)) : Gen (Option Int)) fun _ => True :=
    (Regime.Holds.idle (idle_below count)).bind fun _ _ => .pure trivial
  apply Regime.Holds.get
  intro world _
  apply (Regime.Holds.idle idle_reuseCallee).bind
  intro reuse _
  split
  · exact some_below _ _
  · split
    · exact .pure trivial
    · apply (createCallee_holds upheld).bind
      intro made _
      cases made with
      | some index => exact .pure trivial
      | none =>
          dsimp only
          split
          · exact some_below _ _
          · apply (Regime.Holds.aside (aside_functionAt _)).bind
            intro caller _
            exact (Regime.Holds.idle (idle_report _)).bind fun _ _ => .pure trivial

theorem callTerm_holds (expressive : regime.Expressive) (upheld : site.Upheld regime)
    (shapes : site.Shapes regime levels inner) :
    regime.Holds (site.callTerm inner type)
      (IfSome (Expr.Shaped site.settings whole (levels + 1))) := by
  apply (callee_holds upheld).bind
  intro made _
  cases made with
  | none => exact .pure nofun
  | some index =>
      intro world kept
      apply Regime.Spends.get
      have called := expressive.calling index kept
      apply Regime.Spends.remember called
      refine (Regime.Holds.aside (aside_functionAt index)).bind ?_ _ called.1
      intro signature _
      apply (spendTerms_holds expressive _ _).bind
      intro _ _
      apply (Regime.Holds.mapM fun param _ => shapes _).bind
      intro arguments inside
      apply Regime.Holds.pure
      rintro _ ⟨⟩
      exact .call inside

theorem functionTerm_holds (expressive : regime.Expressive) (upheld : site.Upheld regime)
    (shapes : site.Shapes regime levels inner) :
    regime.Holds (site.functionTerm inner depth type)
      (IfSome (Expr.Shaped site.settings (decide (depth ≤ 0)) (levels + 1))) := by
  have call : regime.Holds
      (if depth < maxLevels site.settings then site.callTerm inner type else return none)
      (IfSome (Expr.Shaped site.settings (decide (depth ≤ 0)) (levels + 1))) := by
    split
    · exact callTerm_holds expressive upheld shapes
    · exact .pure nofun
  unfold functionTerm
  dsimp only
  split
  · rename_i below
    have inside : decide (depth ≤ 0) = false := by simpa using below
    apply (operatorForm_holds shapes).bind
    intro made operator
    cases made with
    | some expr => exact .pure (inside ▸ operator)
    | none => exact call
  · exact call

theorem term_holds {inner : Option Inner} {kind : Term} (expressive : regime.Expressive)
    (inUse : kind.inUse site.settings) (upheld : site.Upheld regime)
    (shapes : ∀ make, inner = some make → site.Shapes regime levels make) :
    regime.Holds (site.term inner depth type kind)
      (IfSome (Expr.Shaped site.settings (decide (depth ≤ 0)) (levels + 1))) := by
  have some_of {step : Gen Expr}
      (holds : regime.Holds step
        (Expr.Shaped site.settings (decide (depth ≤ 0)) (levels + 1))) :
      regime.Holds (some <$> step)
        (IfSome (Expr.Shaped site.settings (decide (depth ≤ 0)) (levels + 1))) := by
    apply Regime.Holds.map
    apply holds.mono
    rintro expr formed _ ⟨⟩
    exact formed
  cases inner with
  | none =>
      cases kind with
      | constant => exact some_of constant_holds
      | read => exact readTerm_holds
      | call => exact .pure nofun
      | assign => exact .pure nofun
      | comma => exact .pure nofun
  | some inner =>
      have shapes := shapes inner rfl
      cases kind with
      | constant => exact some_of constant_holds
      | read => exact readTerm_holds
      | call => exact functionTerm_holds expressive upheld shapes
      | assign => exact assignTerm_holds expressive inUse shapes
      | comma => exact some_of (commaTerm_holds expressive inUse shapes)

/-! ### Whole expressions -/

theorem attempts_holds {make : Term → Gen (Option Expr)} {request : Request} {closed : Bool}
    (makes : ∀ kind : Term, kind.inUse site.settings → regime.Holds (make kind)
      (IfSome (Expr.Shaped site.settings whole (levels + 1)))) (left : Nat) :
    regime.Holds (site.attempts make request closed left)
      (Expr.Shaped site.settings whole (levels + 1)) := by
  induction left with
  | zero => exact constant_holds
  | succ left ih =>
      apply Regime.Holds.attemptOr _ ih
      apply (Regime.Holds.idle (idle_chooseTerm _ _ _)).bind
      intro kind inUse
      cases kind with
      | some kind => exact makes kind (inUse kind rfl)
      | none => exact .pure nofun

theorem oneTerm_holds {inner : Option Inner} {request : Request}
    (expressive : regime.Expressive) (upheld : site.Upheld regime)
    (shapes : ∀ make, inner = some make → site.Shapes regime levels make) :
    regime.Holds (site.oneTerm inner depth request)
      (Expr.Shaped site.settings (decide (depth ≤ 0)) (levels + 1)) := by
  apply (Regime.Holds.idle (idle_termsExhausted _)).bind
  intro exhausted _
  exact attempts_holds (fun _ inUse => term_holds expressive inUse upheld shapes) 6

theorem budgeted_holds {step : Gen Expr} {request : Request} {post : Expr → Prop}
    (expressive : regime.Expressive) (holds : regime.Holds step post) :
    regime.Holds (site.budgeted depth request step) post := by
  unfold budgeted
  split
  · exact holds
  · exact withTerms_holds expressive holds

/-- Induction on the number of levels that may still be opened. -/
theorem leaf_holds (expressive : regime.Expressive) (upheld : site.Upheld regime)
    (levels : Nat) (depth : Int) (request : Request) :
    regime.Holds (site.leaf levels depth request)
      (Expr.Shaped site.settings (decide (depth ≤ 0)) (levels + 1)) := by
  induction levels generalizing depth request with
  | zero =>
      rw [leaf]
      apply Regime.Holds.spanning
      apply oneTerm_holds expressive upheld
      rintro _ ⟨⟩
  | succ levels ih =>
      rw [leaf]
      apply Regime.Holds.spanning
      apply oneTerm_holds expressive upheld
      rintro _ ⟨⟩ request
      apply budgeted_holds expressive
      exact (ih (depth + 1) request).mono fun _ => Expr.Shaped.inner

theorem expression_holds (expressive : regime.Expressive) (upheld : site.Upheld regime)
    (request : Request) : regime.Holds (site.expression request) (Expr.Whole site.settings) := by
  have levels : levelsBelow site.settings 0 + 1 = (maxLevels site.settings).toNat := by
    simp only [levelsBelow, maxLevels]
    omega
  have made := leaf_holds expressive upheld (levelsBelow site.settings 0) 0 request
  rw [levels] at made
  apply (budgeted_holds expressive made).bind
  intro expr whole world kept
  have remembered := expressive.expressing expr kept
  exact .remember remembered (.pure remembered.1 ⟨rfl, whole⟩)

end

end Site

end RandomC
