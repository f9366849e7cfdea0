import RandomC.Generation.Definition
import RandomC.Proofs.BlindExpression

/-!
# Generating functions is blind

Statements, blocks, bodies and the run over all functions.  A body that is built inside another one starts
with more functions than the other one did, so the induction for `bodies` is on how many are left.
-/

namespace RandomC

namespace Site

variable {site : Site}

/-! ## Statements -/

theorem blind_chooseKind (depth : Int) (inLoop : Bool) : Blind (site.chooseKind depth inLoop) :=
  (blind_belowUnless _ _).bind fun _ => .pure

theorem blind_recordChange (place : Place) (type : CType) : Blind (recordChange place type) :=
  .modify fun _ _ => rfl

theorem blind_assignable : Blind site.assignable := by
  unfold assignable
  dsimp only
  split
  · exact .pure
  · apply (blind_drawAssignable _ _ _).bind
    rintro (_ | candidate)
    · apply (Blind.draw .next).bind
      intro number
      exact (blind_drawConstant _ _).bind fun _ => .pure
    · exact .pure

theorem blind_assignStatement (builds : BlindSteps site.build) : Blind site.assignStatement := by
  apply blind_assignable.bind
  rintro ⟨place, type, initial⟩
  apply (blind_expression builds _).bind
  intro value
  apply (blind_oneIn 2).decideIf.bind
  intro compound
  exact (blind_recordChange place type).bind fun _ => .pure

theorem blind_condition (builds : BlindSteps site.build) : Blind site.condition := by
  apply (blind_below 7).bind
  intro mask
  apply (blind_oneIn 5).decideIf.bind
  intro isConstant
  split
  · exact (blind_drawConstant _ _).bind fun _ => .pure
  · apply (blind_oneIn 3).bind
    intro isExpression
    split
    · exact (blind_expression builds _).bind fun _ => .pure
    · exact .pure

theorem blind_updateStatement (builds : BlindSteps site.build) : Blind site.updateStatement := by
  unfold updateStatement
  dsimp only
  split
  · exact .pure
  · apply (blind_choose _).bind
    intro v
    apply (blind_expression builds _).bind
    intro value
    exact (blind_recordChange _ _).bind fun _ => .pure

theorem blind_statementOf {nested : Option Nested} (builds : BlindSteps site.build)
    (inside : BlindSteps nested) (kind : StatementKind) :
    Blind (site.statementOf nested kind) := by
  unfold statementOf
  split
  · exact (blind_assignStatement builds).map
  · apply (blind_condition builds).bind
    intro condition
    apply (inside _ rfl false).bind
    intro yes
    exact (inside _ rfl false).bind fun _ => .pure
  · apply (blind_below 5).bind
    intro more
    exact (inside _ rfl true).bind fun _ => .pure
  · exact .pure
  · exact .pure
  · exact .pure
  · exact blind_updateStatement builds
  · exact .pure
  · exact .pure

theorem blind_chargeStatement : Blind chargeStatement := by
  apply Blind.get fun _ _ => rfl
  intro _
  apply (Gen.blind_changeFlow _).bind
  intro _
  apply Blind.get fun _ _ => rfl
  exact fun _ => Gen.blind_remember _

theorem blind_fillBlock : Blind fillBlock := by
  apply Blind.get fun _ _ => rfl
  exact fun _ => (Gen.blind_remember _).bind fun _ => .pure

theorem blind_statement {nested : Option Nested} (builds : BlindSteps site.build)
    (inside : BlindSteps nested) (depth : Int) (inLoop : Bool) :
    Blind (site.statement nested depth inLoop) := by
  apply Blind.get fun _ _ => rfl
  intro world
  split
  · exact .pure
  · apply blind_chargeStatement.bind
    intro _
    apply (blind_chooseKind depth inLoop).bind
    exact fun kind => (blind_statementOf builds inside kind).bind fun _ => .pure

/-! ## Blocks -/

theorem blind_statementAttempts {make : Gen (Option Block)} (made : Blind make) (count : Nat) :
    Blind (site.statementAttempts make count) := by
  induction count with
  | zero => exact blind_fillBlock
  | succ left ih => exact Gen.blind_attemptOr made ih

theorem blind_statements {make : Gen (Option Block)} (made : Blind make) (count : Nat) :
    Blind (site.statements make count) := by
  induction count with
  | zero => exact .pure
  | succ count ih =>
      apply Blind.get fun _ _ => rfl
      intro world
      split
      · exact (Gen.blind_report _).bind fun _ => .pure
      · apply (blind_statementAttempts made 8).bind
        intro first
        exact ih.bind fun _ => .pure

theorem blind_blockOf {nested : Option Nested} (builds : BlindSteps site.build)
    (inside : BlindSteps nested) (depth : Int) (inLoop : Bool) :
    Blind (site.blockOf nested depth inLoop) := by
  apply Blind.get fun _ _ => rfl
  intro world
  split
  · exact .pure
  · exact (blind_below _).bind fun _ => blind_statements (blind_statement builds inside depth inLoop) _

theorem blind_blockWithin (builds : BlindSteps site.build) (levels : Nat) (depth : Int) (inLoop : Bool) :
    Blind (site.blockWithin levels depth inLoop) := by
  induction levels generalizing depth inLoop with
  | zero => exact Gen.blind_spanning (blind_blockOf builds .none depth inLoop)
  | succ levels ih => exact Gen.blind_spanning (blind_blockOf builds (.some (ih (depth + 1))) depth inLoop)

/-! ## Bodies -/

theorem blind_mix (builds : BlindSteps site.build) : Blind site.mix := by
  unfold mix
  dsimp only
  split
  · exact .pure
  · apply (blind_choose _).bind
    intro v
    exact (blind_expression builds _).bind fun _ => .pure

theorem blind_definition (builds : BlindSteps site.build) (signature : Signature) (returnLocal : String) :
    Blind (site.definition signature returnLocal) := by
  apply (blind_blockWithin builds _ 0 false).bind
  intro body
  apply (blind_mix builds).bind
  intro mix
  exact (Gen.blind_report _).bind fun _ => .pure

end Site

variable {setup : Setup}

theorem blind_ensureBuilt {build : Option (Int → Gen Unit)} (builds : BlindSteps build) (index : Int) :
    Blind (ensureBuilt setup build index) := by
  have built : Blind (buildDefinition setup build index) := by
    apply (blind_functionAt index).bind
    intro signature
    apply Gen.blind_freshLocal.bind
    intro returnLocal
    apply (Gen.blind_remember _).bind
    intro _
    exact Gen.blind_inContext (Site.blind_definition builds signature returnLocal)
  apply (blind_builtAt index).bind
  intro done
  split
  · exact .pure
  · apply (Gen.blind_spanning built).bind
    intro definition
    exact (Gen.blind_remember _).bind fun _ => blind_define index definition

theorem blind_bodies (free : Nat) : BlindSteps (bodies setup free) := by
  induction free with
  | zero => exact .none
  | succ free ih => exact .some fun index => blind_ensureBuilt ih index

theorem blind_buildFrom (left index : Nat) : Blind (buildFrom setup left index) := by
  induction left generalizing index with
  | zero => exact .pure
  | succ left ih =>
      apply Blind.get fun _ _ => rfl
      intro world
      dsimp only
      split
      · exact (blind_ensureBuilt (blind_bodies _) index).bind fun _ => ih (index + 1)
      · exact .pure

theorem blind_run (setup : Setup) : Blind (run setup) := by
  apply (blind_addEntry setup).discard.bind
  intro _
  apply Blind.get fun _ _ => rfl
  intro world
  apply (blind_buildFrom _ 0).bind
  intro _
  apply Blind.get fun _ _ => rfl
  exact fun _ => Gen.blind_report _

end RandomC
