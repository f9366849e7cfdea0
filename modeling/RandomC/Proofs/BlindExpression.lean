import RandomC.Generation.Expression
import RandomC.Proofs.Blind

/-!
# Generating expressions is blind

No step of expression generation looks at the source: variables are sought, functions are created and terms
are taken back on the drawn values alone.  How bodies are built is a hypothesis here.
-/

namespace RandomC

/-! ## The state -/

namespace Gen

variable {α : Type}

theorem blind_changeFlow (change : Flow → Flow) : Blind (changeFlow change) := .modify fun _ _ => rfl

theorem blind_report (event : Event) : Blind (report event) := .modify fun _ _ => rfl

theorem blind_remember (moment : Moment) : Blind (remember moment) := .modify fun _ _ => rfl

theorem blind_save : Blind save := by
  apply Blind.get fun _ _ => rfl
  exact fun _ => (blind_remember _).bind fun _ => .pure

theorem blind_goBack (setup : Setup) (start : Checkpoint) : Blind (goBack setup start) := by
  apply Blind.bind (.modify fun _ _ => rfl)
  intro _
  apply Blind.get fun _ _ => rfl
  exact fun _ => blind_remember _

theorem blind_attemptOr {setup : Setup} {attempt : Gen (Option α)} {again : Gen α} (tried : Blind attempt)
    (otherwise : Blind again) : Blind (attemptOr setup attempt again) := by
  apply blind_save.bind
  intro start
  apply tried.bind
  rintro (_ | made)
  · exact (blind_goBack setup start).bind fun _ => otherwise
  · exact .pure

theorem blind_spanning {step : Gen α} (blind : Blind step) : Blind (spanning step) := by
  apply Blind.get fun _ _ => rfl
  intro _
  apply blind.bind
  intro made
  apply Blind.get fun _ _ => rfl
  exact fun _ => (blind_remember _).bind fun _ => .pure

theorem blind_inContext {context : Context} {step : Gen α} (blind : Blind step) :
    Blind (inContext context step) :=
  @Blind.framed World α _ step _ (fun world => { world with context })
    (fun before after => { after with context := before.context }) blind
    (fun _ _ => rfl) (fun _ _ _ => rfl) (fun _ _ _ => rfl)

theorem blind_freshParam : Blind freshParam := by
  apply Blind.get fun _ _ => rfl
  exact fun _ => (blind_changeFlow _).bind fun _ => .pure

theorem blind_freshLocal : Blind freshLocal := by
  apply Blind.get fun _ _ => rfl
  exact fun _ => (blind_changeFlow _).bind fun _ => .pure

theorem blind_freshGlobal : Blind freshGlobal := by
  apply Blind.get fun _ _ => rfl
  exact fun _ => (blind_changeFlow _).bind fun _ => .pure

theorem blind_addGlobal (v : GlobalVar) : Blind (addGlobal v) := (blind_changeFlow _).bind fun _ => .pure

theorem blind_declareLater (v : GlobalVar) (initial : Initial) : Blind (declareLater v initial) :=
  blind_changeFlow _

end Gen

/-! ## The call graph -/

theorem blind_drawParams (scalars : List CType) (limit : Int) : Blind (drawParams scalars limit) := by
  have counted (count : Nat) : Blind ((List.range count).mapM fun _ => do
      let name ← Gen.freshParam
      return (⟨name, ← Step.choose scalars⟩ : Variable)) := by
    apply Blind.mapM
    intro _
    apply Gen.blind_freshParam.bind
    intro name
    exact (blind_choose scalars).bind fun _ => .pure
  unfold drawParams
  dsimp only
  split
  · exact (blind_below _).bind counted
  · exact counted 0

theorem blind_drawSignature (setup : Setup) (number : Int) : Blind (drawSignature setup number) := by
  unfold drawSignature
  split
  · apply (blind_choose _).bind
    intro result
    exact (blind_drawParams _ _).bind fun _ => .pure
  · apply (blind_chooseType _ _ _).bind
    intro result
    apply (blind_coin _).discard.bind
    intro _
    exact (blind_coin _).discard.bind fun _ => .pure

theorem blind_addFunction (signature : Signature) : Blind (addFunction signature) := Gen.blind_changeFlow _

theorem blind_addEntry (setup : Setup) : Blind (addEntry setup) := by
  apply (blind_drawSignature setup _).bind
  exact fun signature => (blind_addFunction signature).bind fun _ => .pure

theorem blind_createFunction (setup : Setup) (result : Option CType) :
    Blind (createFunction setup result) := by
  apply Blind.get fun _ _ => rfl
  intro world
  dsimp only
  split
  · exact .pure
  · -- The signature comes about in one of two ways; what follows is the same.
    have rest (signature : Signature) : Blind (do
        Gen.changeFlow fun flow => { flow with nextFunction := flow.nextFunction + 1 }
        addFunction signature
        Gen.remember (.created world.flow.functions.length signature)
        Gen.report (.scheduled signature.name)
        return some world.flow.functions.length) := by
      apply (Gen.blind_changeFlow _).bind
      intro _
      apply (blind_addFunction signature).bind
      intro _
      apply (Gen.blind_remember _).bind
      intro _
      exact (Gen.blind_report _).bind fun _ => .pure
    cases result with
    | some type => exact (blind_drawParams _ _).bind fun _ => rest _
    | none => exact (blind_drawSignature setup _).bind rest

theorem blind_functionAt (index : Int) : Blind (functionAt index) := by
  apply Blind.get fun _ _ => rfl
  exact fun _ => blind_element _ _

theorem blind_builtAt (index : Int) : Blind (builtAt index) := by
  apply Blind.get fun _ _ => rfl
  exact fun _ => blind_element _ _

theorem blind_define (index : Int) (definition : Definition) : Blind (define index definition) := by
  apply Blind.get fun _ _ => rfl
  intro _
  apply (blind_replace _ _ _).bind
  intro definitions
  apply (Gen.blind_changeFlow _).bind
  intro _
  apply Blind.get fun _ _ => rfl
  intro _
  exact (blind_replace _ _ _).bind fun _ => Gen.blind_changeFlow _

/-! ## Choosing a term -/

theorem blind_chooseTerm (settings : Settings) (entries : List (Term × Int)) (barred : Term → Bool) :
    Blind (chooseTerm settings entries barred) := by
  have allowed : Blind (chooseAllowed entries barred) := by
    unfold chooseAllowed
    split
    · exact .pure
    · exact (blind_belowUnless _ _).bind fun _ => .pure
  have once : Blind (chooseOnce entries barred) := (blind_below _).bind fun _ => .pure
  unfold chooseTerm
  split
  · exact allowed
  · exact once

theorem blind_withTerms {α : Type} {step : Gen α} (settings : Settings) (blind : Blind step) :
    Blind (withTerms settings step) := by
  have entering (stream : Random.Stream) (world : World) :
      ((Drawing.withStream stream world).openTerms settings).2 =
        Drawing.withStream stream (world.openTerms settings).2 := by
    unfold World.openTerms
    split <;> rfl
  have unseen (stream : Random.Stream) (world : World) :
      ((Drawing.withStream stream world).openTerms settings).1 = (world.openTerms settings).1 := by
    unfold World.openTerms
    split <;> rfl
  have leaving (stream : Random.Stream) (saved : Option Int) (world : World) :
      (Drawing.withStream stream world).closeTerms saved =
        Drawing.withStream stream (world.closeTerms saved) := by
    cases saved <;> rfl
  exact @Blind.framed World α _ step _ (fun world => (world.openTerms settings).2)
    (fun before after => after.closeTerms (before.openTerms settings).1) blind entering
    (fun stream before after => leaving stream _ after)
    (fun stream before after => congrArg after.closeTerms (unseen stream before))

theorem blind_spendTerms (settings : Settings) (count : Int) : Blind (spendTerms settings count) := by
  unfold spendTerms
  split
  · exact .pure
  · exact .modify fun _ _ => rfl

theorem blind_termsExhausted (settings : Settings) : Blind (termsExhausted settings) := by
  apply Blind.get fun _ _ => rfl
  exact fun _ => .pure

/-! ## Places -/

theorem blind_drawBand (settings : Settings) : Blind (drawBand settings) := by
  apply (blind_below 100).bind
  intro value
  generalize (if settings.globalVariables then 65 else 50) = limit
  split
  · exact .pure
  · split
    · exact .pure
    · exact .pure

theorem blind_indirectCandidates (setup : Setup) : Blind (indirectCandidates setup) := by
  apply Blind.bind
  · apply Blind.mapM
    intro v
    exact (blind_below _).bind fun _ => .pure
  · exact fun _ => .pure

theorem blind_scopedCandidates (setup : Setup) (scope : Scope) (band : Band) :
    Blind (scopedCandidates setup scope band) := by
  apply Blind.get fun _ _ => rfl
  intro world
  cases band with
  | globals => exact (blind_indirectCandidates setup).bind fun _ => .pure
  | locals => exact (blind_indirectCandidates setup).bind fun _ => .pure
  | params => exact .pure
  | fresh => exact blind_indirectCandidates setup

theorem blind_orAllCandidates (setup : Setup) (scope : Scope) (candidates : List Candidate) :
    Blind (orAllCandidates setup scope candidates) := by
  unfold orAllCandidates
  split
  · apply Blind.get fun _ _ => rfl
    exact fun _ => (blind_indirectCandidates setup).bind fun _ => .pure
  · exact .pure

theorem blind_drawAssignable (setup : Setup) (scope : Scope) (type : CType) :
    Blind (drawAssignable setup scope type) := by
  apply (blind_drawBand _).bind
  intro band
  apply (blind_scopedCandidates setup scope band).bind
  intro candidates
  exact (blind_orAllCandidates setup scope candidates).bind fun _ => blind_selectPlace _ _ _

theorem blind_drawConstant (setup : Setup) (type : CType) : Blind (drawConstant setup type) :=
  .draw (draws_literal _ _)

theorem blind_createGlobal (setup : Setup) (type : CType) (forAssignment : Bool) :
    Blind (createGlobal setup type forAssignment) := by
  apply Gen.blind_freshGlobal.bind
  intro name
  apply (blind_drawQualifiers _).bind
  intro qualifiers
  apply (blind_drawConstant setup type).bind
  intro value
  exact (Gen.blind_declareLater _ _).bind fun _ => Gen.blind_addGlobal _

theorem blind_createZeroGlobal (type : CType) : Blind (createZeroGlobal type) := by
  apply Gen.blind_freshGlobal.bind
  intro name
  exact (Gen.blind_declareLater _ _).bind fun _ => Gen.blind_addGlobal _

/-! ## Terms -/

namespace Site

variable {site : Site} {inner : Inner}

theorem blind_constant (type : CType) : Blind (site.constant type) :=
  (blind_drawConstant _ type).bind fun _ => .pure

theorem blind_parentLocal (type : CType) : Blind (site.parentLocal type) := by
  have chosen : Blind (site.localType type) := by
    unfold localType
    dsimp only
    split
    · exact (blind_below 14).bind fun _ => blind_element _ _
    · exact .pure
  have properties : Blind drawProperties := by
    apply (Blind.mapM fun percent => blind_coin percent).discard.bind
    exact fun _ => (blind_below 20).discard
  unfold parentLocal
  split
  · exact .pure
  · apply chosen.bind
    intro type
    apply properties.bind
    intro _
    exact (blind_createZeroGlobal type).bind fun _ => .pure

theorem blind_beforeLocals : Blind site.beforeLocals := by
  unfold beforeLocals
  split
  · exact (blind_below 1).discard
  · exact .pure

theorem blind_beforeAssignment : Blind site.beforeAssignment := by
  unfold beforeAssignment
  split
  · exact (blind_coin 50).discard.bind fun _ => (blind_below 120).discard
  · exact .pure

theorem blind_commaType (type : CType) : Blind (site.commaType type) := by
  unfold commaType
  split
  · exact blind_chooseType _ _ _
  · exact .pure

theorem blind_reuseCallee : Blind site.reuseCallee := by
  unfold reuseCallee
  split
  · apply (blind_coin 50).bind
    intro reuse
    exact (blind_coin _).discard.bind fun _ => .pure
  · exact blind_oneIn 2

theorem blind_newPlace (type : CType) (band : Band) : Blind (site.newPlace type band) := by
  cases band with
  | fresh => exact (blind_createGlobal _ _ _).map
  | locals => exact blind_beforeLocals.bind fun _ => .pure
  | globals => exact .pure
  | params => exact .pure

theorem blind_missingPlace (type : CType) (candidates : List Candidate) (band : Band) :
    Blind (site.missingPlace type candidates band) := by
  unfold missingPlace
  split
  · exact .pure
  · cases band with
    | globals => exact (blind_createGlobal _ _ _).map
    | locals => exact blind_parentLocal type
    | params => exact .pure
    | fresh => exact .pure

theorem blind_readTerm (type : CType) : Blind (site.readTerm type) := by
  apply (blind_drawBand _).bind
  intro band
  apply (blind_newPlace type band).bind
  rintro (_ | candidate)
  · apply (blind_scopedCandidates _ _ band).bind
    intro candidates
    apply (blind_missingPlace type candidates band).bind
    rintro (_ | candidate)
    · apply (blind_orAllCandidates _ _ candidates).bind
      intro candidates
      exact (blind_selectPlace _ _ _).bind fun _ => .pure
    · exact .pure
  · exact .pure

theorem blind_assignTerm (inside : ∀ request, Blind (inner request)) (type : CType) :
    Blind (site.assignTerm inner type) := by
  apply blind_beforeAssignment.bind
  intro _
  apply (blind_spendTerms _ 1).bind
  intro _
  apply (inside _).bind
  intro value
  apply (blind_drawBand _).bind
  intro band
  apply (blind_scopedCandidates _ _ band).bind
  intro candidates
  split
  · exact (blind_createGlobal _ _ _).bind fun _ => .pure
  · apply (blind_orAllCandidates _ _ candidates).bind
    intro candidates
    exact (blind_selectPlace _ _ _).bind fun _ => .pure

theorem blind_commaTerm (inside : ∀ request, Blind (inner request)) (type : CType) :
    Blind (site.commaTerm inner type) := by
  apply (blind_commaType type).bind
  intro leftType
  apply (blind_spendTerms _ 2).bind
  intro _
  apply (inside _).bind
  intro left
  exact (inside _).bind fun _ => .pure

theorem blind_beforeComplement : Blind beforeComplement :=
  (blind_coin 50).discard.bind fun _ => (blind_below 4).discard

theorem blind_beforeXor : Blind site.beforeXor := by
  apply (blind_coin _).discard.bind
  intro _
  apply (blind_below 18).discard.bind
  intro _
  apply (blind_coin 50).discard.bind
  intro _
  exact (blind_coin 50).discard.bind fun _ => (blind_below 4).discard

theorem blind_operatorForm (inside : ∀ request, Blind (inner request)) (type : CType) :
    Blind (site.operatorForm inner type) := by
  unfold operatorForm
  split
  · exact .pure
  · apply (blind_coin 80).bind
    intro operator
    split
    · exact .pure
    · apply (blind_coin 5).bind
      intro unary
      split
      · apply blind_beforeComplement.bind
        intro _
        exact (inside _).bind fun _ => .pure
      · apply blind_beforeXor.bind
        intro _
        apply (inside _).bind
        intro left
        exact (inside _).bind fun _ => .pure

/-! ## Calls -/

theorem blind_createCallee (builds : BlindSteps site.build) (type : CType) :
    Blind (site.createCallee type) := by
  unfold createCallee
  split
  · exact .pure
  · rename_i build known
    apply (blind_createFunction _ _).bind
    rintro (_ | index)
    · exact .pure
    · exact (builds build known index).bind fun _ => .pure

theorem blind_callee (builds : BlindSteps site.build) (type : CType) : Blind (site.callee type) := by
  apply Blind.get fun _ _ => rfl
  intro world
  dsimp only
  apply blind_reuseCallee.bind
  intro reuse
  split
  · exact (blind_below _).bind fun _ => .pure
  · split
    · exact .pure
    · apply (blind_createCallee builds type).bind
      rintro (_ | index)
      · dsimp only
        split
        · exact (blind_below _).bind fun _ => .pure
        · apply (blind_functionAt _).bind
          intro caller
          exact (Gen.blind_report _).bind fun _ => .pure
      · exact .pure

theorem blind_callTerm (builds : BlindSteps site.build) (inside : ∀ request, Blind (inner request))
    (type : CType) : Blind (site.callTerm inner type) := by
  apply (blind_callee builds type).bind
  rintro (_ | index)
  · exact .pure
  · apply Blind.get fun _ _ => rfl
    intro world
    apply (Gen.blind_remember _).bind
    intro _
    apply (blind_functionAt index).bind
    intro signature
    apply (blind_spendTerms _ _).bind
    intro _
    exact (Blind.mapM fun _ => inside _).bind fun _ => .pure

theorem blind_functionTerm (builds : BlindSteps site.build) (inside : ∀ request, Blind (inner request))
    (depth : Int) (type : CType) : Blind (site.functionTerm inner depth type) := by
  have called : Blind (if depth < maxLevels site.settings then site.callTerm inner type else return none) := by
    split
    · exact blind_callTerm builds inside type
    · exact .pure
  unfold functionTerm
  -- The call stands on both branches; under a name it is not split along with them.
  generalize (if depth < maxLevels site.settings then site.callTerm inner type else return none) = call
    at called
  dsimp only
  split
  · apply (blind_operatorForm inside type).bind
    rintro (_ | expr)
    · exact called
    · exact .pure
  · exact called

theorem blind_term {inner : Option Inner} (builds : BlindSteps site.build)
    (inside : BlindSteps inner) (depth : Int) (type : CType) (kind : Term) :
    Blind (site.term inner depth type kind) := by
  unfold term
  split
  · exact (blind_constant type).map
  · exact blind_readTerm type
  · exact blind_functionTerm builds (inside _ rfl) depth type
  · exact blind_assignTerm (inside _ rfl) type
  · exact (blind_commaTerm (inside _ rfl) type).map
  · exact .pure

/-! ## Expressions -/

theorem blind_attempts {make : Term → Gen (Option Expr)} (made : ∀ kind, Blind (make kind))
    (request : Request) (closed : Bool) (count : Nat) :
    Blind (site.attempts make request closed count) := by
  have tried : Blind (site.attempt make request closed) := by
    apply (blind_chooseTerm _ _ _).bind
    rintro (_ | kind)
    · exact .pure
    · exact made kind
  induction count with
  | zero => exact blind_constant _
  | succ left ih => exact Gen.blind_attemptOr tried ih

theorem blind_oneTerm {inner : Option Inner} (builds : BlindSteps site.build)
    (inside : BlindSteps inner) (depth : Int) (request : Request) :
    Blind (site.oneTerm inner depth request) := by
  apply (blind_termsExhausted _).bind
  exact fun _ => blind_attempts (blind_term builds inside depth request.type) request _ 6

theorem blind_budgeted {step : Gen Expr} (blind : Blind step) (depth : Int) (request : Request) :
    Blind (site.budgeted depth request step) := by
  unfold budgeted
  split
  · exact blind
  · exact blind_withTerms _ blind

theorem blind_leaf (builds : BlindSteps site.build) (levels : Nat) (depth : Int) (request : Request) :
    Blind (site.leaf levels depth request) := by
  induction levels generalizing depth request with
  | zero => exact Gen.blind_spanning (blind_oneTerm builds .none depth request)
  | succ levels ih =>
      have inside (request : Request) :
          Blind (site.budgeted (depth + 1) request (site.leaf levels (depth + 1) request)) :=
        blind_budgeted (ih (depth + 1) request) _ request
      exact Gen.blind_spanning (blind_oneTerm builds (.some inside) depth request)

theorem blind_expression (builds : BlindSteps site.build) (request : Request) :
    Blind (site.expression request) := by
  apply (blind_budgeted (blind_leaf builds _ 0 request) 0 request).bind
  exact fun _ => (Gen.blind_remember _).bind fun _ => .pure

end Site

end RandomC
