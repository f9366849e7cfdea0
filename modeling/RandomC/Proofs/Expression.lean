import RandomC.Proofs.Attempt

/-!
# Expressions are well-formed

Each kind of term is followed by the contract it keeps, given that the expressions inside it keep theirs.
The induction on the number of levels that may still be opened ties the contracts together.  A call is
where the state grows most: the function it creates waits for its body, and `Builds` says what building
the body has to achieve.
-/

namespace RandomC

/-! ## Sites -/

/-- The body of the last function was built: it has a definition, as have those created meanwhile. -/
structure World.Settles (setup : Setup) (index : Nat) (before after : World) : Prop where
  good : after.Good setup
  defined : ∃ definition, (before.flow.withDefinition index definition).Extends after.flow
  complete : ∀ later, index ≤ later → after.flow.built[later]? ≠ some false
  context : after.context = before.context
  history : before.history <:+ after.history

/-- Wherever the last function waits for its body, it gets one. -/
def Builds (setup : Setup) (build : Int → Gen Unit) : Prop :=
  ∀ (index : Nat) (world : World), world.Awaits setup index →
    (build index).Ends world (fun _ after => world.Settles setup index after)
      fun after => HistorySound setup after.history

namespace Site

/-- The state is one inside the body of the function at an index, and the site is one of this body. -/
structure Fits (site : Site) (caller : Nat) (world : World) : Prop where
  running : world.context.caller = caller
  bound : caller < world.flow.functions.length
  params : ∃ signature, world.flow.functions[caller]? = some signature ∧ site.scope.params = signature.params
  /-- The functions after this one have their bodies. -/
  complete : ∀ later, caller < later → world.flow.built[later]? ≠ some false
  locals : world.context.locals = []
  scope : site.scope.locals = [⟨accumulator, .uint32⟩]
  returns : site.scope.returnLocal.isEmpty = false
  builds : ∀ build, site.build = some build → Builds site.setup build

/-- The expression has a type and may stand in the body of the function at an index. -/
structure Admits (site : Site) (caller : Nat) (type : CType) (flow : Flow) (expr : Expr) : Prop where
  type : expr.type = type
  formed : expr.Formed site.setup caller site.scope.params flow

/-- Wherever a request for a known type is made in the body of the function at an index, it is met by an
expression that may stand there. -/
def Makes (site : Site) (caller : Nat) (inner : Inner) : Prop :=
  ∀ (request : Request) (world : World), site.setup.Knows request.type → site.Fits caller world →
    world.Good site.setup →
      Keeps site.setup World.Grows (inner request) world fun expr after =>
        site.Admits caller request.type after.flow expr

section

variable {site : Site} {caller : Nat} {world before after : World} {type : CType} {expr : Expr}
variable {relation : World → World → Prop} [Progress relation] {inner : Inner}

theorem Fits.mono (proceeds : before.Proceeds after) (fits : site.Fits caller before) :
    site.Fits caller after where
  running := proceeds.caller.trans fits.running
  bound := Nat.lt_of_lt_of_le fits.bound proceeds.flow.functions.length_le
  params := by
    obtain ⟨signature, found, same⟩ := fits.params
    exact ⟨signature, proceeds.flow.widens.function found, same⟩
  complete later after := proceeds.stays (fits.complete later after)
  locals := proceeds.locals.trans fits.locals
  scope := fits.scope
  returns := fits.returns
  builds := fits.builds

theorem Fits.still (still : before.Still after) (fits : site.Fits caller before) :
    site.Fits caller after :=
  fits.mono (.of_still still)

theorem Admits.mono {before after : Flow} (wider : before.Widens after)
    (admits : site.Admits caller type before expr) : site.Admits caller type after expr :=
  ⟨admits.type, admits.formed.mono wider⟩

/-! ## Places -/

/-- The accumulator is not on offer for expressions, and the body declares no other local variable. -/
theorem localCandidates_eq_nil (fits : site.Fits caller world) :
    localCandidates site.scope world.context = [] := by
  simp [localCandidates, fits.scope, fits.locals]

theorem offered_of_visible {candidate : Candidate} {flow : Flow}
    (member : candidate ∈ flow.candidates ++ site.scope.params.map Variable.candidate) :
    Offered site.setup site.scope.params flow candidate := by
  rcases List.mem_append.mp member with shared | own
  · exact .global shared
  · obtain ⟨v, declared, rfl⟩ := List.mem_map.mp own
    exact .param declared

theorem scopedCandidates_keeps (fits : site.Fits caller world) (good : world.Good site.setup)
    (band : Band) :
    Keeps site.setup relation (scopedCandidates site.setup site.scope band) world
      fun candidates after => world.Still after ∧
        ∀ candidate ∈ candidates, Offered site.setup site.scope.params world.flow candidate := by
  have indirect : Idle (indirectCandidates site.setup) _ :=
    idle_indirectCandidates site.scope.params world.flow
  apply Keeps.get
  cases band with
  | globals =>
      apply (indirect.bind _).keeps good
      intro candidates offered
      apply Idle.pure
      intro candidate member
      rcases List.mem_append.mp member with shared | found
      · exact .global shared
      · exact offered candidate found
  | locals =>
      rw [localCandidates_eq_nil fits]
      exact (indirect.bind fun _ offered => .pure offered).keeps good
  | params =>
      apply Idle.keeps _ good
      apply Idle.pure
      intro candidate member
      exact offered_of_visible (List.mem_append_right _ member)
  | fresh => exact indirect.keeps good

theorem orAllCandidates_keeps {candidates : List Candidate} (fits : site.Fits caller world)
    (good : world.Good site.setup)
    (offered : ∀ candidate ∈ candidates, Offered site.setup site.scope.params world.flow candidate) :
    Keeps site.setup relation (orAllCandidates site.setup site.scope candidates) world
      fun candidates after => world.Still after ∧
        ∀ candidate ∈ candidates, Offered site.setup site.scope.params world.flow candidate := by
  unfold orAllCandidates
  split
  · have indirect : Idle (indirectCandidates site.setup) _ :=
      idle_indirectCandidates site.scope.params world.flow
    apply Keeps.get
    rw [localCandidates_eq_nil fits, List.append_nil]
    apply (indirect.bind _).keeps good
    intro candidates others
    apply Idle.pure
    intro candidate member
    rcases List.mem_append.mp member with visible | found
    · exact offered_of_visible visible
    · exact others candidate found
  · exact (Idle.pure offered).keeps good

/-- A place that is selected where candidates are on offer. -/
theorem selectPlace_keeps {candidates : List Candidate} {forAssignment : Bool}
    (good : world.Good site.setup)
    (offered : ∀ candidate ∈ candidates, Offered site.setup site.scope.params world.flow candidate) :
    Keeps site.setup relation (selectPlace type candidates forAssignment) world
      fun selected after => world.Still after ∧ ∀ candidate, selected = some candidate →
        Offered site.setup site.scope.params after.flow candidate ∧
          (forAssignment → candidate.assignable) := by
  apply ((idle_selectPlace type candidates forAssignment).keeps good).mono
  intro selected after _ _ ends
  refine ⟨ends.1, ?_⟩
  intro candidate same
  have chosen := ends.2 candidate same
  exact ⟨ends.1.flow ▸ offered candidate chosen.1, chosen.2⟩

/-- A place that was found or created, if any. -/
abbrev OffersSome (site : Site) (flow : Flow) (made : Option Candidate) : Prop :=
  ∀ candidate, made = some candidate → Offered site.setup site.scope.params flow candidate

theorem createGlobal_offers {forAssignment : Bool} (good : world.Good site.setup)
    (known : site.setup.Knows type) :
    Keeps site.setup World.Grows (some <$> createGlobal site.setup type forAssignment) world
      fun made after => site.OffersSome after.flow made := by
  apply Keeps.map
  apply (createGlobal_keeps good known).mono
  rintro candidate after _ _ ⟨member, -⟩ _ ⟨⟩
  exact .global member

theorem idle_beforeLocals : Idle site.beforeLocals fun _ => True := by
  unfold beforeLocals
  split
  · exact (idle_below 1).discard
  · exact .pure trivial

theorem idle_beforeAssignment : Idle site.beforeAssignment fun _ => True := by
  unfold beforeAssignment
  split
  · apply (idle_coin 50).discard.bind
    exact fun _ _ => (idle_below 120).discard
  · exact .pure trivial

theorem idle_localType (known : site.setup.Knows type) :
    Idle (site.localType type) site.setup.Knows := by
  unfold localType
  dsimp only
  split
  · apply (idle_below 14).bind
    intro value _
    exact (idle_element _ _).mono fun _ member => .scalar member
  · exact .pure known

theorem idle_drawProperties : Idle drawProperties fun _ => True := by
  have coins : Idle (([50, 10, 20, 50, 50] : List Int).mapM fun percent => (Step.coin percent : Gen Bool))
      fun values => ∀ value ∈ values, True :=
    Idle.mapM fun percent _ => idle_coin percent
  apply coins.discard.bind
  exact fun _ _ => (idle_below 20).discard

theorem parentLocal_keeps (good : world.Good site.setup) (known : site.setup.Knows type) :
    Keeps site.setup World.Grows (site.parentLocal type) world
      fun made after => site.OffersSome after.flow made := by
  unfold parentLocal
  split
  · exact .pure good nofun
  · apply Keeps.idle (idle_localType known) good
    intro chosen start good _ known
    apply Keeps.idle idle_drawProperties good
    intro _ start good _ _
    apply (createZeroGlobal_keeps good known).bind
    intro candidate after good _ member
    apply Keeps.pure good
    rintro _ ⟨⟩
    exact .global member

theorem newPlace_keeps (good : world.Good site.setup) (known : site.setup.Knows type) (band : Band) :
    Keeps site.setup World.Grows (site.newPlace type band) world
      fun made after => site.OffersSome after.flow made := by
  cases band with
  | fresh => exact createGlobal_offers good known
  | locals =>
      apply Keeps.idle idle_beforeLocals good
      exact fun _ _ good _ _ => .pure good nofun
  | globals => exact .pure good nofun
  | params => exact .pure good nofun

theorem missingPlace_keeps {candidates : List Candidate} (good : world.Good site.setup)
    (known : site.setup.Knows type) (band : Band) :
    Keeps site.setup World.Grows (site.missingPlace type candidates band) world
      fun made after => site.OffersSome after.flow made := by
  unfold missingPlace
  split
  · exact .pure good nofun
  · cases band with
    | globals => exact createGlobal_offers good known
    | locals => exact parentLocal_keeps good known
    | params => exact .pure good nofun
    | fresh => exact .pure good nofun

/-! ## Terms -/

/-- A term that was made, if any. -/
abbrev AdmitsSome (site : Site) (caller : Nat) (type : CType) (flow : Flow) (made : Option Expr) : Prop :=
  ∀ expr, made = some expr → site.Admits caller type flow expr

theorem constant_keeps (good : world.Good site.setup) (known : site.setup.Knows type) :
    Keeps site.setup relation (site.constant type) world fun expr after =>
      site.Admits caller type after.flow expr := by
  apply Keeps.idle (idle_drawConstant type) good
  exact fun _ _ good _ plain => .pure good ⟨rfl, .literal known plain⟩

theorem readTerm_keeps (fits : site.Fits caller world) (good : world.Good site.setup)
    (known : site.setup.Knows type) :
    Keeps site.setup World.Grows (site.readTerm type) world fun made after =>
      site.AdmitsSome caller type after.flow made := by
  have read {candidate : Candidate} {flow : Flow}
      (offered : Offered site.setup site.scope.params flow candidate) :
      site.AdmitsSome caller type flow (some (.read type candidate.place)) := by
    rintro _ ⟨⟩
    exact ⟨rfl, .read known offered⟩
  apply Keeps.idle (idle_drawBand _) good
  intro band start good still _
  have fits := fits.still still
  apply (newPlace_keeps good known band).bind
  intro made start good grows offers
  have fits := fits.mono grows.toProceeds
  cases made with
  | some candidate => exact .pure good (read (offers candidate rfl))
  | none =>
      apply (scopedCandidates_keeps fits good band).bind
      rintro candidates later good - ⟨still, offered⟩
      have fits := fits.still still
      rw [← still.flow] at offered
      apply (missingPlace_keeps good known band).bind
      intro made start good grows offers
      have fits := fits.mono grows.toProceeds
      cases made with
      | some candidate => exact .pure good (read (offers candidate rfl))
      | none =>
          have offered : ∀ candidate ∈ candidates,
              Offered site.setup site.scope.params start.flow candidate :=
            fun candidate member => (offered candidate member).mono grows.flow.widens
          apply (orAllCandidates_keeps fits good offered).bind
          rintro candidates after good - ⟨still, offered⟩
          rw [← still.flow] at offered
          apply (selectPlace_keeps good offered).bind
          rintro selected last good - ⟨-, chosen⟩
          apply Keeps.pure good
          intro expr made
          obtain ⟨candidate, same, rfl⟩ := Option.map_eq_some_iff.mp made
          exact read (chosen candidate same).1 _ rfl

/-- An assignment to a place that is found for a value.  The value was generated before the place was
looked for. -/
theorem assignTerm_keeps (makes : site.Makes caller inner) (fits : site.Fits caller world)
    (good : world.Good site.setup) (known : site.setup.Knows type) :
    Keeps site.setup World.Grows (site.assignTerm inner type) world fun made after =>
      site.AdmitsSome caller type after.flow made := by
  unfold assignTerm
  apply Keeps.idle idle_beforeAssignment good
  intro _ start good still _
  have fits := fits.still still
  apply Keeps.spendTerms good
  intro start good still
  have fits := fits.still still
  apply (makes (.plain type) start known fits good).bind
  intro value start good grows admits
  have fits := fits.mono grows.toProceeds
  apply Keeps.idle (idle_drawBand _) good
  intro band later good still _
  have fits := fits.still still
  rw [← still.flow] at admits
  apply (scopedCandidates_keeps fits good band).bind
  rintro candidates start good - ⟨still, offered⟩
  have fits := fits.still still
  rw [← still.flow] at admits offered
  have assign {candidate : Candidate} {flow : Flow} (wider : start.flow.Widens flow)
      (offered : Offered site.setup site.scope.params flow candidate)
      (assignable : candidate.assignable) :
      site.AdmitsSome caller type flow (some (.assign type candidate.place value)) := by
    rintro _ ⟨⟩
    exact ⟨rfl, .assign known offered assignable admits.type (admits.formed.mono wider)⟩
  split
  · apply (createGlobal_keeps good known).bind
    rintro candidate after good grows ⟨member, assignable⟩
    exact .pure good (assign grows.flow.widens (.global member) (assignable rfl))
  · apply (orAllCandidates_keeps fits good offered).bind
    rintro candidates after good grows ⟨still, offered⟩
    rw [← still.flow] at offered
    apply (selectPlace_keeps good offered).bind
    rintro selected last good grown ⟨-, chosen⟩
    apply Keeps.pure good
    intro expr made
    obtain ⟨candidate, same, rfl⟩ := Option.map_eq_some_iff.mp made
    have found := chosen candidate same
    exact assign (Progress.trans grows grown : start.Grows last).flow.widens found.1 (found.2 rfl) _ rfl

theorem idle_commaType (known : site.setup.Knows type) :
    Idle (site.commaType type) site.setup.Knows := by
  unfold commaType
  split
  · exact idle_chooseType known
  · exact .pure known

theorem commaTerm_keeps (makes : site.Makes caller inner) (fits : site.Fits caller world)
    (good : world.Good site.setup) (known : site.setup.Knows type) :
    Keeps site.setup World.Grows (site.commaTerm inner type) world fun expr after =>
      site.Admits caller type after.flow expr := by
  apply Keeps.idle (idle_commaType known) good
  intro leftType start good still leftKnown
  have fits := fits.still still
  apply Keeps.spendTerms good
  intro start good still
  have fits := fits.still still
  apply (makes ⟨leftType, false, false, true⟩ start leftKnown fits good).bind
  intro left middle good grows leftAdmits
  have fits := fits.mono grows.toProceeds
  apply (makes (.plain type) middle known fits good).bind
  intro right after good grows rightAdmits
  have leftAdmits := leftAdmits.mono grows.flow.widens
  exact .pure good ⟨rfl, .comma known rightAdmits.type leftAdmits.formed rightAdmits.formed⟩

theorem idle_beforeComplement : Idle beforeComplement fun _ => True := by
  apply (idle_coin 50).discard.bind
  exact fun _ _ => (idle_below 4).discard

theorem idle_beforeXor : Idle site.beforeXor fun _ => True := by
  apply (idle_coin _).discard.bind
  intro _ _
  apply (idle_below 18).discard.bind
  intro _ _
  apply (idle_coin 50).discard.bind
  intro _ _
  apply (idle_coin 50).discard.bind
  exact fun _ _ => (idle_below 4).discard

theorem operatorForm_keeps (makes : site.Makes caller inner) (fits : site.Fits caller world)
    (good : world.Good site.setup) (known : site.setup.Knows type) :
    Keeps site.setup World.Grows (site.operatorForm inner type) world fun made after =>
      site.AdmitsSome caller type after.flow made := by
  unfold operatorForm
  split
  · exact .pure good nofun
  apply Keeps.idle (idle_coin 80) good
  intro wanted start good still _
  have fits := fits.still still
  split
  · exact .pure good nofun
  apply Keeps.idle (idle_coin 5) good
  intro unary start good still _
  have fits := fits.still still
  split
  · apply Keeps.idle idle_beforeComplement good
    intro _ start good still _
    have fits := fits.still still
    apply (makes (.plain type) start known fits good).bind
    intro operand after good _ admits
    apply Keeps.pure good
    rintro _ ⟨⟩
    exact ⟨rfl, .complement known admits.type admits.formed⟩
  · apply Keeps.idle idle_beforeXor good
    intro _ start good still _
    have fits := fits.still still
    apply (makes (.plain type) start known fits good).bind
    intro left middle good grows leftAdmits
    have fits := fits.mono grows.toProceeds
    apply (makes (.plain type) middle known fits good).bind
    intro right after good grows rightAdmits
    have leftAdmits := leftAdmits.mono grows.flow.widens
    apply Keeps.pure good
    rintro _ ⟨⟩
    exact ⟨rfl, .xor known leftAdmits.type rightAdmits.type leftAdmits.formed rightAdmits.formed⟩

/-! ## Calls -/

/-- The index is one of a function that was created after the caller. -/
abbrev Callable (caller : Nat) (world : World) (index : Nat) : Prop :=
  caller < index ∧ index < world.flow.functions.length

/-- A function that can be called has its body. -/
theorem Fits.called {position : Nat} (fits : site.Fits caller world) (good : world.Good site.setup)
    (callable : Callable caller world position) :
    Moment.Sound site.setup world.history (.called position world.checkpoint) :=
  ⟨position, rfl, good.aligned.built callable.2 (fits.complete position callable.1)⟩

/-- A function that is created and gets its body at once extends the state. -/
theorem Settles.grows {setup : Setup} {index : Nat} {start : World} (good : world.Good setup)
    (adds : world.Adds setup index start) (settles : start.Settles setup index after) :
    world.Grows after := by
  rcases adds with ⟨rfl, -, ⟨signature, flow⟩, context, history⟩
  rcases settles.defined with ⟨definition, defined⟩
  rw [flow] at defined
  constructor
  · constructor
    · exact (Flow.extends_withFunction_withDefinition good.aligned).trans defined
    · exact fun later bound => settles.complete later (good.aligned.built_length ▸ bound)
    · rw [settles.context, context]
    · rw [settles.context, context]
    · exact history.trans settles.history
  · rw [settles.context, context]

/-- A function that was created and built is there to stay. -/
theorem createCallee_keeps (fits : site.Fits caller world) (good : world.Good site.setup)
    (known : site.setup.Knows type) :
    Keeps site.setup World.Grows (site.createCallee type) world fun made after =>
      ∀ index, made = some index → Callable caller after index := by
  unfold createCallee
  split
  · exact .pure good nofun
  · rename_i build given
    apply Step.ends_bind.mpr
    apply (createFunction_ends good known).mono
    · intro created start ends
      cases created with
      | none =>
          have still := ends.1 rfl
          exact ⟨still.good good, Progress.of_still still, nofun⟩
      | some index =>
          have adds := ends.2 index rfl
          apply Step.ends_bind.mpr
          apply (fits.builds build given index start adds.awaits).mono
          · intro _ after settles
            have grows := Settles.grows good adds settles
            refine ⟨settles.good, grows, ?_⟩
            rintro _ ⟨⟩
            rcases settles.defined with ⟨definition, defined⟩
            constructor
            · exact adds.position ▸ fits.bound
            · have longer := defined.functions.length_le
              have last := adds.awaits.last
              simp only [Flow.withDefinition] at longer
              omega
          · exact fun _ sound => sound
    · exact fun _ sound => sound

theorem idle_reuseCallee : Idle site.reuseCallee fun _ => True := by
  unfold reuseCallee
  split
  · apply (idle_coin 50).bind
    intro reuse _
    apply (idle_coin _).discard.bind
    exact fun _ _ => .pure trivial
  · exact idle_oneIn 2

/-- The functions after the caller, those that were there when the callee was chosen. -/
theorem below_keeps {count : Nat} (good : world.Good site.setup) (someLeft : count ≠ 0)
    (within : caller + 1 + count ≤ world.flow.functions.length) :
    Keeps site.setup relation
      (do return some ((caller : Int) + 1 + (← Step.below count)) : Gen (Option Int)) world
      fun made after =>
        ∀ index, made = some index → ∃ position : Nat, index = position ∧ Callable caller after position := by
  apply Keeps.idle (idle_below count) good
  intro value after good still bound
  apply Keeps.pure good
  rintro _ ⟨⟩
  refine ⟨caller + 1 + value, by omega, by omega, ?_⟩
  rw [still.flow]
  omega

theorem callee_keeps (fits : site.Fits caller world) (good : world.Good site.setup)
    (known : site.setup.Knows type) :
    Keeps site.setup World.Grows (site.callee type) world fun made after =>
      ∀ index, made = some index → ∃ position : Nat, index = position ∧ Callable caller after position := by
  unfold callee
  apply Keeps.get
  have within : caller + 1 + (world.flow.functions.length - (world.context.caller + 1)).toNat ≤
      world.flow.functions.length := by
    have running := fits.running
    have bound := fits.bound
    omega
  rw [fits.running] at within ⊢
  dsimp only
  generalize ((world.flow.functions.length : Int) - (caller + 1)).toNat = count at within ⊢
  apply Keeps.idle idle_reuseCallee good
  intro reuse start good still _
  have fits := fits.still still
  rw [← still.flow] at within
  split
  · rename_i reused
    exact below_keeps good (by simp_all) within
  split
  · exact .pure good nofun
  apply (createCallee_keeps fits good known).bind
  intro made start good grows callable
  have fits := fits.mono grows.toProceeds
  cases made with
  | some index =>
      apply Keeps.pure good
      rintro _ ⟨⟩
      exact ⟨index, rfl, callable index rfl⟩
  | none =>
      dsimp only
      split
      · rename_i someLeft
        exact below_keeps good someLeft (Nat.le_trans within grows.flow.functions.length_le)
      · apply Step.ends_bind.mpr
        apply functionAt_ends (List.getElem?_eq_getElem fits.bound)
        apply Keeps.idle (idle_report _) good
        exact fun _ _ good _ _ => .pure good nofun

/-- The arguments are generated one after the other, and each may extend the state. -/
structure Arguments (site : Site) (caller : Nat) (start : World) (params : List Variable)
    (arguments : List Expr) (now : World) : Prop where
  good : now.Good site.setup
  grows : start.Grows now
  types : arguments.map Expr.type = params.map (·.type)
  formed : ∀ argument ∈ arguments, argument.Formed site.setup caller site.scope.params now.flow

theorem arguments_ends {params : List Variable} (makes : site.Makes caller inner)
    (fits : site.Fits caller world) (good : world.Good site.setup)
    (known : ∀ param ∈ params, site.setup.Knows param.type) :
    (params.mapM fun param => inner (.forArgument param.type)).Ends world
      (site.Arguments caller world params) fun after => HistorySound site.setup after.history := by
  apply Step.ends_mapM (site.Arguments caller world)
  · intro done param arguments start member so_far
    have fits := fits.mono so_far.grows.toProceeds
    apply Step.Ends.mono (makes (.forArgument param.type) start (known param member) fits so_far.good)
    · rintro argument after ⟨good, grows, admits⟩
      refine ⟨good, Progress.trans so_far.grows grows, ?_, ?_⟩
      · simp only [List.map_append, so_far.types, List.map_cons, List.map_nil, admits.type,
          Request.forArgument]
      · intro other present
        rcases List.mem_append.mp present with old | new
        · exact (so_far.formed other old).mono grows.flow.widens
        · obtain rfl := List.mem_singleton.mp new
          exact admits.formed
    · exact fun _ sound => sound
  · exact ⟨good, Progress.of_still (.refl world), rfl, by simp⟩

theorem callTerm_keeps (makes : site.Makes caller inner) (fits : site.Fits caller world)
    (good : world.Good site.setup) (known : site.setup.Knows type) :
    Keeps site.setup World.Grows (site.callTerm inner type) world fun made after =>
      site.AdmitsSome caller type after.flow made := by
  apply (callee_keeps fits good known).bind
  intro made start good grows callable
  have fits := fits.mono grows.toProceeds
  cases made with
  | none => exact .pure good nofun
  | some index =>
      obtain ⟨position, rfl, later, bound⟩ := callable index rfl
      apply Keeps.get
      apply Keeps.remember good (fits.called good ⟨later, bound⟩)
      intro start good grows same
      have fits := fits.mono grows.toProceeds
      rw [← same] at bound
      have found := List.getElem?_eq_getElem bound
      generalize start.flow.functions[position] = signature at found
      have member := List.mem_of_getElem? found
      apply Step.ends_bind.mpr
      apply functionAt_ends found
      apply Keeps.spendTerms good
      intro ready good still
      have fits := fits.still still
      rw [← still.flow] at found member
      have params := (good.formed.functions signature member).2
      apply Step.ends_bind.mpr
      apply (arguments_ends makes fits good params).mono
      · intro arguments after ends
        refine ⟨ends.good, ends.grows, ?_⟩
        rintro _ ⟨⟩
        have found := ends.grows.flow.widens.function found
        exact ⟨rfl, .call known later found ends.types ends.formed⟩
      · exact fun _ sound => sound

theorem functionTerm_keeps {depth : Int} (makes : site.Makes caller inner) (fits : site.Fits caller world)
    (good : world.Good site.setup) (known : site.setup.Knows type) :
    Keeps site.setup World.Grows (site.functionTerm inner depth type) world fun made after =>
      site.AdmitsSome caller type after.flow made := by
  have call {start : World} (fits : site.Fits caller start) (good : start.Good site.setup) :
      Keeps site.setup World.Grows
        (if depth < maxLevels site.settings then site.callTerm inner type else return none) start
        fun made after => site.AdmitsSome caller type after.flow made := by
    split
    · exact callTerm_keeps makes fits good known
    · exact .pure good nofun
  unfold functionTerm
  dsimp only
  split
  · apply (operatorForm_keeps makes fits good known).bind
    intro made start good grows admits
    cases made with
    | some expr => exact .pure good admits
    | none => exact call (fits.mono grows.toProceeds) good
  · exact call fits good

/-- What holds of the way in which expressions inside a term are made, where there can be some. -/
abbrev MakesInside (site : Site) (caller : Nat) (inner : Option Inner) : Prop :=
  ∀ make, inner = some make → site.Makes caller make

theorem term_keeps {inner : Option Inner} {depth : Int} {kind : Term} (makes : site.MakesInside caller inner)
    (fits : site.Fits caller world) (good : world.Good site.setup) (known : site.setup.Knows type) :
    Keeps site.setup World.Grows (site.term inner depth type kind) world fun made after =>
      site.AdmitsSome caller type after.flow made := by
  have whole {step : Gen Expr}
      (keeps : Keeps site.setup World.Grows step world fun expr after =>
        site.Admits caller type after.flow expr) :
      Keeps site.setup World.Grows (some <$> step) world fun made after =>
        site.AdmitsSome caller type after.flow made := by
    apply Keeps.map
    apply keeps.mono
    rintro expr after _ _ admits _ ⟨⟩
    exact admits
  cases inner with
  | none =>
      cases kind with
      | constant => exact whole (constant_keeps good known)
      | read => exact readTerm_keeps fits good known
      | call => exact .pure good nofun
      | assign => exact .pure good nofun
      | comma => exact .pure good nofun
  | some inner =>
      have makes := makes inner rfl
      cases kind with
      | constant => exact whole (constant_keeps good known)
      | read => exact readTerm_keeps fits good known
      | call => exact functionTerm_keeps makes fits good known
      | assign => exact assignTerm_keeps makes fits good known
      | comma => exact whole (commaTerm_keeps makes fits good known)

/-! ## Whole expressions -/

/-- An attempt leaves the context alone, also when it comes to nothing. -/
theorem attempt_keeps {inner : Option Inner} {depth : Int} {request : Request} {closed : Bool}
    (makes : site.MakesInside caller inner) (fits : site.Fits caller world)
    (good : world.Good site.setup) (known : site.setup.Knows request.type) :
    Keeps site.setup World.Grows (site.attempt (site.term inner depth request.type) request closed) world
      fun made after => site.AdmitsSome caller request.type after.flow made := by
  apply Keeps.idle (idle_chooseTerm _ _ _) good
  intro kind ready good still _
  cases kind with
  | some kind => exact term_keeps makes (fits.still still) good known
  | none => exact .pure good nofun

theorem attempts_keeps {inner : Option Inner} {depth : Int} {request : Request} {closed : Bool}
    (makes : site.MakesInside caller inner) (left : Nat) (fits : site.Fits caller world)
    (good : world.Good site.setup) (known : site.setup.Knows request.type) :
    Keeps site.setup World.Grows
      (site.attempts (site.term inner depth request.type) request closed left) world
      fun expr after => site.Admits caller request.type after.flow expr := by
  induction left generalizing world with
  | zero => exact constant_keeps good known
  | succ left ih =>
      apply Keeps.attemptOr good
      · intro start good grows
        apply (attempt_keeps makes (fits.mono grows.toProceeds) good known).mono
        exact fun _ _ _ grown admits => ⟨admits, fun _ => grown⟩
      · intro start good grows
        exact ih (fits.mono grows.toProceeds) good

theorem oneTerm_keeps {inner : Option Inner} {depth : Int} {request : Request}
    (makes : site.MakesInside caller inner) (fits : site.Fits caller world)
    (good : world.Good site.setup) (known : site.setup.Knows request.type) :
    Keeps site.setup World.Grows (site.oneTerm inner depth request) world fun expr after =>
      site.Admits caller request.type after.flow expr := by
  apply Keeps.idle (idle_termsExhausted _) good
  intro exhausted start good still _
  exact attempts_keeps makes 6 (fits.still still) good known

theorem budgeted_keeps {make : Inner} (depth : Int) (makes : site.Makes caller make) :
    site.Makes caller fun request => site.budgeted depth request (make request) := by
  intro request world known fits good
  simp only [budgeted]
  split
  · exact makes request world known fits good
  · apply Keeps.withTerms fun expr flow => site.Admits caller request.type flow expr
    intro start still
    exact makes request start known (fits.still still) (still.good good)

/-- Induction on the number of levels that may still be opened. -/
theorem leaf_makes (levels : Nat) (depth : Int) : site.Makes caller (site.leaf levels depth) := by
  induction levels generalizing depth with
  | zero =>
      intro request world known fits good
      rw [leaf]
      apply Keeps.spanning fun expr flow => site.Admits caller request.type flow expr
      exact oneTerm_keeps nofun fits good known
  | succ levels ih =>
      intro request world known fits good
      rw [leaf]
      apply Keeps.spanning fun expr flow => site.Admits caller request.type flow expr
      apply oneTerm_keeps _ fits good known
      rintro _ ⟨⟩
      exact budgeted_keeps (depth + 1) (ih (depth + 1))

theorem expression_makes : site.Makes caller site.expression := by
  intro request world known fits good
  apply (budgeted_keeps 0 (leaf_makes _ 0) request world known fits good).bind
  intro expr after good grows admits
  obtain ⟨signature, found, same⟩ := (fits.mono grows.toProceeds).params
  have sound : Moment.Sound site.setup after.history (.expressed expr) :=
    ⟨caller, after.flow, signature, good.aligned, found, same ▸ admits.formed⟩
  apply Keeps.remember good sound
  exact fun last good _ same => .pure good (same ▸ admits)

end

end Site

end RandomC
