import RandomC.Proofs.BodyText

/-!
# Targets of assignments

That a global is const stands in its declaration, and it decides whether the global is on offer to be
assigned.  The two agree wherever a global comes from, so that a global that is assigned by its name was
declared once and without const.
-/

namespace RandomC

/-! ## Assigned places -/

mutual

/-- The places that an expression assigns. -/
def Expr.targets : Expr → List Place
  | .literal .. | .read .. => []
  | .call _ _ arguments => targetsOf arguments
  | .assign _ place value => place :: value.targets
  | .comma _ left right => left.targets ++ right.targets
  | .complement _ operand => operand.targets
  | .xor _ left right => left.targets ++ right.targets

/-- The places that some expressions assign. -/
def targetsOf : List Expr → List Place
  | [] => []
  | expr :: rest => expr.targets ++ targetsOf rest

end

/-- The places that a condition assigns. -/
def Condition.targets : Condition → List Place
  | .bits _ | .constant _ => []
  | .nonzero value => value.targets

mutual

/-- The places that a statement assigns. -/
def Statement.targets : Statement → List Place
  | .assign place _ _ value => place :: .named accumulator :: value.targets
  | .ifElse condition yes no => condition.targets ++ (blockTargets yes ++ blockTargets no)
  | .loop _ body => .named "i" :: .named accumulator :: blockTargets body
  | .leave result => [.named result]
  | .nextRound | .leaveLoop => []
  | .updateElement array _ mask value increment =>
      .masked array mask :: (if increment.isSome then [.named accumulator] else []) ++ value.targets
  | .filler => [.named accumulator]

/-- The places that the statements of a block assign. -/
def blockTargets : List Statement → List Place
  | [] => []
  | statement :: rest => statement.targets ++ blockTargets rest

end

/-- The places that the body of a function assigns after its own declarations. -/
def Definition.targets (definition : Definition) : List Place :=
  definition.signature.params.map (fun _ => .named accumulator) ++ blockTargets definition.body ++
    (match definition.mix with
      | some (name, expr) => .named name :: expr.targets
      | none => []) ++
    [.named definition.returnLocal]

theorem mem_targetsOf {place : Place} {exprs : List Expr} :
    place ∈ targetsOf exprs ↔ ∃ expr ∈ exprs, place ∈ expr.targets := by
  induction exprs with
  | nil => simp [targetsOf]
  | cons expr rest ih => simp [targetsOf, ih]

theorem mem_blockTargets {place : Place} {block : Block} :
    place ∈ blockTargets block ↔ ∃ statement ∈ block, place ∈ statement.targets := by
  induction block with
  | nil => simp [blockTargets]
  | cons statement rest ih => simp [blockTargets, ih]

/-! ## Where assigned places come from -/

/-- How a place comes to be assigned in the body of a function. -/
inductive Place.Assigned (setup : Setup) (params : List Variable) (returnLocal : String) (flow : Flow) :
    Place → Prop where
  /-- It was on offer to be assigned. -/
  | offered {candidate : Candidate} (offer : Offered setup params flow candidate)
      (assignable : candidate.assignable) : Assigned setup params returnLocal flow candidate.place
  /-- It is one of the variables that every body has. -/
  | own {name : String} (which : name = accumulator ∨ name = "i" ∨ name = returnLocal) :
      Assigned setup params returnLocal flow (.named name)
  /-- It is an element of an array that is updated. -/
  | masked (array : String) (mask : Int) : Assigned setup params returnLocal flow (.masked array mask)

section

variable {setup : Setup} {caller : Nat} {params : List Variable} {returnLocal : String} {flow : Flow}

theorem Place.assigned_accumulator : (Place.named accumulator).Assigned setup params returnLocal flow :=
  .own (.inl rfl)

theorem Expr.Formed.assigned {expr : Expr} (formed : expr.Formed setup caller params flow) :
    ∀ place ∈ expr.targets, place.Assigned setup params returnLocal flow := by
  induction formed with
  | literal | read => exact List.forall_mem_nil _
  | call _ _ _ _ _ ih =>
      intro place member
      obtain ⟨argument, inside, assigned⟩ := mem_targetsOf.mp member
      exact ih argument inside place assigned
  | assign _ offered assignable _ _ ih => exact List.forall_mem_cons.mpr ⟨.offered offered assignable, ih⟩
  | complement _ _ _ ih => exact ih
  | comma _ _ _ _ left right | xor _ _ _ _ _ left right =>
      exact List.forall_mem_append.mpr ⟨left, right⟩

theorem Condition.Formed.assigned {condition : Condition}
    (formed : condition.Formed setup caller params flow) :
    ∀ place ∈ condition.targets, place.Assigned setup params returnLocal flow := by
  cases formed with
  | bits | constant => exact List.forall_mem_nil _
  | nonzero _ formed => exact formed.assigned

theorem Statement.Formed.assigned {statement : Statement}
    (formed : statement.Formed setup caller params returnLocal flow) :
    ∀ place ∈ statement.targets, place.Assigned setup params returnLocal flow := by
  have block {statements : Block} (each : ∀ statement ∈ statements, ∀ place ∈ statement.targets,
      place.Assigned setup params returnLocal flow) :
      ∀ place ∈ blockTargets statements, place.Assigned setup params returnLocal flow := by
    intro place member
    obtain ⟨statement, inside, assigned⟩ := mem_blockTargets.mp member
    exact each statement inside place assigned
  induction formed with
  | assign _ formed =>
      exact List.forall_mem_cons.mpr ⟨Place.assigned_accumulator,
        List.forall_mem_cons.mpr ⟨Place.assigned_accumulator, formed.assigned⟩⟩
  | ifElse condition _ _ yes no =>
      exact List.forall_mem_append.mpr ⟨condition.assigned,
        List.forall_mem_append.mpr ⟨block yes, block no⟩⟩
  | loop _ ih =>
      exact List.forall_mem_cons.mpr ⟨.own (.inr (.inl rfl)),
        List.forall_mem_cons.mpr ⟨Place.assigned_accumulator, block ih⟩⟩
  | leave => exact List.forall_mem_singleton.mpr (.own (.inr (.inr rfl)))
  | nextRound | leaveLoop => exact List.forall_mem_nil _
  | @updateElement v value increment _ _ formed =>
      refine List.forall_mem_append.mpr
        ⟨List.forall_mem_cons.mpr ⟨.masked _ _, ?_⟩, formed.assigned⟩
      split
      · exact List.forall_mem_singleton.mpr Place.assigned_accumulator
      · exact List.forall_mem_nil _
  | filler => exact List.forall_mem_singleton.mpr Place.assigned_accumulator

/-- Every place that a body assigns was on offer, or is a variable of the body or an element of an array. -/
theorem Definition.Formed.assigned {definition : Definition} (aligned : Aligned setup flow)
    (formed : definition.Formed setup caller flow) :
    ∀ place ∈ definition.targets,
      place.Assigned setup definition.signature.params definition.returnLocal flow := by
  simp only [Definition.targets, List.forall_mem_append]
  refine ⟨⟨⟨?_, ?_⟩, ?_⟩, ?_⟩
  · intro place member
    obtain ⟨_, -, rfl⟩ := List.mem_map.mp member
    exact Place.assigned_accumulator
  · intro place member
    obtain ⟨statement, inside, assigned⟩ := mem_blockTargets.mp member
    exact (formed.body statement inside).assigned place assigned
  · split
    · rename_i name expr mixed
      obtain ⟨⟨v, listed, rfl, -⟩, inside⟩ := formed.mix name expr mixed
      obtain ⟨declared, notConst⟩ := List.mem_filter.mp listed
      have offer : Offered setup definition.signature.params flow v.candidate := by
        apply Offered.global
        rw [aligned.candidates]
        exact List.mem_map_of_mem (List.mem_append_left _ declared)
      exact List.forall_mem_cons.mpr ⟨.offered offer notConst, inside.assigned⟩
    · exact List.forall_mem_nil _
  · exact List.forall_mem_singleton.mpr (.own (.inr (.inr rfl)))

end

/-! ## Writable places -/

/-- If the place is a global by its name, it is one of these, and not a const one. -/
def Place.Writable (globals : List GlobalVar) (place : Place) : Prop :=
  ∀ number : Nat, place = .named (globalName number) →
    ∃ v ∈ globals, v.name = globalName number ∧ v.isConst = false

section

variable {globals : List GlobalVar} {setup : Setup} {caller : Nat} {params : List Variable}
variable {returnLocal : String} {flow : Flow}

/-- Names of other kinds are not those of globals. -/
theorem Place.writable_of_kind {name : String} {kind : NameKind}
    (isName : nameKind? name.toList = some kind) (other : kind ≠ .global) :
    (Place.named name).Writable globals := by
  rintro number ⟨⟩
  rw [kind_globalName] at isName
  exact absurd (Option.some.inj isName).symm other

theorem Place.writable_global {v : GlobalVar} (member : v ∈ globals) (notConst : v.isConst = false) :
    (Place.named v.name).Writable globals := by
  intro number same
  exact ⟨v, member, Place.named.inj same, notConst⟩

/-- What is on offer to be assigned may be assigned. -/
theorem Offered.writable {candidate : Candidate} (aligned : Aligned setup flow) (numbers : Numbers params)
    (offered : Offered setup params flow candidate) (assignable : candidate.assignable) :
    candidate.place.Writable (setup.env.globals ++ flow.created) := by
  cases offered with
  | global member =>
      obtain ⟨v, declared, rfl⟩ := aligned.exists_candidate member
      exact Place.writable_global declared (by simpa [GlobalVar.candidate] using assignable)
  | @param v member =>
      obtain ⟨number, same⟩ := numbers v member
      rw [Variable.candidate, same]
      exact Place.writable_of_kind (kind_paramName number) NameKind.noConfusion
  | target => rintro number ⟨⟩
  | element => rintro number ⟨⟩

/-- The variables of a body have other names than globals. -/
theorem Place.Assigned.writable {place : Place} (aligned : Aligned setup flow) (numbers : Numbers params)
    (own : ∃ number : Nat, returnLocal = localName number)
    (assigned : place.Assigned setup params returnLocal flow) :
    place.Writable (setup.env.globals ++ flow.created) := by
  obtain ⟨number, result⟩ := own
  cases assigned with
  | offered offer assignable => exact offer.writable aligned numbers assignable
  | own which =>
      rcases which with rfl | rfl | rfl
      · exact Place.writable_of_kind (show nameKind? accumulator.toList = some .accumulator from rfl) nofun
      · exact Place.writable_of_kind (show nameKind? "i".toList = some .counter from rfl) nofun
      · exact result ▸ Place.writable_of_kind (kind_localName number) nofun
  | masked => exact nofun

/-- A body assigns no global by its name but those that are not const. -/
theorem Definition.Formed.writable {definition : Definition} (aligned : Aligned setup flow)
    (numbers : Numbers definition.signature.params)
    (own : ∃ number : Nat, definition.returnLocal = localName number)
    (formed : definition.Formed setup caller flow) :
    ∀ place ∈ definition.targets, place.Writable (setup.env.globals ++ flow.created) :=
  fun place member => (formed.assigned aligned place member).writable aligned numbers own

end

/-! ## Programs -/

/-- A global that is created to be assigned is listed, declared and on offer without const. -/
theorem createGlobal_writable (setup : Setup) (type : CType) (world : World) :
    (createGlobal setup type true).Succeeds world fun candidate after =>
      ∃ v initial, after.flow = world.flow.withGlobal v initial ∧ v.isConst = false ∧
        candidate = v.candidate := by
  unfold createGlobal Gen.freshGlobal
  simp only [Gen.changeFlow, Step.Succeeds, Step.ends_bind, Step.ends_get, Step.ends_modify, Step.ends_pure]
  apply (calm_drawQualifiers setup.settings _).mono
  intro qualifiers drawn still
  have constant : Calm (drawConstant setup type) fun _ => True := calm_draw fun _ => trivial
  apply (constant _).mono
  intro literal after ends
  have same := still.1.trans ends.1
  simp only [Gen.declareLater, Gen.addGlobal, Gen.changeFlow, Step.ends_bind, Step.ends_modify,
    Step.ends_pure, same.flow]
  exact ⟨_, .literal literal, rfl, by simp, rfl⟩

/-- Wherever a global is assigned by its name in a program, it was declared once, and without const: it is one
of the environment or one that was created on demand.  Those that are created to be assigned are never
const. -/
theorem generate_assigns_no_const (settings : Settings) (source : Random.Source) :
    (∀ program : Program, (generate settings source).result = .ok program →
      ∀ definition ∈ program.definitions, ∀ number : Nat,
        .named (globalName number) ∈ definition.targets →
        ∃ v initial, v.name = globalName number ∧ v.isConst = false ∧
          .declare (.global v initial) ∈ program.items ∧
          ∀ item ∈ program.items, globalName number ∈ item.declares .global →
            item = .declare (.global v initial)) ∧
    ∀ (setup : Setup) (type : CType) (world : World),
      (createGlobal setup type true).Succeeds world fun candidate after =>
        ∃ v initial, after.flow = world.flow.withGlobal v initial ∧ v.isConst = false ∧
          candidate = v.candidate := by
  refine ⟨?_, createGlobal_writable⟩
  intro program returned definition member number assigned
  obtain ⟨origin, makes⟩ := exists_origin returned
  obtain ⟨index, found⟩ := List.getElem?_of_mem member
  obtain ⟨present, own, formed, -⟩ := makes.definition found
  have numbers := makes.aligned.numbers_params present
  obtain ⟨v, present, named, notConst⟩ :=
    formed.writable makes.aligned numbers ⟨index, own⟩ _ assigned number rfl
  rw [← makes.variables_eq.1] at present
  obtain ⟨initial, declared⟩ := Program.exists_declaration present
  have declares : globalName number ∈ (Item.declare (.global v initial)).declares .global := by
    simp [Item.declares, Declaration.names, named]
  exact ⟨v, initial, named, notConst, declared,
    fun item inItems also => makes.sheet.ledger.item_eq inItems declared also declares⟩

/-- The settings of a small program with two globals from the beginning. -/
def pairSettings : Settings :=
  { smallSettings with maxGlobals := 1, initialEnvironment := true, arrays := false, pointers := false }

/-- Of the two globals of a small program the first one is const, and the second one is assigned. -/
theorem generate_assigns_no_const_small : ∃ (program : Program) (definition : Definition),
    (generate pairSettings (.ofSeed 31 false)).result = .ok program ∧ definition ∈ program.definitions ∧
      program.globals.map (·.isConst) = [true, false] ∧ Place.named (globalName 1) ∈ definition.targets ∧
      ∃ v initial, v.name = globalName 1 ∧ v.isConst = false ∧
        .declare (.global v initial) ∈ program.items := by
  have assigns : (generate pairSettings (.ofSeed 31 false)).result.toOption.map (fun program =>
      (program.globals.map (·.isConst), program.definitions.map fun definition =>
        decide (Place.named (globalName 1) ∈ blockTargets definition.body))) =
      some ([true, false], [true, false]) := by
    decide +kernel
  obtain ⟨program, returned, parts⟩ := exists_of_toOption_map assigns
  obtain ⟨globals, bodies⟩ := Prod.mk.inj parts
  obtain ⟨entry, others, definitions, inBody, -⟩ := List.map_eq_cons_iff.mp bodies
  have member : entry ∈ program.definitions := definitions ▸ List.mem_cons_self
  have assigned : .named (globalName 1) ∈ entry.targets :=
    List.mem_append_left _ (List.mem_append_left _ (List.mem_append_right _ (of_decide_eq_true inBody)))
  obtain ⟨v, initial, named, notConst, declared, -⟩ :=
    (generate_assigns_no_const pairSettings (.ofSeed 31 false)).1 program returned entry member 1 assigned
  exact ⟨program, entry, returned, member, globals, assigned, v, initial, named, notConst, declared⟩

end RandomC
