import RandomC.Proofs.BodyText
import RandomC.Proofs.Building
import RandomC.Proofs.Sparing

/-!
# Forbidden constants in programs

What is known of single expressions carries over to statements and blocks, to the bodies of functions, also
those that are built in the middle of others, and to the program that is made of them at the end of a run.
-/

namespace RandomC

/-- The request for a condition forbids constants where the settings do. -/
theorem Condition.sparing_nonzero {site : Site} {final : World} {value : Expr}
    (resorts : (! site.settings.constAsCondition) = true → value.isLiteral = true →
      LastResort site 0 ⟨.uint32, false, false, ! site.settings.constAsCondition⟩ final value) :
    (Condition.nonzero value).Sparing site final := by
  intro forbidden bare
  rw [forbidden] at resorts
  exact ⟨value, rfl, resorts rfl bare⟩

namespace Site

variable {site : Site} {final : World} {sound : Definition → Prop} {depth : Int} {inLoop : Bool}

/-! ## Statements -/

theorem recordChange_toward (place : Place) (type : CType) :
    Toward final sound (recordChange place type) fun _ => True :=
  .aside (aside_recordChange place type) (blind_recordChange place type)

theorem assignStatement_toward (advances : site.Advances final sound) :
    Toward final sound site.assignStatement fun statement =>
      Sparing site final statement.exprs statement.conditions := by
  apply (Toward.aside aside_assignable blind_assignable).after
  rintro ⟨place, type, initial⟩
  apply (Spares.sparing (expression_toward advances) _).bind
  intro value
  apply (Toward.idle (idle_decideIf (idle_oneIn 2)) (blind_oneIn 2).decideIf).after
  intro compound
  exact (recordChange_toward place type).after fun _ => .pure .single

/-- Only where constants are conditions, one is drawn on purpose. -/
theorem condition_toward (advances : site.Advances final sound) :
    Toward final sound site.condition fun condition => Sparing site final condition.exprs [condition] := by
  apply (Toward.idle (idle_below 7) (blind_below 7)).after
  intro mask
  apply (Toward.idle (idle_decideIf (idle_oneIn 5)) (blind_oneIn 5).decideIf).bind
  intro isConstant
  split
  · rename_i decided
    apply (Toward.idle (idle_drawConstant _) (blind_drawConstant _ _)).after
    intro value
    apply Toward.pure
    intro allowed
    refine ⟨List.forall_mem_nil _, List.forall_mem_singleton.mpr fun forbidden => ?_⟩
    rw [allowed decided] at forbidden
    cases forbidden
  · apply (Toward.idle (idle_oneIn 3) (blind_oneIn 3)).after
    intro isExpression
    split
    · apply (expression_toward advances _).bind
      intro value
      apply Toward.pure
      rintro ⟨sparing, resorts⟩ _
      exact ⟨List.forall_mem_singleton.mpr sparing,
        List.forall_mem_singleton.mpr (Condition.sparing_nonzero resorts)⟩
    · exact .pure fun _ => ⟨List.forall_mem_nil _, List.forall_mem_singleton.mpr nofun⟩

theorem updateStatement_toward (advances : site.Advances final sound) :
    Toward final sound site.updateStatement
      (IfSome fun statement => Sparing site final statement.exprs statement.conditions) := by
  unfold updateStatement
  dsimp only
  split
  · exact .pure nofun
  · apply (Toward.idle (idle_choose _) (blind_choose _)).after
    intro v
    apply (Spares.sparing (expression_toward advances) _).bind
    intro value
    apply (recordChange_toward _ _).after
    intro _
    apply Toward.pure
    rintro sparing _ ⟨⟩
    exact .single sparing

/-- The blocks that are made on the way to `final` are sparing. -/
abbrev SparesBlocks (site : Site) (final : World) (sound : Definition → Prop) (nested : Nested) : Prop :=
  ∀ inLoop, Toward final sound (nested inLoop) fun block =>
    Sparing site final (blockExprs block) (blockConditions block)

theorem statementOf_toward {nested : Option Nested} (advances : site.Advances final sound)
    (inside : ∀ make, nested = some make → site.SparesBlocks final sound make) (kind : StatementKind) :
    Toward final sound (site.statementOf nested kind)
      (IfSome fun statement => Sparing site final statement.exprs statement.conditions) := by
  have made {statement : Statement} (sparing : Sparing site final statement.exprs statement.conditions) :
      IfSome (fun statement => Sparing site final statement.exprs statement.conditions) (some statement) := by
    rintro _ ⟨⟩
    exact sparing
  unfold statementOf
  split
  · exact Toward.map ((assignStatement_toward advances).mono fun _ => made)
  · apply (condition_toward advances).bind
    intro condition
    apply (inside _ rfl false).bind
    intro yes
    apply (inside _ rfl false).bind
    intro no
    exact .pure fun noSparing yesSparing sparing => made (sparing.append (yesSparing.append noSparing))
  · apply (Toward.idle (idle_below 5) (blind_below 5)).after
    intro more
    apply (inside _ rfl true).bind
    intro body
    exact .pure fun sparing => made sparing
  · exact .pure (made .nil)
  · exact .pure (made .nil)
  · exact .pure (made .nil)
  · exact updateStatement_toward advances
  · exact .pure nofun
  · exact .pure nofun

/-! ## Blocks -/

theorem chargeStatement_toward : Toward final sound chargeStatement fun _ => True :=
  .get fun _ => (Toward.changeFlow _).after fun _ => .get fun _ => .remember nofun

theorem fillBlock_toward :
    Toward final sound fillBlock fun block => Sparing site final (blockExprs block) (blockConditions block) :=
  .get fun _ => (Toward.remember nofun).after fun _ => .pure .nil

theorem statement_toward {nested : Option Nested} (advances : site.Advances final sound)
    (inside : ∀ make, nested = some make → site.SparesBlocks final sound make) :
    Toward final sound (site.statement nested depth inLoop)
      (IfSome fun block => Sparing site final (blockExprs block) (blockConditions block)) := by
  apply Toward.get
  intro world
  split
  · apply Toward.pure
    rintro _ ⟨⟩
    exact .nil
  · apply chargeStatement_toward.after
    intro _
    apply (Toward.idle (idle_chooseKind depth inLoop) (blind_chooseKind depth inLoop)).after
    intro kind
    apply (statementOf_toward advances inside kind).bind
    intro made
    apply Toward.pure
    intro sparing block same
    obtain ⟨statement, chosen, rfl⟩ := Option.map_eq_some_iff.mp same
    exact (sparing statement chosen).append .nil

theorem statementAttempts_toward {make : Gen (Option Block)}
    (makes : Toward final sound make
      (IfSome fun block => Sparing site final (blockExprs block) (blockConditions block))) (count : Nat) :
    Toward final sound (site.statementAttempts make count) fun block =>
      Sparing site final (blockExprs block) (blockConditions block) := by
  induction count with
  | zero => exact fillBlock_toward
  | succ count ih => exact .attemptOr makes ih

theorem statements_toward {make : Gen (Option Block)}
    (makes : Toward final sound make
      (IfSome fun block => Sparing site final (blockExprs block) (blockConditions block))) (count : Nat) :
    Toward final sound (site.statements make count) fun block =>
      Sparing site final (blockExprs block) (blockConditions block) := by
  induction count with
  | zero => exact .pure .nil
  | succ count ih =>
      apply Toward.get
      intro world
      split
      · exact (Toward.report _).after fun _ => .pure .nil
      · apply (statementAttempts_toward makes 8).bind
        intro first
        apply ih.bind
        intro rest
        apply Toward.pure
        intro restSparing firstSparing
        rw [blockExprs_append, blockConditions_append]
        exact firstSparing.append restSparing

theorem blockOf_toward {nested : Option Nested} (advances : site.Advances final sound)
    (inside : ∀ make, nested = some make → site.SparesBlocks final sound make) :
    Toward final sound (site.blockOf nested depth inLoop) fun block =>
      Sparing site final (blockExprs block) (blockConditions block) := by
  apply Toward.get
  intro world
  split
  · exact .pure .nil
  · apply (Toward.idle (idle_below _) (blind_below _)).after
    exact fun _ => statements_toward (statement_toward advances inside) _

/-- Induction on the number of levels that blocks may still be nested. -/
theorem blockWithin_toward (advances : site.Advances final sound) (levels : Nat) (depth : Int) :
    site.SparesBlocks final sound (site.blockWithin levels depth) := by
  induction levels generalizing depth with
  | zero => exact fun inLoop => .spanning (blockOf_toward advances nofun)
  | succ levels ih =>
      intro inLoop
      apply Toward.spanning
      apply blockOf_toward advances
      rintro _ ⟨⟩
      exact ih (depth + 1)

/-! ## Bodies -/

theorem mix_toward (advances : site.Advances final sound) :
    Toward final sound site.mix fun mix => ∀ expr ∈ (mix.map Prod.snd).toList, expr.Sparing site final := by
  unfold mix
  dsimp only
  split
  · exact .pure (List.forall_mem_nil _)
  · apply (Toward.idle (idle_choose _) (blind_choose _)).after
    intro v
    apply (Spares.sparing (expression_toward advances) _).bind
    intro expr
    exact .pure List.forall_mem_singleton.mpr

theorem definition_toward (advances : site.Advances final sound) (signature : Signature) (returnLocal : String) :
    Toward final sound (site.definition signature returnLocal) fun definition =>
      definition.signature = signature ∧ definition.returnLocal = returnLocal ∧
        Sparing site final definition.exprs definition.conditions := by
  apply (blockWithin_toward advances _ 0 false).bind
  intro body
  apply (mix_toward advances).bind
  intro mix
  apply (Toward.report _).after
  intro _
  apply Toward.pure
  intro mixSparing bodySparing
  exact ⟨rfl, rfl, List.forall_mem_append.mpr ⟨bodySparing.exprs, mixSparing⟩, bodySparing.conditions⟩

end Site

section

variable {setup : Setup} {final : World}

theorem define_toward {sound : Definition → Prop} (index : Int) (definition : Definition) :
    Toward final sound (define index definition) fun _ => True := by
  have replaced {α : Type} (list : List α) (value : α) : Unnoted (Step.replace list index value) := by
    refine ⟨blind_replace list index value, fun world => ?_⟩
    unfold Step.replace
    generalize (if index < 0 then index + list.length else index) = position
    split
    · rfl
    · rfl
  apply Toward.get
  intro _
  apply (Toward.unnoted (replaced _ _)).after
  intro definitions
  apply (Toward.changeFlow _).after
  intro _
  apply Toward.get
  intro _
  exact (Toward.unnoted (replaced _ _)).after fun _ => .changeFlow _

/-- The definition that is made for a function is sparing, where it is made at a site like that of its body. -/
theorem buildDefinition_toward {free : Nat} (index : Int)
    (advances : ∀ build, bodies setup free = some build →
      ∀ index, Toward final (Definition.Sparing setup final) (build index) fun _ => True) :
    Toward final (Definition.Sparing setup final) (buildDefinition setup (bodies setup free) index)
      (Definition.Sparing setup final) := by
  apply (Toward.aside (Site.aside_functionAt index) (blind_functionAt index)).after
  intro signature
  apply (Toward.unnoted ⟨Gen.blind_freshLocal, fun _ => rfl⟩).after
  intro returnLocal
  apply (Toward.remember nofun).after
  intro _
  apply Toward.inContext
  let site : Site := ⟨setup, .ofParams signature.params returnLocal, bodies setup free⟩
  have made := Site.definition_toward (show site.Advances final (Definition.Sparing setup final) from advances)
    signature returnLocal
  apply made.mono
  rintro definition ⟨rfl, rfl, sparing⟩
  exact ⟨free, sparing⟩

theorem ensureBuilt_toward {free : Nat} (index : Int)
    (advances : ∀ build, bodies setup free = some build →
      ∀ index, Toward final (Definition.Sparing setup final) (build index) fun _ => True) :
    Toward final (Definition.Sparing setup final) (ensureBuilt setup (bodies setup free) index) fun _ => True := by
  have looked : Aside (builtAt index) := .get fun _ => (idle_element _ _).aside
  apply (Toward.aside looked (blind_builtAt index)).after
  intro built
  split
  · exact .pure trivial
  · apply Toward.storing index (buildDefinition_toward index advances).spanning
    exact define_toward index

/-- Induction on the number of functions that may still be created. -/
theorem bodies_toward (free : Nat) : ∀ build, bodies setup free = some build →
    ∀ index, Toward final (Definition.Sparing setup final) (build index) fun _ => True := by
  induction free with
  | zero => exact nofun
  | succ free ih =>
      rintro _ ⟨⟩ index
      exact ensureBuilt_toward index ih

theorem buildFrom_toward (left index : Nat) :
    Toward final (Definition.Sparing setup final) (buildFrom setup left index) fun _ => True := by
  induction left generalizing index with
  | zero => exact .pure trivial
  | succ left ih =>
      apply Toward.get
      intro world
      dsimp only
      split
      · exact (ensureBuilt_toward index (bodies_toward _)).after fun _ => ih (index + 1)
      · exact .pure trivial

/-! ## Runs -/

theorem run_toward : Toward final (Definition.Sparing setup final) (run setup) fun _ => True := by
  have entered : Toward final (Definition.Sparing setup final) (addEntry setup) fun _ => True := by
    apply (Toward.idle idle_drawSignature (blind_drawSignature setup _)).after
    intro signature
    exact (Toward.changeFlow _).after fun _ => .pure trivial
  have discarded : Toward final (Definition.Sparing setup final) (discard (addEntry setup)) fun _ => True :=
    entered.map
  apply discarded.after
  intro _
  apply Toward.get
  intro _
  apply (buildFrom_toward _ 0).after
  intro _
  exact .get fun _ => .report _

/-- At the end of a run that succeeds, every definition is one that was stored, and so it is sparing. -/
theorem run_sparing {source : Random.Source} {log : Array Event}
    (succeeds : (run setup (.start setup source log)).1 = .ok ()) {index : Nat} {definition : Definition}
    (found : (run setup (.start setup source log)).2.flow.definitions[index]? = some (some definition)) :
    definition.Sparing setup (run setup (.start setup source log)).2 := by
  have stores : (World.start setup source log).Stores
      (Definition.Sparing setup (run setup (.start setup source log)).2) := nofun
  obtain ⟨stored, -⟩ := (run_toward (World.start setup source log)).2 (.refl _) stores
  have aligned := (run_good succeeds).1.aligned
  obtain ⟨signature, function⟩ : ∃ signature,
      (run setup (.start setup source log)).2.flow.functions[index]? = some signature := by
    have bound := (List.getElem?_eq_some_iff.mp found).1
    exact ⟨_, List.getElem?_eq_getElem (aligned.definitions_length ▸ bound)⟩
  obtain ⟨returnLocal, later, inside, earlier, built⟩ :=
    run_recorded succeeds index signature definition function found
  exact stored index definition (by simp [built.split])

end

/-! ## Programs -/

/-- Whichever way terms are chosen, at every depth and in every state, no attempt at an expression that may not
be a constant makes one, and the expression is one exactly where six attempts come to nothing.  Wherever a
program has a constant on the left of a comma, or as a whole condition where the settings forbid it, the run of
the program had made six attempts at something else: they were taken back, and their moments and readings are
among those of the run. -/
theorem forbidden_constants_are_last_resorts :
    (∀ (site : Site) (depth : Int) (request : Request) (world : World), request.noConstant = true →
      (∀ start expr after, site.tries depth request world start = (.ok (some expr), after) →
        expr.isLiteral = false) ∧
      ((∃ expr after, site.leaf (Site.levelsBelow site.settings depth) depth request world = (.ok expr, after) ∧
          expr.isLiteral = true) ↔
        ∃ last, Fruitless site.setup (site.tries depth request world) 6 world last)) ∧
    ∀ (settings : Settings) (source : Random.Source) (program : Program),
      (generate settings source).result = .ok program →
        ∃ origin : Origin, origin.Makes settings program ∧ generate settings source = origin.outcome ∧
          ∀ definition ∈ program.definitions, ∃ free,
            (∀ left ∈ definition.leftOperands, left.isLiteral = true → ∃ depth request, 0 < depth ∧
              request.noConstant = true ∧
              LastResort (definition.site origin.setup free) depth request origin.world left) ∧
            (settings.constAsCondition = false → ∀ condition ∈ definition.conditions, condition.isBare = true →
              ∃ value, condition = .nonzero value ∧ LastResort (definition.site origin.setup free) 0
                ⟨.uint32, false, false, true⟩ origin.world value) := by
  constructor
  · intro site depth request world forbidden
    refine ⟨?_, ?_, ?_⟩
    · intro start expr after made
      exact (Site.attempt_avoids _ _ forbidden start).value made expr rfl
    · rintro ⟨expr, after, made, literal⟩
      obtain ⟨last, drawn, fruitless, -⟩ := Site.leaf_literal forbidden literal made
      exact ⟨last, fruitless⟩
    · rintro ⟨last, fruitless⟩
      exact Site.leaf_fruitless fruitless
  · intro settings source program returned
    obtain ⟨origin, makes, outcome⟩ := exists_origin_outcome returned
    refine ⟨origin, makes, outcome, fun definition member => ?_⟩
    have stored : some definition ∈ origin.world.flow.definitions :=
      makes.definitions_eq.1 ▸ List.mem_map_of_mem member
    obtain ⟨index, found⟩ := List.getElem?_of_mem stored
    obtain ⟨free, sparing⟩ := run_sparing makes.succeeds found
    refine ⟨free, fun left within => ?_, fun forbidden condition within => ?_⟩
    · obtain ⟨expr, listed, inside⟩ := mem_leftOperandsOf.mp within
      exact sparing.exprs expr listed left inside
    · have off : origin.setup.settings.constAsCondition = false := by rw [makes.settings_eq, forbidden]
      exact sparing.conditions condition within off

/-- The settings of a small program with a single function. -/
def singleSettings : Settings := { smallSettings with maxFuncs := 1 }

/-- The place of an expression in a body of a small program that creates no functions. -/
def singleSite : Site := ⟨⟨singleSettings, CType.scalars 4 true, .empty, .empty⟩, .ofParams [] (localName 0), none⟩

/-- The state in which a small program would be begun. -/
def singleStart : World := .start singleSite.setup (.ofSeed 0 false) #[]

/-- On the left of a comma in a small program and in a condition of it there are constants, although they are
forbidden. -/
theorem generate_singleSettings : ∃ program definition,
    (generate singleSettings (.ofSeed 92 false)).result = .ok program ∧ definition ∈ program.definitions ∧
      (∃ left ∈ definition.leftOperands, left.isLiteral = true) ∧
      ∃ condition ∈ definition.conditions, condition.isBare = true := by
  have bare : (generate singleSettings (.ofSeed 92 false)).result.toOption.map (fun program =>
      program.definitions.any fun definition =>
        definition.leftOperands.any Expr.isLiteral && definition.conditions.any Condition.isBare) = some true := by
    decide +kernel
  obtain ⟨program, returned, some⟩ := exists_of_toOption_map bare
  obtain ⟨definition, member, both⟩ := List.any_eq_true.mp some
  rw [Bool.and_eq_true, List.any_eq_true, List.any_eq_true] at both
  exact ⟨program, definition, returned, member, both⟩

/-- An expression on the left of a comma is made in six attempts that come to nothing. -/
theorem leaf_singleSite : ∃ expr after,
    singleSite.leaf (Site.levelsBelow singleSite.settings 1) 1 ⟨.uint32, false, false, true⟩ singleStart =
        (.ok expr, after) ∧
      expr.isLiteral = true := by
  have literal : (singleSite.leaf (Site.levelsBelow singleSite.settings 1) 1 ⟨.uint32, false, false, true⟩
      singleStart).1.toOption.map Expr.isLiteral = some true := by
    decide +kernel
  rcases made : singleSite.leaf (Site.levelsBelow singleSite.settings 1) 1 ⟨.uint32, false, false, true⟩
      singleStart with ⟨failure | expr, after⟩
  · rw [made] at literal
    cases literal
  · rw [made] at literal
    exact ⟨expr, after, rfl, Option.some.inj literal⟩

/-- The constants of the small program are last resorts, and so is one that is made by itself. -/
theorem forbidden_constants_are_last_resorts_small :
    (∃ last, Fruitless singleSite.setup (singleSite.tries 1 ⟨.uint32, false, false, true⟩ singleStart) 6
      singleStart last) ∧
    ∃ program definition, (generate singleSettings (.ofSeed 92 false)).result = .ok program ∧
      definition ∈ program.definitions ∧ ∃ (origin : Origin) (free : Nat),
        generate singleSettings (.ofSeed 92 false) = origin.outcome ∧
        (∃ left ∈ definition.leftOperands, ∃ depth request, 0 < depth ∧ request.noConstant = true ∧
          LastResort (definition.site origin.setup free) depth request origin.world left) ∧
        ∃ value, .nonzero value ∈ definition.conditions ∧
          LastResort (definition.site origin.setup free) 0 ⟨.uint32, false, false, true⟩ origin.world value := by
  refine ⟨?_, ?_⟩
  · exact ((forbidden_constants_are_last_resorts.1 singleSite 1 ⟨.uint32, false, false, true⟩ singleStart
      rfl).2).mp leaf_singleSite
  · obtain ⟨program, definition, returned, member, ⟨left, inLeft, literal⟩, condition, inConditions, bare⟩ :=
      generate_singleSettings
    obtain ⟨origin, -, outcome, sparing⟩ :=
      forbidden_constants_are_last_resorts.2 singleSettings (.ofSeed 92 false) program returned
    obtain ⟨free, lefts, conditions⟩ := sparing definition member
    obtain ⟨value, rfl, resort⟩ := conditions rfl condition inConditions bare
    exact ⟨program, definition, returned, member, origin, free, outcome, ⟨left, inLeft, lefts left inLeft literal⟩,
      value, inConditions, resort⟩

/-- An expression that may not be a constant can be one; a program can have one on the left of a comma, and one
as a condition although the settings forbid it. -/
theorem forbidden_constants_are_absent_fails :
    (¬ ∀ expr after, singleSite.leaf (Site.levelsBelow singleSite.settings 1) 1 ⟨.uint32, false, false, true⟩
      singleStart = (.ok expr, after) → expr.isLiteral = false) ∧
    ∃ program, (generate singleSettings (.ofSeed 92 false)).result = .ok program ∧
      (¬ ∀ definition ∈ program.definitions, ∀ left ∈ definition.leftOperands, left.isLiteral = false) ∧
      singleSettings.constAsCondition = false ∧
      ¬ ∀ definition ∈ program.definitions, ∀ condition ∈ definition.conditions, condition.isBare = false := by
  constructor
  · intro absent
    obtain ⟨expr, after, made, literal⟩ := leaf_singleSite
    rw [absent expr after made] at literal
    cases literal
  · obtain ⟨program, definition, returned, member, ⟨left, inLeft, literal⟩, condition, inConditions, bare⟩ :=
      generate_singleSettings
    refine ⟨program, returned, fun absent => ?_, rfl, fun absent => ?_⟩
    · rw [absent definition member left inLeft] at literal
      cases literal
    · rw [absent definition member condition inConditions] at bare
      cases bare

end RandomC
