import RandomC.Proofs.Hash
import RandomC.Proofs.Targets

/-!
# Writes through pointers

A pointer is declared with qualifiers that are drawn for it alone, whatever its target was declared with.
Where constants are in use, a pointer without const on its target may therefore point to a const object,
and what it points to is on offer to be assigned.  This is the only way in which a const object is written.
-/

namespace RandomC

/-! ## Pointers of the environment -/

namespace Environment

/-- Every pointer points to a scalar of its type, and there are const scalars only where they are in use. -/
structure Aims (settings : Settings) (env : Environment) : Prop where
  plain : settings.consts = false → ∀ v ∈ env.globals, v.isConst = false
  wanted : env.pointers ≠ [] → settings.globalVariables ∧ settings.pointers
  targets : ∀ pointer ∈ env.pointers, ∃ v ∈ env.globals, pointer.target = v.name ∧ pointer.targetType = v.type

/-- What else belongs to the environment does not matter. -/
theorem Aims.same {settings : Settings} {env other : Environment} (aims : env.Aims settings)
    (globals : other.globals = env.globals) (pointers : other.pointers = env.pointers) :
    other.Aims settings where
  plain := globals ▸ aims.plain
  wanted := pointers ▸ aims.wanted
  targets := globals ▸ pointers ▸ aims.targets

/-- Whenever the step returns, the property of the environment holds again, and the value satisfies the
postcondition. -/
def Guards {α : Type} (good : Environment → Prop) (step : Step Building α) (post : α → Prop) : Prop :=
  ∀ state, good state.env → step.Gives state fun value after => good after.env ∧ post value

section

variable {α β : Type} {good : Environment → Prop} {settings : Settings} {scalars : List CType}

theorem Guards.pure {value : α} {post : α → Prop} (holds : post value) : Guards good (pure value) post :=
  fun _ kept => Step.ends_pure.mpr ⟨kept, holds⟩

theorem Guards.bind {step : Step Building α} {next : α → Step Building β} {middle : α → Prop}
    {post : β → Prop} (first : Guards good step middle)
    (second : ∀ value, middle value → Guards good (next value) post) : Guards good (step >>= next) post := by
  intro state kept
  apply (first state kept).bind
  rintro value after ⟨kept, holds⟩
  exact second value holds after kept

/-- Draws leave the environment as it is. -/
theorem Guards.idle {step : Step Building α} {post : α → Prop} (idle : Idle step post) :
    Guards good step post := by
  intro state kept
  apply (idle state).mono
  · rintro value after ⟨⟨-, same⟩, holds⟩
    exact ⟨same ▸ kept, holds⟩
  · exact fun _ _ => trivial

theorem Guards.write {item : Item} : Guards good (write item) fun _ => True :=
  fun _ kept => Step.ends_modify.mpr ⟨kept, trivial⟩

theorem Guards.declare {declaration : Declaration} {f : Environment → Environment}
    (changes : ∀ env, good env → good (f env)) : Guards good (declare declaration f) fun _ => True :=
  Guards.write.bind fun _ _ _ kept => Step.ends_modify.mpr ⟨changes _ kept, trivial⟩

theorem Guards.freshName (changes : ∀ env, good env → good { env with nextId := env.nextId + 1 }) :
    Guards good freshName fun _ => True := by
  intro state kept
  simp only [Environment.freshName, change, Step.Gives, Step.ends_bind, Step.ends_get, Step.ends_modify,
    Step.ends_pure]
  exact ⟨changes _ kept, trivial⟩

theorem Guards.times {step : Step Building Unit} (guards : Guards good step fun _ => True) (rounds : Nat) :
    Guards good (times step rounds) fun _ => True := by
  induction rounds with
  | zero => exact .pure trivial
  | succ rounds ih => exact guards.bind fun _ _ => ih

theorem Guards.onlyIf {step : Step Building Unit} {wanted : Bool}
    (guards : wanted → Guards good step fun _ => True) : Guards good (onlyIf wanted step) fun _ => True := by
  cases wanted with
  | true => exact guards rfl
  | false => exact .pure trivial

/-! ### Building -/

theorem addScalar_aims : Guards (Aims settings) (addScalar settings scalars) fun _ => True := by
  apply (Guards.idle (idle_drawQualifiers settings)).bind
  rintro ⟨isConst, isVolatile⟩ ⟨consts, -⟩
  apply (Guards.freshName fun _ aims => aims.same rfl rfl).bind
  intro name _
  apply (Guards.idle (idle_choose scalars)).bind
  intro type _
  apply (Guards.idle idle_drawInitial).bind
  intro initial _
  apply Guards.declare
  intro env aims
  constructor
  · intro unused
    refine List.forall_mem_append.mpr ⟨aims.plain unused, List.forall_mem_singleton.mpr ?_⟩
    cases isConst with
    | true => exact Bool.noConfusion ((consts rfl).symm.trans unused)
    | false => rfl
  · exact aims.wanted
  · intro pointer member
    obtain ⟨v, declared, same⟩ := aims.targets pointer member
    exact ⟨v, List.mem_append_left _ declared, same⟩

theorem addArray_aims : Guards (Aims settings) (addArray settings scalars) fun _ => True := by
  apply (Guards.idle (idle_below _)).bind
  intro length _
  apply (Guards.freshName fun _ aims => aims.same rfl rfl).bind
  intro name _
  apply (Guards.idle (idle_choose scalars)).bind
  intro type _
  exact Guards.declare fun _ aims => aims.same rfl rfl

/-- The targets that pointers are chosen from are the scalars of the environment all the time. -/
theorem addPointer_aims {targets : List GlobalVar} (inUse : settings.globalVariables ∧ settings.pointers) :
    Guards (fun env => env.Aims settings ∧ env.globals = targets) (addPointer settings targets)
      fun _ => True := by
  unfold addPointer
  dsimp only
  apply (Guards.idle (idle_below _)).bind
  intro chosen _
  apply (Guards.idle (idle_element _ _)).bind
  intro target member
  apply (Guards.freshName fun _ kept => ⟨kept.1.same rfl rfl, kept.2⟩).bind
  intro name _
  apply (Guards.idle (idle_decideIf (idle_oneIn 3))).bind
  intro isVolatile _
  apply (Guards.idle (idle_decideIf (idle_oneIn 4))).bind
  intro volatileTarget _
  apply (Guards.idle (idle_decideIf (idle_oneIn 3))).bind
  intro constTarget _
  apply Guards.declare
  rintro env ⟨aims, same⟩
  refine ⟨⟨aims.plain, fun _ => inUse, List.forall_mem_append.mpr ⟨aims.targets, ?_⟩⟩, same⟩
  exact List.forall_mem_singleton.mpr ⟨target, same ▸ member, rfl, rfl⟩

theorem addLinks_aims {type : CType} (count stars : Nat) (target : String) :
    Guards (Aims settings) (addLinks type count stars target) fun _ => True := by
  induction count generalizing stars target with
  | zero => exact .pure trivial
  | succ count ih =>
      apply (Guards.freshName fun _ aims => aims.same rfl rfl).bind
      intro name _
      have link : Guards (Aims settings) (declare (.link type stars name target) fun env =>
          { env with chains := env.chains ++ [name] }) fun _ => True :=
        .declare fun _ aims => aims.same rfl rfl
      exact link.bind fun _ _ => ih (stars + 1) name

theorem addChain_aims : Guards (Aims settings) (addChain settings) fun _ => True := by
  intro state aims
  apply Step.ends_bind.mpr
  apply Step.ends_get.mpr
  dsimp only
  split
  · exact Step.ends_pure.mpr ⟨aims, trivial⟩
  · have chain : Guards (Aims settings) (do
        let base ← Step.choose (state.env.pointers.filter (! ·.qualified))
        let extra ← Step.below (max 1 (min settings.maxPointerDepth 4 - 1))
        addLinks base.targetType (1 + extra) 2 base.name) fun _ => True := by
      apply (Guards.idle (idle_choose _)).bind
      intro base _
      apply (Guards.idle (idle_below _)).bind
      exact fun extra _ => addLinks_aims _ _ _
    exact chain state aims

theorem addVariables_aims (inUse : settings.globalVariables) :
    Guards (Aims settings) (addVariables settings scalars) fun _ => True := by
  have values : Guards (Aims settings) (addScalars settings scalars) fun _ => True :=
    (Guards.idle (idle_below 18)).bind fun _ _ => addScalar_aims.times _
  have arrays : Guards (Aims settings) (addArrays settings scalars) fun _ => True :=
    fun state aims => Step.ends_bind.mpr (Step.ends_get.mpr (addArray_aims.times _ state aims))
  have chains : Guards (Aims settings) (addChains settings) fun _ => True :=
    fun state aims => Step.ends_bind.mpr (Step.ends_get.mpr (addChain_aims.times _ state aims))
  have pointers (wanted : settings.pointers) : Guards (Aims settings) (addPointers settings) fun _ => True := by
    intro state aims
    apply Step.ends_bind.mpr
    apply Step.ends_get.mpr
    apply ((addPointer_aims ⟨inUse, wanted⟩).times _ state ⟨aims, rfl⟩).mono
    exact fun _ _ ends => ⟨ends.1.1, trivial⟩
  apply values.bind
  intro _ _
  apply (Guards.onlyIf fun _ => arrays).bind
  intro _ _
  exact Guards.onlyIf fun wanted => (pointers wanted).bind fun _ _ => chains

theorem addComposites_aims (kind : CompositeKind) (count index : Nat) :
    Guards (Aims settings) (addComposites kind count index) fun _ => True := by
  induction count generalizing index with
  | zero => exact .pure trivial
  | succ count ih => exact Guards.write.bind fun _ _ => ih (index + 1)

theorem build_aims (layouts : Layouts) : Guards (Aims settings) (build settings scalars layouts) fun _ => True := by
  apply Guards.write.bind
  intro _ _
  apply (Guards.onlyIf fun wanted => addVariables_aims wanted).bind
  intro _ _
  apply (addComposites_aims .struct _ 0).bind
  intro _ _
  apply (addComposites_aims .union _ 0).bind
  exact fun _ _ state aims => Step.ends_modify.mpr ⟨aims, trivial⟩

end

/-- Without variables, nothing is aimed at anything. -/
theorem aims_empty (settings : Settings) : Environment.empty.Aims settings :=
  ⟨fun _ => List.forall_mem_nil _, fun some => absurd rfl some, List.forall_mem_nil _⟩

end Environment

/-! ## Programs -/

/-- The target of the pointer is declared const wherever one of the globals with its name is. -/
def PointerVar.Respects (globals : List GlobalVar) (pointer : PointerVar) : Prop :=
  ∀ v ∈ globals, v.name = pointer.target → v.isConst → pointer.constTarget

/-- Pointers are declared next to constants that they may point to. -/
def Settings.aimsAtConst (settings : Settings) : Bool :=
  settings.consts && settings.globalVariables && settings.pointers

/-- An assignment to the place writes to the global, by its name or through a pointer to it. -/
def Program.Writes (program : Program) (place : Place) (v : GlobalVar) : Prop :=
  place = .named v.name ∨
    ∃ pointer ∈ program.pointers, place = .target pointer.name ∧ pointer.target = v.name

section

variable {settings : Settings} {source : Random.Source} {program : Program}

theorem Environment.Aims.respects {env : Environment} (aims : env.Aims settings)
    (never : settings.aimsAtConst = false) : ∀ pointer ∈ env.pointers, pointer.Respects env.globals := by
  intro pointer member v declared _ isConst
  have wanted := aims.wanted (List.ne_nil_of_mem member)
  have unused : settings.consts = false := by simpa [Settings.aimsAtConst, wanted] using never
  rw [aims.plain unused v declared] at isConst
  cases isConst

/-- The environment of a program was built from nothing. -/
theorem exists_environment (returned : (generate settings source).result = .ok program) :
    ∃ layouts start building, start.env = .empty ∧ program.env = building.env ∧
      buildEnvironment settings (CType.scalars settings.intSize settings.longLong) layouts start =
        (.ok (), building) := by
  rw [generate_eq returned] at returned
  unfold generateWritable at returned
  dsimp only at returned
  split at returned
  · cases returned
  · split at returned
    · cases returned
    · rename_i layouts _ _ _ building built
      split at returned
      · cases returned
      · cases returned
        exact ⟨layouts, _, building, rfl, rfl, built⟩

theorem Program.env_aims (returned : (generate settings source).result = .ok program) :
    program.env.Aims settings := by
  obtain ⟨layouts, start, building, empty, env, built⟩ := exists_environment returned
  have guards : Environment.Guards (Environment.Aims settings)
      (buildEnvironment settings (CType.scalars settings.intSize settings.longLong) layouts) fun _ => True :=
    .onlyIf fun _ => Environment.build_aims layouts
  have aims : start.env.Aims settings := empty ▸ Environment.aims_empty settings
  exact env ▸ ((guards start aims).value built).1

/-- A pointer of the environment is one of the program, and so is its target. -/
theorem Program.writes_of_env (returned : (generate settings source).result = .ok program)
    {pointer : PointerVar} {v : GlobalVar} (listed : pointer ∈ program.env.pointers)
    (aimed : pointer.target = v.name) (declared : v ∈ program.env.globals) :
    v ∈ program.globals ∧ program.Writes (.target pointer.name) v := by
  obtain ⟨origin, makes⟩ := exists_origin returned
  obtain ⟨globals, -, pointers⟩ := makes.variables_eq
  rw [makes.env_eq] at listed declared
  exact ⟨globals ▸ List.mem_append_left _ declared, .inr ⟨pointer, pointers ▸ listed, rfl, aimed⟩⟩

/-- A place that is assigned through a pointer belongs to one whose target is declared without const. -/
theorem Place.Assigned.exists_pointer {setup : Setup} {params : List Variable} {returnLocal name : String}
    {flow : Flow} (aligned : Aligned setup flow)
    (assigned : (Place.target name).Assigned setup params returnLocal flow) :
    ∃ pointer ∈ setup.env.pointers, pointer.name = name ∧ pointer.constTarget = false := by
  generalize whole : Place.target name = place at assigned
  cases assigned with
  | own => cases whole
  | masked => cases whole
  | offered offer assignable =>
      cases offer with
      | global listed =>
          obtain ⟨v, -, rfl⟩ := aligned.exists_candidate listed
          cases whole
      | target member =>
          cases whole
          exact ⟨_, member, rfl, by simpa [PointerVar.candidate] using assignable⟩
      | _ => cases whole

/-- A body that writes to a const object does so through a pointer of the environment, since by its name only
a global without const is assigned. -/
theorem Origin.Makes.writes_through_pointer {origin : Origin} (makes : origin.Makes settings program)
    {definition : Definition} {place : Place} {v : GlobalVar} (member : definition ∈ program.definitions)
    (assigned : place ∈ definition.targets) (declared : v ∈ program.globals)
    (writes : program.Writes place v) (isConst : v.isConst) :
    ∃ pointer ∈ program.env.pointers, place = .target pointer.name ∧ pointer.target = v.name ∧
      pointer.constTarget = false := by
  obtain ⟨globals, -, pointers⟩ := makes.variables_eq
  obtain ⟨index, found⟩ := List.getElem?_of_mem member
  obtain ⟨present, own, formed, -⟩ := makes.definition found
  have comes := formed.assigned makes.aligned place assigned
  rcases writes with rfl | ⟨pointer, listed, rfl, same⟩
  · have numbers := makes.aligned.numbers_params present
    obtain ⟨number, named⟩ := makes.globals_numbered v declared
    obtain ⟨other, inGlobals, alike, notConst⟩ :=
      comes.writable makes.aligned numbers ⟨index, own⟩ number (by rw [named])
    rw [← globals] at inGlobals
    have oneGlobal := List.inj_on_of_nodup_map (makes.names_nodup Declaration.names_of_global)
    rw [oneGlobal inGlobals declared (alike.trans named.symm), isConst] at notConst
    cases notConst
  · obtain ⟨other, inEnv, alike, notConst⟩ := comes.exists_pointer makes.aligned
    rw [← pointers] at inEnv
    have onePointer := List.inj_on_of_nodup_map (makes.names_nodup Declaration.names_of_pointer)
    obtain rfl := onePointer inEnv listed alike
    rw [pointers, ← makes.env_eq] at listed
    exact ⟨other, listed, rfl, same, notConst⟩

/-- A pointer without const on its target points to a const global only where constants, variables and
pointers are all in use. -/
theorem Origin.Makes.aimsAtConst {origin : Origin} (makes : origin.Makes settings program)
    (aims : program.env.Aims settings) {pointer : PointerVar} {v : GlobalVar}
    (listed : pointer ∈ program.env.pointers) (aimed : pointer.target = v.name) (plain : pointer.constTarget = false)
    (declared : v ∈ program.globals) (isConst : v.isConst) : settings.aimsAtConst := by
  by_contra never
  have respects := aims.respects (by simpa using never) pointer listed
  obtain ⟨target, inEnv, same, -⟩ := aims.targets pointer listed
  have inGlobals : target ∈ program.globals := by
    rw [makes.variables_eq.1, ← makes.env_eq]
    exact List.mem_append_left _ inEnv
  have oneGlobal := List.inj_on_of_nodup_map (makes.names_nodup Declaration.names_of_global)
  obtain rfl := oneGlobal inGlobals declared (same.symm.trans aimed)
  rw [respects target inEnv same.symm isConst] at plain
  cases plain

/-- Every pointer of the environment points to one of the scalars.  Unless constants, variables and pointers
are all in use, no pointer without const on its target points to a const one, and no body writes to a const
object.  Wherever a body does so, it is through such a pointer of the environment. -/
theorem pointers_write_const (settings : Settings) :
    (∀ (scalars : List CType) (layouts : Layouts) (state : Environment.Building),
      scalars ≠ [] → state.Lists → state.env = .empty →
      (Environment.build settings scalars layouts).Succeeds state fun _ after =>
        (∀ pointer ∈ after.env.pointers,
          ∃ v ∈ after.env.globals, pointer.target = v.name ∧ pointer.targetType = v.type) ∧
        (settings.aimsAtConst = false →
          ∀ pointer ∈ after.env.pointers, pointer.Respects after.env.globals)) ∧
    ∀ (source : Random.Source) (program : Program), (generate settings source).result = .ok program →
      ∀ definition ∈ program.definitions, ∀ place ∈ definition.targets, ∀ v ∈ program.globals,
        program.Writes place v → v.isConst →
        settings.aimsAtConst ∧ ∃ pointer ∈ program.env.pointers, place = .target pointer.name ∧
          pointer.target = v.name ∧ pointer.constTarget = false := by
  constructor
  · intro scalars layouts state inhabited lists empty
    have start : state.env.Aims settings := empty ▸ Environment.aims_empty settings
    apply ((Environment.adds_build inhabited state lists).and (Environment.build_aims layouts state start)).mono
    · rintro _ after ⟨-, aims, -⟩
      exact ⟨aims.targets, aims.respects⟩
    · exact fun _ ends => ends.1
  · intro source program returned definition member place assigned v declared writes isConst
    obtain ⟨origin, makes⟩ := exists_origin returned
    obtain ⟨pointer, listed, through, aimed, plain⟩ :=
      makes.writes_through_pointer member assigned declared writes isConst
    exact ⟨makes.aimsAtConst (Program.env_aims returned) listed aimed plain declared isConst,
      pointer, listed, through, aimed, plain⟩

end

/-- The settings of a program of one small function behind two scalars and some pointers. -/
def pointerSettings : Settings :=
  { smallSettings with
    maxFuncs := 1, maxParams := 0, maxGlobals := 1, volatiles := false, arrays := false
    computeHash := false, initialEnvironment := true }

/-- In a small program, a pointer without const on its target points to a const scalar, and this target is
assigned. -/
theorem exists_const_write : ∃ (program : Program) (definition : Definition) (pointer : PointerVar)
    (v : GlobalVar), (generate pointerSettings (.ofSeed 125 false)).result = .ok program ∧
      definition ∈ program.definitions ∧ .target pointer.name ∈ definition.targets ∧
      pointer ∈ program.env.pointers ∧ pointer.constTarget = false ∧ pointer.target = v.name ∧
      v ∈ program.env.globals ∧ v.isConst := by
  have made : (generate pointerSettings (.ofSeed 125 false)).result.toOption.map (fun program =>
      (program.env.globals.map fun v => (v.name, v.isConst),
        program.env.pointers.map fun pointer => (pointer.name, pointer.target, pointer.constTarget),
        program.definitions.map fun definition => decide (.target "g_2" ∈ blockTargets definition.body))) =
      some ([("g_0", false), ("g_1", true)],
        [("g_2", "g_1", false), ("g_3", "g_1", true), ("g_4", "g_1", true), ("g_5", "g_1", true)],
        [true]) := by
    decide +kernel
  obtain ⟨program, returned, parts⟩ := exists_of_toOption_map made
  obtain ⟨globals, others⟩ := Prod.mk.inj parts
  obtain ⟨pointers, bodies⟩ := Prod.mk.inj others
  obtain ⟨definition, _, definitions, inBody, -⟩ := List.map_eq_cons_iff.mp bodies
  obtain ⟨pointer, _, listed, aimed, -⟩ := List.map_eq_cons_iff.mp pointers
  obtain ⟨_, _, first, -, rest⟩ := List.map_eq_cons_iff.mp globals
  obtain ⟨v, _, second, isConst, -⟩ := List.map_eq_cons_iff.mp rest
  simp only [Prod.mk.injEq] at aimed isConst
  refine ⟨program, definition, pointer, v, returned, by simp [definitions], ?_, by simp [listed], aimed.2.2,
    aimed.2.1.trans isConst.1.symm, by simp [first, second], isConst.2⟩
  rw [aimed.1]
  exact List.mem_append_left _ (List.mem_append_left _ (List.mem_append_right _ (of_decide_eq_true inBody)))

/-- The same settings without constants. -/
def plainPointerSettings : Settings := { pointerSettings with consts := false }

/-- Without constants, an environment is built from nothing whose pointers respect what they point to.  With
them, a small program writes to a const object through a pointer. -/
theorem pointers_write_const_small :
    (∃ state : Environment.Building, state.Lists ∧ state.env = .empty ∧
      (Environment.build plainPointerSettings [.uint32] .empty).Succeeds state fun _ after =>
        ∀ pointer ∈ after.env.pointers, pointer.Respects after.env.globals) ∧
    ∃ (program : Program) (place : Place) (v : GlobalVar),
      (generate pointerSettings (.ofSeed 125 false)).result = .ok program ∧
      program.Writes place v ∧ v.isConst ∧ ∃ pointer ∈ program.env.pointers, place = .target pointer.name ∧
        pointer.target = v.name ∧ pointer.constTarget = false := by
  constructor
  · obtain ⟨state, lists, empty⟩ : ∃ state : Environment.Building, state.Lists ∧ state.env = .empty :=
      ⟨⟨Random.Source.ofSeed 125 false, .empty, .empty⟩, ⟨rfl, rfl, rfl, rfl, rfl, List.forall_mem_nil _⟩, rfl⟩
    have never : plainPointerSettings.aimsAtConst = false := by decide
    have builds := (pointers_write_const plainPointerSettings).1 [.uint32] .empty state
      (List.cons_ne_nil _ _) lists empty
    exact ⟨state, lists, empty, builds.mono fun _ _ ends => ends.2 never⟩
  · obtain ⟨program, definition, pointer, v, returned, member, assigned, listed, -, aimed, declared, isConst⟩ :=
      exists_const_write
    obtain ⟨inProgram, writes⟩ := Program.writes_of_env returned listed aimed declared
    exact ⟨program, _, v, returned, writes, isConst, ((pointers_write_const pointerSettings).2 _ program returned
      definition member _ assigned v inProgram writes isConst).2⟩

/-- Not every pointer without const on its target keeps away from const scalars, and not every body keeps
away from const objects. -/
theorem pointers_spare_const_fails : ∃ program : Program,
    (generate pointerSettings (.ofSeed 125 false)).result = .ok program ∧
      ¬ (∀ pointer ∈ program.env.pointers, pointer.constTarget = false →
        ∀ v ∈ program.env.globals, v.name = pointer.target → v.isConst = false) ∧
      ¬ ∀ definition ∈ program.definitions, ∀ place ∈ definition.targets, ∀ v ∈ program.globals,
        program.Writes place v → v.isConst = false := by
  obtain ⟨program, definition, pointer, v, returned, member, assigned, listed, plain, aimed, declared, isConst⟩ :=
    exists_const_write
  obtain ⟨inProgram, writes⟩ := Program.writes_of_env returned listed aimed declared
  refine ⟨program, returned, ?_, ?_⟩
  · intro spares
    exact Bool.noConfusion (isConst.symm.trans (spares pointer listed plain v declared aimed.symm))
  · intro spares
    exact Bool.noConfusion (isConst.symm.trans (spares definition member _ assigned v inProgram writes))

end RandomC
