import RandomC.Proofs.Contents

/-!
# The initial environment

The environment is built from any random state without fail.  Its scalars, arrays, pointers and links are
declared in this order, each by one line, under the numbers from zero on.  Every pointer points to one of
the scalars, and the links form ladders: the lowest link of a ladder points to an unqualified pointer, every
other one to the link below it, and each has one level of pointers more than what it points to.
-/

namespace RandomC

/-- The name of the link that is declared. -/
def Declaration.link? : Declaration → Option String
  | .link _ _ name _ => some name
  | _ => none

namespace Environment

/-! ## Ladders -/

/-- The links of a chain with the given names, the first with `stars` levels and pointing to `target`. -/
def rungs (type : CType) : (stars : Nat) → (target : String) → List String → List Declaration
  | _, _, [] => []
  | stars, target, name :: above => .link type stars name target :: rungs type (stars + 1) name above

/-- A chain of pointers to pointers: the pointer that it starts from, and the names of its links upwards. -/
structure Ladder where
  base : PointerVar
  names : List String

/-- The declarations of the links. -/
def Ladder.links (ladder : Ladder) : List Declaration :=
  rungs ladder.base.targetType 2 ladder.base.name ladder.names

/-- The level of the highest link, where the pointer that the chain starts from has level 1. -/
def Ladder.height (ladder : Ladder) : Nat := 1 + ladder.names.length

theorem rungs_getElem? (type : CType) (stars : Nat) (target : String) {names : List String} {rung : Nat}
    {name : String} (found : names[rung]? = some name) :
    ∃ below, (target :: names)[rung]? = some below ∧
      (rungs type stars target names)[rung]? = some (.link type (stars + rung) name below) := by
  induction names generalizing stars target rung with
  | nil => cases found
  | cons first above ih =>
      cases rung with
      | zero =>
          cases found
          exact ⟨target, rfl, rfl⟩
      | succ rung =>
          obtain ⟨below, foot, link⟩ := ih (stars + 1) first found
          refine ⟨below, foot, ?_⟩
          rw [rungs, List.getElem?_cons_succ, link, Nat.add_right_comm]
          rfl

example : (Ladder.links ⟨⟨"g_2", "g_0", .int8, false, false, false⟩, ["g_3", "g_4"]⟩).map Declaration.text =
    ["static int8_t **g_3 = &g_2;", "static int8_t ***g_4 = &g_3;"] := by decide

/-- What is not about links has no part in them. -/
theorem rungs_filterMap {α : Type} {part? : Declaration → Option α}
    (none : ∀ type stars name target, part? (.link type stars name target) = none) (type : CType)
    (stars : Nat) (target : String) (names : List String) :
    (rungs type stars target names).filterMap part? = [] := by
  induction names generalizing stars target with
  | nil => rfl
  | cons name above ih => rw [rungs, List.filterMap_cons, none, ih]

theorem rungs_link? (type : CType) (stars : Nat) (target : String) (names : List String) :
    (rungs type stars target names).filterMap Declaration.link? = names := by
  induction names generalizing stars target with
  | nil => rfl
  | cons name above ih =>
      rw [rungs, List.filterMap_cons, ih]
      rfl

theorem rungs_names (type : CType) (stars : Nat) (target : String) (names : List String) :
    (rungs type stars target names).flatMap Declaration.names = names := by
  induction names generalizing stars target with
  | nil => rfl
  | cons name above ih =>
      rw [rungs, List.flatMap_cons, ih]
      rfl

/-! ## Plans -/

/-- What an environment consists of: its scalars with the values they start with, its arrays and pointers,
and the chains that start from the pointers. -/
structure Plan where
  globals : List (GlobalVar × Literal)
  arrays : List ArrayVar
  pointers : List PointerVar
  ladders : List Ladder

namespace Plan

variable (plan : Plan)

/-- The declaration of a scalar with the value that it starts with. -/
def scalar (given : GlobalVar × Literal) : Declaration := .global given.1 (.literal given.2)

/-- The declarations of the variables that have numbers. -/
def declarations : List Declaration :=
  plan.globals.map scalar ++ plan.arrays.map .array ++ plan.pointers.map .pointer ++
    plan.ladders.flatMap Ladder.links

/-- The environment that lists the variables. -/
def env : Environment where
  globals := plan.globals.map Prod.fst
  arrays := plan.arrays
  pointers := plan.pointers
  chains := plan.ladders.flatMap Ladder.names
  nextId := ((plan.declarations.flatMap Declaration.names).length : Nat)

end Plan

/-- The names of the scalars, the arrays, the pointers and the links, in this order. -/
def variableNames (env : Environment) : List String :=
  env.globals.map (·.name) ++ env.arrays.map (·.name) ++ env.pointers.map (·.name) ++ env.chains

/-- The variables of the composite types. -/
def compositeDeclarations (layouts : Layouts) : List Declaration :=
  (List.range layouts.structs.length).map (.composite .struct) ++
    (List.range layouts.unions.length).map (.composite .union)

/-- The environment of some declarations, where some names have been taken for further ones. -/
def ofDeclared (declared : List Declaration) (pending : List String) : Environment where
  globals := declared.filterMap Declaration.global?
  arrays := declared.filterMap Declaration.array?
  pointers := declared.filterMap Declaration.pointer?
  chains := declared.filterMap Declaration.link?
  nextId := ((declared.flatMap Declaration.names ++ pending).length : Nat)

theorem filterMap_links {α : Type} {part? : Declaration → Option α}
    (none : ∀ type stars name target, part? (.link type stars name target) = none) (ladders : List Ladder) :
    (ladders.flatMap Ladder.links).filterMap part? = [] := by
  rw [List.filterMap_flatMap, List.flatMap_eq_nil_iff]
  exact fun ladder _ => rungs_filterMap none _ _ _ _

theorem filterMap_composites {α : Type} {part? : Declaration → Option α}
    (none : ∀ kind index, part? (.composite kind index) = none) (layouts : Layouts) :
    (compositeDeclarations layouts).filterMap part? = [] := by
  simp [compositeDeclarations, List.filterMap_map, none]

theorem names_composites (layouts : Layouts) :
    (compositeDeclarations layouts).flatMap Declaration.names = [] := by
  simp [compositeDeclarations, List.flatMap_map, Declaration.names]

theorem Plan.names_declarations (plan : Plan) :
    plan.declarations.flatMap Declaration.names = plan.env.variableNames := by
  have links : (plan.ladders.flatMap Ladder.links).flatMap Declaration.names =
      plan.ladders.flatMap Ladder.names := by
    rw [List.flatMap_assoc]
    exact List.flatMap_congr fun ladder _ => rungs_names _ _ _ _
  simp only [declarations, variableNames, env, List.flatMap_append, List.flatMap_map, links]
  simp [scalar, Declaration.names, Function.comp_def, ← List.map_eq_flatMap]

/-- What is not about links belongs to the scalars, the arrays or the pointers. -/
theorem Plan.filterMap_declarations {α : Type} {part? : Declaration → Option α}
    (link : ∀ type stars name target, part? (.link type stars name target) = none) (plan : Plan) :
    plan.declarations.filterMap part? =
      plan.globals.filterMap (fun given => part? (scalar given)) ++
        plan.arrays.filterMap (fun v => part? (.array v)) ++
        plan.pointers.filterMap (fun v => part? (.pointer v)) := by
  rw [declarations, List.filterMap_append, filterMap_links link]
  simp [List.filterMap_map]

theorem Plan.globals_eq (plan : Plan) :
    plan.declarations.filterMap Declaration.global? = plan.globals.map Prod.fst := by
  rw [filterMap_declarations fun _ _ _ _ => rfl]
  simp [Declaration.global?, scalar]

theorem Plan.pointers_eq (plan : Plan) :
    plan.declarations.filterMap Declaration.pointer? = plan.pointers := by
  rw [filterMap_declarations fun _ _ _ _ => rfl]
  simp [Declaration.pointer?, scalar]

/-- The environment of a plan lists what the plan consists of. -/
theorem Plan.ofDeclared_eq (plan : Plan) (layouts : Layouts) :
    ofDeclared (plan.declarations ++ compositeDeclarations layouts) [] = plan.env := by
  have links : (plan.ladders.flatMap Ladder.links).filterMap Declaration.link? =
      plan.ladders.flatMap Ladder.names := by
    rw [List.filterMap_flatMap]
    exact List.flatMap_congr fun ladder _ => rungs_link? _ _ _ _
  have silent {α : Type} {part? : Declaration → Option α}
      (none : ∀ kind index, part? (.composite kind index) = none) :
      (plan.declarations ++ compositeDeclarations layouts).filterMap part? =
        plan.declarations.filterMap part? := by
    rw [List.filterMap_append, filterMap_composites none, List.append_nil]
  unfold ofDeclared env
  congr 1
  · rw [silent fun _ _ => rfl, globals_eq]
  · rw [silent fun _ _ => rfl, filterMap_declarations fun _ _ _ _ => rfl]
    simp [Declaration.array?, scalar]
  · rw [silent fun _ _ => rfl, pointers_eq]
  · rw [silent fun _ _ => rfl, declarations]
    simp [links, List.filterMap_map, Declaration.link?, scalar, Function.comp_def]
  · rw [List.flatMap_append, names_composites, List.append_nil, List.append_nil]

/-! ## Building -/

/-- The state after some declarations: they stand on the sheet below what was there at the start, and the
environment lists them.  All their names, and those that have been taken for further ones, are numbered. -/
structure Building.Holds (start : Text.Sheet Item) (declared : List Declaration) (pending : List String)
    (state : Building) : Prop where
  sheet : state.sheet = writeEach .declare declared start
  env : state.env = ofDeclared declared pending
  named : declared.flatMap Declaration.names ++ pending =
    (List.range (declared.flatMap Declaration.names ++ pending).length).map
      fun number : Nat => globalName number

/-- Where `given` holds of what has been declared, the step succeeds and declares more: the rest of what the
pending names were taken for. -/
def Declares {α : Type} (given : List Declaration → Prop) (pending : List String) (step : Step Building α)
    (made : List Declaration → Prop) : Prop :=
  ∀ start declared state, given declared → Building.Holds start declared pending state →
    step.Succeeds state fun _ after =>
      ∃ more, Building.Holds start (declared ++ more) [] after ∧ given (declared ++ more) ∧ made more

/-- The declarations are those of some elements, `least` at least and `most` at most. -/
def Of {γ : Type} (image : γ → List Declaration) (each : γ → Prop) (least most : Nat)
    (made : List Declaration) : Prop :=
  ∃ elements : List γ, least ≤ elements.length ∧ elements.length ≤ most ∧
    (∀ element ∈ elements, each element) ∧ made = elements.flatMap image

section

variable {α β γ : Type} {given : List Declaration → Prop} {pending : List String}
variable {made : List Declaration → Prop} {settings : Settings} {scalars : List CType}
variable {image : γ → List Declaration} {each : γ → Prop} {least most : Nat}

theorem Of.none : Of image each 0 0 [] := ⟨[], Nat.le_refl 0, Nat.le_refl 0, nofun, rfl⟩

theorem Of.one (element : γ) (holds : each element) : Of image each 1 1 (image element) :=
  ⟨[element], Nat.le_refl 1, Nat.le_refl 1, by simpa using holds, by simp⟩

theorem Of.append {fewest further : Nat} {first second : List Declaration}
    (former : Of image each least most first) (latter : Of image each fewest further second) :
    Of image each (least + fewest) (most + further) (first ++ second) := by
  obtain ⟨elements, enough, few, all, rfl⟩ := former
  obtain ⟨others, alsoEnough, alsoFew, others_all, rfl⟩ := latter
  refine ⟨elements ++ others, ?_, ?_, List.forall_mem_append.mpr ⟨all, others_all⟩, by simp⟩
  · rw [List.length_append]
    omega
  · rw [List.length_append]
    omega

theorem Of.mono {fewer further : Nat} {declared : List Declaration} (of : Of image each least most declared)
    (less : fewer ≤ least) (more : most ≤ further) : Of image each fewer further declared := by
  obtain ⟨elements, enough, few, all, same⟩ := of
  exact ⟨elements, Nat.le_trans less enough, Nat.le_trans few more, all, same⟩

/-- Where each element has one declaration. -/
theorem Of.map {image : γ → Declaration} {declared : List Declaration}
    (of : Of (fun element => [image element]) each least most declared) :
    ∃ elements : List γ, least ≤ elements.length ∧ elements.length ≤ most ∧
      (∀ element ∈ elements, each element) ∧ declared = elements.map image := by
  obtain ⟨elements, enough, few, all, rfl⟩ := of
  exact ⟨elements, enough, few, all, List.map_eq_flatMap.symm⟩

namespace Declares

theorem pure {value : α} (nothing : made []) : Declares given [] (pure value) made :=
  fun _ declared _ holds state => ⟨[], by simpa using state, by simpa using holds, nothing⟩

/-- Two steps in a row. -/
theorem bind {step : Step Building α} {next : α → Step Building β} {former latter : List Declaration → Prop}
    (first : Declares given pending step former) (second : ∀ value, Declares given [] (next value) latter)
    (both : ∀ first second, former first → latter second → made (first ++ second)) :
    Declares given pending (step >>= next) made := by
  intro start declared state holds begun
  apply (first start declared state holds begun).bind
  rintro value middle ⟨more, reached, holds, former⟩
  apply (second value start _ middle holds reached).mono
  rintro _ after ⟨rest, ended, holds, latter⟩
  rw [List.append_assoc] at ended holds
  exact ⟨more ++ rest, ended, holds, both more rest former latter⟩

/-- Draws declare nothing. -/
theorem calm {step : Step Building α} {next : α → Step Building β} {post : α → Prop} (calm : Calm step post)
    (second : ∀ value, post value → Declares given pending (next value) made) :
    Declares given pending (step >>= next) made := by
  intro start declared state holds begun
  apply Step.Succeeds.calm calm
  rintro value after ⟨sheet, env⟩ drawn
  exact second value drawn start declared after holds
    ⟨sheet.trans begun.sheet, env.trans begun.env, begun.named⟩

/-- A name is taken for what is declared next. -/
theorem fresh {next : String → Step Building β} (second : ∀ name, Declares given [name] (next name) made) :
    Declares given [] (freshName >>= next) made := by
  intro start declared state holds begun
  have count := congrArg Environment.nextId begun.env
  simp only [ofDeclared, List.append_nil] at count
  simp only [freshName, change, Step.Succeeds, Step.ends_bind, Step.ends_get, Step.ends_modify, Step.ends_pure]
  refine second _ start declared _ holds ⟨begun.sheet, ?_, ?_⟩
  · rw [begun.env]
    simp [ofDeclared]
  · have named := begun.named
    rw [List.append_nil] at named
    rw [List.length_append, List.length_singleton, List.range_succ, List.map_append, ← named, count]
    rfl

/-- The name that was taken is declared, and the environment lists what has it. -/
theorem declare {declaration : Declaration} {f : Environment → Environment}
    (own : declaration.names = pending)
    (lists : ∀ env, f env = { env with
      globals := env.globals ++ declaration.global?.toList
      arrays := env.arrays ++ declaration.array?.toList
      pointers := env.pointers ++ declaration.pointer?.toList
      chains := env.chains ++ declaration.link?.toList })
    (kept : ∀ declared, given declared → given (declared ++ [declaration])) (holds : made [declaration]) :
    Declares given pending (declare declaration f) made := by
  intro start declared state given begun
  have single {γ : Type} (part? : Declaration → Option γ) :
      [declaration].filterMap part? = (part? declaration).toList := by
    simp [List.filterMap_eq_flatMap_toList]
  simp only [Environment.declare, write, change, Step.Succeeds, Step.ends_bind, Step.ends_modify]
  refine ⟨[declaration], ⟨?_, ?_, ?_⟩, kept declared given, holds⟩
  · simp [begun.sheet, writeEach]
  · rw [begun.env, lists]
    simp only [ofDeclared, List.filterMap_append, single, List.flatMap_append, List.flatMap_cons,
      List.flatMap_nil, own, List.append_nil]
  · simpa [own] using begun.named

theorem times {step : Step Building Unit} (declares : Declares given [] step (Of image each least most))
    (rounds : Nat) :
    Declares given [] (times step rounds) (Of image each (rounds * least) (rounds * most)) := by
  induction rounds with
  | zero =>
      rw [Nat.zero_mul, Nat.zero_mul]
      exact .pure .none
  | succ rounds ih =>
      rw [Nat.succ_mul, Nat.succ_mul, Nat.add_comm _ least, Nat.add_comm _ most]
      exact declares.bind (fun _ => ih) fun _ _ => Of.append

theorem mono {step : Step Building α} {weaker : List Declaration → Prop}
    (declares : Declares given pending step made) (weaken : ∀ more, made more → weaker more) :
    Declares given pending step weaker := by
  intro start declared state holds begun
  apply (declares start declared state holds begun).mono
  rintro _ after ⟨more, ended, kept, made⟩
  exact ⟨more, ended, kept, weaken more made⟩

theorem onlyIf {step : Step Building Unit} (declares : Declares given [] step (Of image each least most))
    (wanted : Bool) :
    Declares given [] (onlyIf wanted step)
      (Of image each (if wanted then least else 0) (if wanted then most else 0)) := by
  cases wanted with
  | true => exact declares
  | false => exact .pure .none

/-- What is read of the environment is what has been declared. -/
theorem get {next : Building → Step Building β}
    (second : ∀ declared state, given declared → state.env = ofDeclared declared pending →
      Declares given pending (next state) made) :
    Declares given pending (get >>= next) made := by
  intro start declared state holds begun
  apply Step.ends_bind.mpr
  exact second declared state holds begun.env start declared state holds begun

end Declares

/-! ## Kinds of variables -/

/-- The scalar is of one of the types, and has no qualifiers but those in use. -/
structure Scalar (settings : Settings) (scalars : List CType) (v : GlobalVar) : Prop where
  type : v.type ∈ scalars
  suits : v.Suits settings

theorem addScalar_declares (inhabited : scalars ≠ []) :
    Declares (fun _ => True) [] (addScalar settings scalars)
      (Of (fun given => [Plan.scalar given]) (fun given => Scalar settings scalars given.1) 1 1) := by
  apply Declares.calm (calm_drawQualifiers settings)
  rintro ⟨isConst, isVolatile⟩ ⟨consts, volatiles⟩
  apply Declares.fresh
  intro name
  apply Declares.calm (calm_choose inhabited)
  intro type member
  apply Declares.calm calm_drawInitial
  intro initial _
  let v : GlobalVar := ⟨name, type, isConst, isVolatile⟩
  have scalar : Scalar settings scalars v := ⟨member, consts, volatiles⟩
  refine Declares.declare rfl (fun _ => ?_) (fun _ _ => trivial) (Of.one (v, initial) scalar)
  simp [Declaration.global?, Declaration.array?, Declaration.pointer?, Declaration.link?]

/-- There are two scalars at least, and no more than the limit where it is higher. -/
theorem addScalars_declares (inhabited : scalars ≠ []) :
    Declares (fun _ => True) [] (addScalars settings scalars)
      (Of (fun given => [Plan.scalar given]) (fun given => Scalar settings scalars given.1) 2
        (max settings.maxGlobals 2).toNat) := by
  apply Declares.calm (calm_below 18)
  intro wanted _
  apply ((addScalar_declares inhabited).times _).mono
  exact fun _ of => of.mono (by omega) (by omega)

/-- The array is of one of the types and has two elements at least. -/
structure Long (scalars : List CType) (v : ArrayVar) : Prop where
  type : v.type ∈ scalars
  length : 2 ≤ v.length

theorem addArray_declares (inhabited : scalars ≠ []) :
    Declares (fun _ => True) [] (addArray settings scalars)
      (Of (fun v => [.array v]) (Long scalars) 1 1) := by
  apply Declares.calm (calm_below _)
  intro length _
  apply Declares.fresh
  intro name
  apply Declares.calm (calm_choose inhabited)
  intro type member
  let v : ArrayVar := ⟨name, type, 2 + length⟩
  have long : Long scalars v := ⟨member, by dsimp only [v]; omega⟩
  refine Declares.declare rfl (fun _ => ?_) (fun _ _ => trivial) (Of.one v long)
  simp [Declaration.global?, Declaration.array?, Declaration.pointer?, Declaration.link?]

theorem addArrays_declares (inhabited : scalars ≠ []) :
    Declares (fun _ => True) [] (addArrays settings scalars)
      (Of (fun v => [.array v]) (Long scalars) 12 40) := by
  apply Declares.get
  intro declared state _ _
  apply ((addArray_declares inhabited).times _).mono
  exact fun _ of => of.mono (by omega) (by omega)

/-- The pointer points to one of the scalars and has its type. -/
def Aimed (targets : List GlobalVar) (pointer : PointerVar) : Prop :=
  ∃ v ∈ targets, pointer.target = v.name ∧ pointer.targetType = v.type

/-- The index that is drawn stays within the scalars, also where the first one is spared. -/
theorem addPointer_declares {targets : List GlobalVar} (two : 2 ≤ targets.length) :
    Declares (fun declared => declared.filterMap Declaration.global? = targets) []
      (addPointer settings targets) (Of (fun v => [.pointer v]) (Aimed targets) 1 1) := by
  unfold addPointer
  apply Declares.calm (calm_below _)
  intro chosen below
  apply Declares.calm (calm_target two spared_le (by omega))
  intro target member
  apply Declares.fresh
  intro name
  apply Declares.calm (calm_decideIf (calm_oneIn 3))
  intro isVolatile _
  apply Declares.calm (calm_decideIf (calm_oneIn 4))
  intro volatileTarget _
  apply Declares.calm (calm_decideIf (calm_oneIn 3))
  intro constTarget _
  let v : PointerVar := ⟨name, target.name, target.type, isVolatile, volatileTarget, constTarget⟩
  have aimed : Aimed targets v := ⟨target, member, rfl, rfl⟩
  refine Declares.declare rfl (fun _ => ?_) (fun _ same => ?_) (Of.one v aimed)
  · simp [Declaration.global?, Declaration.array?, Declaration.pointer?, Declaration.link?]
  · rw [List.filterMap_append, same]
    exact List.append_nil targets

theorem addPointers_declares {targets : List GlobalVar} (two : 2 ≤ targets.length) :
    Declares (fun declared => declared.filterMap Declaration.global? = targets) []
      (addPointers settings) (Of (fun v => [.pointer v]) (Aimed targets) 4 12) := by
  apply Declares.get
  intro declared state same listed
  have globals : state.env.globals = targets := (congrArg globals listed).trans same
  rw [globals]
  apply ((addPointer_declares two).times _).mono
  exact fun _ of => of.mono (by omega) (by omega)

/-- The ladder starts from an unqualified pointer, and has one link at least, and no more than the limit
allows where it is higher. -/
structure Rises (settings : Settings) (pointers : List PointerVar) (ladder : Ladder) : Prop where
  base : ladder.base ∈ pointers
  plain : ladder.base.qualified = false
  least : 2 ≤ ladder.height
  most : (ladder.height : Int) ≤ max 2 (min settings.maxPointerDepth 4)

/-- Each link points to the one that was declared before it.  Induction on the number of links. -/
theorem addLinks_declares (pointers : List PointerVar) (type : CType) (count stars : Nat) (target : String) :
    Declares (fun declared => declared.filterMap Declaration.pointer? = pointers) []
      (addLinks type count stars target)
      fun made => ∃ names : List String, names.length = count ∧ made = rungs type stars target names := by
  induction count generalizing stars target with
  | zero => exact .pure ⟨[], rfl, rfl⟩
  | succ count ih =>
      apply Declares.fresh
      intro name
      have link : Declares (fun declared => declared.filterMap Declaration.pointer? = pointers) [name]
          (declare (.link type stars name target) fun env => { env with chains := env.chains ++ [name] })
          (· = [.link type stars name target]) := by
        refine Declares.declare rfl (fun _ => ?_) (fun _ same => ?_) rfl
        · simp [Declaration.global?, Declaration.array?, Declaration.pointer?, Declaration.link?]
        · rw [List.filterMap_append, same]
          exact List.append_nil pointers
      apply link.bind (fun _ => ih (stars + 1) name)
      rintro _ _ rfl ⟨names, amount, rfl⟩
      exact ⟨name :: names, by rw [List.length_cons, amount], rfl⟩

theorem addChain_declares (pointers : List PointerVar) :
    Declares (fun declared => declared.filterMap Declaration.pointer? = pointers) [] (addChain settings)
      (Of Ladder.links (Rises settings pointers) 0 1) := by
  apply Declares.get
  intro declared state same listed
  have given : state.env.pointers = pointers := (congrArg Environment.pointers listed).trans same
  rw [given]
  dsimp only
  split
  · exact .pure (Of.none.mono (Nat.le_refl 0) (Nat.zero_le 1))
  · rename_i some
    have inhabited : pointers.filter (! ·.qualified) ≠ [] := by simpa using some
    apply Declares.calm (calm_choose inhabited)
    intro base member
    obtain ⟨member, plain⟩ := List.mem_filter.mp member
    apply Declares.calm (calm_below _)
    intro extra below
    apply (addLinks_declares pointers base.targetType (1 + extra) 2 base.name).mono
    rintro _ ⟨names, amount, rfl⟩
    let ladder : Ladder := ⟨base, names⟩
    have height : ladder.height = 2 + extra := by
      dsimp only [Ladder.height, ladder]
      omega
    have rises : Rises settings pointers ladder := ⟨member, by simpa using plain, by omega, by omega⟩
    exact (Of.one ladder rises).mono (Nat.zero_le 1) (Nat.le_refl 1)

theorem addChains_declares (pointers : List PointerVar) :
    Declares (fun declared => declared.filterMap Declaration.pointer? = pointers) [] (addChains settings)
      (Of Ladder.links (Rises settings pointers) 0 4) := by
  apply Declares.get
  intro declared state _ _
  apply ((addChain_declares pointers).times _).mono
  exact fun _ of => of.mono (by omega) (by omega)

theorem addComposites_declares (kind : CompositeKind) (count index : Nat) :
    Declares (fun _ => True) [] (addComposites kind count index)
      (· = (List.range' index count).map (.composite kind)) := by
  have one (index : Nat) : Declares (fun _ => True) [] (write (.declare (.composite kind index)))
      (· = [.composite kind index]) := by
    have declared : Declares (fun _ => True) [] (declare (.composite kind index) id)
        (· = [.composite kind index]) := by
      refine Declares.declare rfl (fun _ => ?_) (fun _ _ => trivial) rfl
      simp [Declaration.global?, Declaration.array?, Declaration.pointer?, Declaration.link?]
    exact fun start before state given begun => declared start before state given begun
  induction count generalizing index with
  | zero => exact .pure rfl
  | succ count ih =>
      apply (one index).bind (fun _ => ih (index + 1))
      rintro _ _ rfl rfl
      rfl

/-! ## The whole environment -/

/-- There are so many of what is in use, and none of what is not. -/
def Counted (inUse : Bool) (least most : Int) (count : Nat) : Prop :=
  if inUse then least ≤ count ∧ count ≤ most else count = 0

/-- The scalars and arrays are of the given types, the pointers point to scalars, the ladders start from
pointers, and there are as many of each kind as there should be. -/
structure Plan.Sound (settings : Settings) (scalars : List CType) (plan : Plan) : Prop where
  globals : ∀ given ∈ plan.globals, Scalar settings scalars given.1
  arrays : ∀ v ∈ plan.arrays, Long scalars v
  pointers : ∀ pointer ∈ plan.pointers, Aimed (plan.globals.map Prod.fst) pointer
  ladders : ∀ ladder ∈ plan.ladders, Rises settings plan.pointers ladder
  globalCount : Counted settings.globalVariables 2 (max settings.maxGlobals 2) plan.globals.length
  arrayCount : Counted (settings.globalVariables && settings.arrays) 12 40 plan.arrays.length
  pointerCount : Counted (settings.globalVariables && settings.pointers) 4 12 plan.pointers.length

/-- The variables that have numbers are declared by a plan. -/
theorem addVariables_follows {start : Text.Sheet Item} {state : Building} (inhabited : scalars ≠ [])
    (inUse : settings.globalVariables = true) (begun : Building.Holds start [] [] state) :
    (addVariables settings scalars).Succeeds state fun _ after =>
      ∃ plan : Plan, Building.Holds start plan.declarations [] after ∧ plan.Sound settings scalars := by
  apply (addScalars_declares inhabited start [] state trivial begun).bind
  rintro _ state ⟨_, begun, -, of⟩
  obtain ⟨globals, two, limit, scalar, rfl⟩ := of.map
  have globalCount : Counted settings.globalVariables 2 (max settings.maxGlobals 2) globals.length := by
    rw [inUse]
    exact ⟨by omega, by omega⟩
  apply ((addArrays_declares inhabited).onlyIf settings.arrays start _ state trivial begun).bind
  rintro _ state ⟨_, begun, -, of⟩
  obtain ⟨arrays, enough, few, long, rfl⟩ := of.map
  have arrayCount : Counted (settings.globalVariables && settings.arrays) 12 40 arrays.length := by
    rw [inUse, Bool.true_and]
    cases wanted : settings.arrays with
    | true =>
        rw [wanted] at enough few
        exact ⟨by exact_mod_cast enough, by exact_mod_cast few⟩
    | false =>
        rw [wanted] at few
        exact Nat.le_zero.mp few
  have begun : Building.Holds start (Plan.declarations ⟨globals, arrays, [], []⟩) [] state := by
    simpa [Plan.declarations] using begun
  cases wanted : settings.pointers with
  | true =>
      -- Pointers have something to point to, for the scalars come first.
      have two : 2 ≤ (globals.map Prod.fst).length := by simpa using two
      apply (addPointers_declares two start _ state (Plan.globals_eq _) begun).bind
      rintro _ state ⟨_, begun, -, of⟩
      obtain ⟨pointers, enough, few, aimed, rfl⟩ := of.map
      have begun : Building.Holds start (Plan.declarations ⟨globals, arrays, pointers, []⟩) [] state := by
        simpa [Plan.declarations] using begun
      apply (addChains_declares pointers start _ state (Plan.pointers_eq _) begun).mono
      rintro _ after ⟨_, ended, -, ladders, -, -, rises, rfl⟩
      refine ⟨⟨globals, arrays, pointers, ladders⟩, ?_, scalar, long, aimed, rises, globalCount,
        arrayCount, ?_⟩
      · simpa [Plan.declarations] using ended
      · rw [inUse, wanted]
        exact ⟨by exact_mod_cast enough, by exact_mod_cast few⟩
  | false =>
      refine ⟨⟨globals, arrays, [], []⟩, begun, scalar, long, nofun, nofun, globalCount, arrayCount, ?_⟩
      rw [inUse, wanted]
      rfl

/-- The environment that is built follows a plan: its declarations stand below the heading, and behind them
those of the variables of composite types. -/
theorem build_follows (settings : Settings) (layouts : Layouts) (state : Building) (inhabited : scalars ≠ [])
    (empty : state.env = .empty) :
    (build settings scalars layouts).Succeeds state fun _ after =>
      ∃ plan : Plan, plan.Sound settings scalars ∧ after.env = plan.env ∧
        plan.env.variableNames =
          (List.range plan.env.variableNames.length).map (fun number : Nat => globalName number) ∧
        after.sheet = (writeEach .declare (plan.declarations ++ compositeDeclarations layouts)
          (state.sheet.write 0 (.heading "GLOBAL VARIABLES"))).blankLine := by
  let start := state.sheet.write 0 (.heading "GLOBAL VARIABLES")
  have numbered : ∀ state, Building.Holds start [] [] state →
      (onlyIf settings.globalVariables (addVariables settings scalars)).Succeeds state fun _ after =>
        ∃ plan : Plan, Building.Holds start plan.declarations [] after ∧ plan.Sound settings scalars := by
    intro state begun
    cases wanted : settings.globalVariables with
    | true => exact addVariables_follows inhabited wanted begun
    | false =>
        refine ⟨⟨[], [], [], []⟩, begun, nofun, nofun, nofun, nofun, ?_, ?_, ?_⟩
        all_goals
          rw [wanted]
          rfl
  have begun : Building.Holds start [] [] { state with sheet := start } := ⟨rfl, empty, rfl⟩
  have heading : (write (.heading "GLOBAL VARIABLES")).Succeeds state fun _ after =>
      Building.Holds start [] [] after := begun
  apply heading.bind
  intro _ state begun
  apply (numbered state begun).bind
  rintro _ state ⟨plan, begun, sound⟩
  apply (addComposites_declares .struct _ 0 start _ state trivial begun).bind
  rintro _ state ⟨_, begun, -, rfl⟩
  apply (addComposites_declares .union _ 0 start _ state trivial begun).bind
  rintro _ state ⟨_, ended, -, rfl⟩
  have ended : Building.Holds start (plan.declarations ++ compositeDeclarations layouts) [] state := by
    rwa [List.append_assoc, ← List.range_eq_range', ← List.range_eq_range'] at ended
  have named := ended.named
  rw [List.append_nil, List.flatMap_append, names_composites, List.append_nil, plan.names_declarations] at named
  exact ⟨plan, sound, ended.env.trans (plan.ofDeclared_eq layouts), named,
    congrArg Text.Sheet.blankLine ended.sheet⟩

/-- Each declaration is one line of the text. -/
theorem written_declarations (declared : List Declaration) (sheet : Text.Sheet Item) :
    (writeEach .declare declared sheet).written = sheet.written ++
      String.join (declared.map fun declaration => Text.indentedLine sheet.level declaration.text) := by
  unfold writeEach
  induction declared generalizing sheet with
  | nil => simp
  | cons declaration rest ih =>
      rw [List.foldl_cons, ih, Text.Sheet.written_write, List.map_cons, String.join_cons]
      simp [Item.layout, Item.lines, Text.Sheet.write, String.append_assoc]

end

/-- Whatever the settings and the composite types are, and from any random state, the environment is built
without fail, and it follows a plan.  The names of its scalars, arrays, pointers and links, in this order, are
numbered from zero on, and each of them is declared by one line of the text.  Pointers point to scalars of
their types.  A link at a level has so many stars, and points to the link below it or, at the second level, to
the unqualified pointer that its ladder starts from. -/
theorem build_declares_in_order (settings : Settings) (layouts : Layouts) (stream : Random.Stream)
    (sheet : Text.Sheet Item) :
    let scalars := CType.scalars settings.intSize settings.longLong
    ∃ (after : Building) (plan : Plan),
      build settings scalars layouts ⟨stream, sheet, .empty⟩ = (.ok (), after) ∧
        after.env = plan.env ∧ plan.Sound settings scalars ∧
        (∃ count : Nat, after.env.nextId = count ∧
          after.env.variableNames = (List.range count).map fun number : Nat => globalName number) ∧
        (∀ ladder ∈ plan.ladders, ∀ (rung : Nat) (name : String), ladder.names[rung]? = some name →
          ∃ below, (ladder.base.name :: ladder.names)[rung]? = some below ∧
            ladder.links[rung]? = some (.link ladder.base.targetType (2 + rung) name below)) ∧
        after.sheet.written = sheet.written ++
          Text.indentedLine sheet.level "/* --- GLOBAL VARIABLES --- */" ++
          String.join ((plan.declarations ++ compositeDeclarations layouts).map fun declaration =>
            Text.indentedLine sheet.level declaration.text) ++ "\n" := by
  intro scalars
  have inhabited : scalars ≠ [] := scalars_ne_nil _ _
  obtain ⟨_, after, built, plan, sound, env, named, written⟩ :=
    (build_follows settings layouts ⟨stream, sheet, .empty⟩ inhabited rfl).exists
  refine ⟨after, plan, built, env, sound, ⟨plan.env.variableNames.length, ?_, ?_⟩, ?_, ?_⟩
  · rw [env, ← plan.names_declarations]
    rfl
  · rw [env]
    exact named
  · exact fun ladder _ rung name found => rungs_getElem? _ 2 _ found
  · rw [written, Text.Sheet.written_blankLine, written_declarations, Text.Sheet.written_write]
    simp [Item.layout, Item.lines, Text.Sheet.write, String.append_assoc]

end Environment

end RandomC
