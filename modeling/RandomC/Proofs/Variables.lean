import RandomC.Proofs.Composites

/-!
# Variables of the environment on the sheet

The variables of the environment are declared as they are made, under the numbers that follow each other.
A pointer points to a scalar or to a link that was declared before it.
-/

namespace RandomC.Environment

variable {scalars : List CType} {tally : Tally} {state : Building} {env : Environment}

/-! ## Sound environments -/

theorem Names.next {name : String} (names : env.Names name) :
    { env with nextId := env.nextId + 1 }.Names name := by
  rcases names with ⟨number, bound, same⟩
  exact ⟨number, by dsimp only; omega, same⟩

/-- The next number is taken. -/
theorem Sound.next (sound : env.Sound scalars) : { env with nextId := env.nextId + 1 }.Sound scalars where
  globals v member := ⟨(sound.globals v member).1, (sound.globals v member).2.next⟩
  arrays v member := ⟨(sound.arrays v member).1, (sound.arrays v member).2.next⟩
  pointers v member := ⟨(sound.pointers v member).1, (sound.pointers v member).2.next⟩

theorem Sound.withGlobal {v : GlobalVar} (sound : env.Sound scalars) (type : v.type ∈ scalars)
    (own : env.Names v.name) : { env with globals := env.globals ++ [v] }.Sound scalars where
  globals := List.forall_mem_append.mpr ⟨sound.globals, by simpa using ⟨type, own⟩⟩
  arrays := sound.arrays
  pointers := sound.pointers

theorem Sound.withArray {v : ArrayVar} (sound : env.Sound scalars) (type : v.type ∈ scalars)
    (own : env.Names v.name) : { env with arrays := env.arrays ++ [v] }.Sound scalars where
  globals := sound.globals
  arrays := List.forall_mem_append.mpr ⟨sound.arrays, by simpa using ⟨type, own⟩⟩
  pointers := sound.pointers

theorem Sound.withPointer {v : PointerVar} (sound : env.Sound scalars) (type : v.targetType ∈ scalars)
    (own : env.Names v.name) : { env with pointers := env.pointers ++ [v] }.Sound scalars where
  globals := sound.globals
  arrays := sound.arrays
  pointers := List.forall_mem_append.mpr ⟨sound.pointers, by simpa using ⟨type, own⟩⟩

theorem Sound.withLink {name : String} (sound : env.Sound scalars) :
    { env with chains := env.chains ++ [name] }.Sound scalars :=
  ⟨sound.globals, sound.arrays, sound.pointers⟩

/-! ## States -/

instance : Resting Building where
  Still before after := after.sheet = before.sheet ∧ after.env = before.env
  refl _ := ⟨rfl, rfl⟩
  trans earlier later := ⟨later.1.trans earlier.1, later.2.trans earlier.2⟩
  withStream _ _ := ⟨rfl, rfl⟩

/-- The sheet keeps a ledger that goes with the environment, where some numbers are taken already for
variables that are not declared yet. -/
structure Building.Keeps (scalars : List CType) (tally : Tally) (taken : Nat) (state : Building) : Prop where
  sheet : state.sheet.Keeps tally
  nextId : state.env.nextId = tally .global + taken
  sound : state.env.Sound scalars

/-- A draw leaves the sheet and the environment as they are. -/
theorem Building.Keeps.idle {α β : Type} {step : Step Building α} {next : α → Step Building β}
    {post : α → Prop} {ok : β → Building → Prop} {taken : Nat} (keeps : state.Keeps scalars tally taken)
    (idle : Idle step post)
    (second : ∀ value after, after.Keeps scalars tally taken → post value →
      (next value).Gives after ok) : (step >>= next).Gives state ok := by
  apply Step.Gives.idle idle
  intro value after still holds
  rcases still with ⟨sheet, env⟩
  apply second value after _ holds
  exact ⟨sheet ▸ keeps.sheet, env ▸ keeps.nextId, env ▸ keeps.sound⟩

/-- The next number is taken for a name. -/
theorem freshName_gives (keeps : state.Keeps scalars tally 0) :
    freshName.Gives state fun name after =>
      name = globalName (tally .global : Nat) ∧ after.Keeps scalars tally 1 := by
  have number : state.env.nextId = (tally .global : Nat) := by simpa using keeps.nextId
  simp only [freshName, change, Step.Gives, Step.ends_bind, Step.ends_get, Step.ends_modify, Step.ends_pure]
  refine ⟨by rw [number], keeps.sheet, ?_, keeps.sound.next⟩
  simp [number]

/-- The name that is taken belongs to the environment. -/
theorem Building.Keeps.names (keeps : state.Keeps scalars tally 1) :
    state.env.Names (globalName (tally .global : Nat)) := by
  refine ⟨tally .global, ?_, rfl⟩
  have number := keeps.nextId
  omega

/-- The variable that has its number is declared, and goes into the environment. -/
theorem declare_gives {declaration : Declaration} {f : Environment → Environment}
    (keeps : state.Keeps scalars tally 1) (own : declaration.names = [globalName (tally .global : Nat)])
    (closed : (Item.declare declaration).Closed state.sheet.contents)
    (nextId : (f state.env).nextId = state.env.nextId) (sound : (f state.env).Sound scalars) :
    (declare declaration f).Gives state fun _ after => after.Keeps scalars (tally.add .global 1) 0 := by
  have first : NameKind.global.first = 0 := rfl
  have declares : (Item.declare declaration).DeclaresOnly .global
      (NameKind.global.name (NameKind.global.first + tally .global)) := by
    intro other
    rw [Item.declares, own, first, Nat.zero_add]
    rfl
  simp only [declare, write, change, Step.Gives, Step.ends_bind, Step.ends_modify]
  constructor
  · exact keeps.sheet.declare 0 closed declares
  · rw [Tally.add_self]
    simp [nextId, keeps.nextId]
  · exact sound

/-! ## Scalars and arrays -/

theorem idle_drawInitial : Idle (Step.draw Literal.drawInitial : Step Building Literal) Literal.Plain := by
  apply idle_draw
  intro source
  have suffix : (Literal.drawInitial source).1.suffix = "u" := rfl
  rw [Literal.Plain, suffix]
  decide

theorem addScalar_gives (settings : Settings) (quiet : ∀ type ∈ scalars, names type.name = [])
    (keeps : state.Keeps scalars tally 0) :
    (addScalar settings scalars).Gives state fun _ after => after.Keeps scalars (tally.add .global 1) 0 := by
  apply keeps.idle (idle_drawQualifiers settings)
  intro qualified state keeps _
  apply (freshName_gives keeps).bind
  intro name state fresh
  rcases fresh with ⟨rfl, keeps⟩
  apply keeps.idle (idle_choose scalars)
  intro type state keeps member
  apply keeps.idle idle_drawInitial
  intro initial state keeps plain
  apply declare_gives keeps rfl _ rfl
  · exact keeps.sound.withGlobal member keeps.names
  · exact Item.closed_global plain rfl (by simp [quiet type member])

theorem addArray_gives (settings : Settings) (quiet : ∀ type ∈ scalars, names type.name = [])
    (keeps : state.Keeps scalars tally 0) :
    (addArray settings scalars).Gives state fun _ after => after.Keeps scalars (tally.add .global 1) 0 := by
  apply keeps.idle (idle_below _)
  intro length state keeps _
  apply (freshName_gives keeps).bind
  intro name state fresh
  rcases fresh with ⟨rfl, keeps⟩
  apply keeps.idle (idle_choose scalars)
  intro type state keeps member
  apply declare_gives keeps rfl _ rfl
  · exact keeps.sound.withArray member keeps.names
  · exact Item.closed_array rfl (quiet type member)

/-! ## Pointers -/

/-- The name is that of a global that was declared. -/
def Older (tally : Tally) (name : String) : Prop :=
  ∃ number : Nat, number < tally .global ∧ name = globalName number

theorem Older.later {name : String} {amount : Nat} (older : Older tally name) :
    Older (tally.add .global amount) name := by
  rcases older with ⟨number, bound, same⟩
  refine ⟨number, ?_, same⟩
  rw [Tally.add_self]
  omega

theorem Building.Keeps.older {name : String} (keeps : state.Keeps scalars tally 0)
    (names : state.env.Names name) : Older tally name := by
  rcases names with ⟨number, bound, same⟩
  have next := keeps.nextId
  exact ⟨number, by omega, same⟩

theorem Building.Keeps.mem {number taken : Nat} (keeps : state.Keeps scalars tally taken)
    (bound : number < tally .global) :
    globalName number ∈ declaredOf .global state.sheet.contents := by
  have within : number < NameKind.global.first + tally .global := by simpa [NameKind.first] using bound
  exact keeps.sheet.ledger.mem (Nat.zero_le number) within

theorem addPointer_gives (settings : Settings) (quiet : ∀ type ∈ scalars, names type.name = [])
    {targets : List GlobalVar} (sound : ∀ v ∈ targets, v.type ∈ scalars ∧ Older tally v.name)
    (keeps : state.Keeps scalars tally 0) :
    (addPointer settings targets).Gives state fun _ after =>
      after.Keeps scalars (tally.add .global 1) 0 := by
  unfold addPointer
  dsimp only
  apply keeps.idle (idle_below _)
  intro chosen state keeps _
  apply keeps.idle (idle_element _ _)
  intro target state keeps member
  obtain ⟨type, number, bound, points⟩ := sound target member
  apply (freshName_gives keeps).bind
  intro name state fresh
  rcases fresh with ⟨rfl, keeps⟩
  apply keeps.idle (idle_decideIf (idle_oneIn 3))
  intro isVolatile state keeps _
  apply keeps.idle (idle_decideIf (idle_oneIn 4))
  intro volatileTarget state keeps _
  apply keeps.idle (idle_decideIf (idle_oneIn 3))
  intro constTarget state keeps _
  apply declare_gives keeps rfl _ rfl
  · exact keeps.sound.withPointer type keeps.names
  · exact Item.closed_pointer (Nat.ne_of_lt bound) rfl points (quiet _ type) (keeps.mem bound)

theorem addLinks_gives {type : CType} (quiet : names type.name = []) (count stars : Nat) {target : String}
    (older : Older tally target) (keeps : state.Keeps scalars tally 0) :
    (addLinks type count stars target).Gives state fun _ after =>
      after.Keeps scalars (tally.add .global count) 0 := by
  induction count generalizing stars target tally state with
  | zero =>
      apply Step.ends_pure.mpr
      simpa using keeps
  | succ count ih =>
      rcases older with ⟨number, bound, rfl⟩
      apply (freshName_gives keeps).bind
      intro name state fresh
      rcases fresh with ⟨rfl, keeps⟩
      apply (declare_gives keeps rfl (Item.closed_link (Nat.ne_of_lt bound) quiet (keeps.mem bound)) rfl
        keeps.sound.withLink).bind
      intro _ state keeps
      have fresh : Older (tally.add .global 1) (globalName (tally .global : Nat)) :=
        ⟨tally .global, by simp, rfl⟩
      have rest := ih (stars + 1) fresh keeps
      rw [Tally.add_add, Nat.add_comm 1 count] at rest
      exact rest

theorem addChain_gives (settings : Settings) (quiet : ∀ type ∈ scalars, names type.name = [])
    (keeps : state.Keeps scalars tally 0) :
    (addChain settings).Gives state fun _ after =>
      ∃ count, after.Keeps scalars (tally.add .global count) 0 := by
  unfold addChain
  apply Step.ends_bind.mpr
  apply Step.ends_get.mpr
  dsimp only
  split
  · exact Step.ends_pure.mpr ⟨0, by simpa using keeps⟩
  · have bases : ∀ v ∈ state.env.pointers.filter (! ·.qualified),
        names v.targetType.name = [] ∧ Older tally v.name := by
      intro v member
      obtain ⟨type, own⟩ := keeps.sound.pointers v (List.mem_of_mem_filter member)
      exact ⟨quiet _ type, keeps.older own⟩
    apply keeps.idle (idle_choose _)
    intro base state keeps member
    apply keeps.idle (idle_below _)
    intro extra state keeps _
    apply (addLinks_gives (bases base member).1 _ _ (bases base member).2 keeps).mono
    exact fun _ _ keeps => ⟨_, keeps⟩

/-! ## Whole environments -/

/-- The action declares globals, if anything. -/
def Declaring (scalars : List CType) (tally : Tally) (action : Step Building Unit) : Prop :=
  ∀ (count : Nat) (state : Building), state.Keeps scalars (tally.add .global count) 0 →
    action.Gives state fun _ after => ∃ more, after.Keeps scalars (tally.add .global more) 0

section

variable {action next : Step Building Unit}

theorem Declaring.pure : Declaring scalars tally (pure ()) := fun count _ keeps => ⟨count, keeps⟩

theorem Declaring.bind (first : Declaring scalars tally action) (second : Declaring scalars tally next) :
    Declaring scalars tally (action >>= fun _ => next) := by
  intro count state keeps
  apply (first count state keeps).bind
  intro _ state made
  rcases made with ⟨more, keeps⟩
  exact second more state keeps

theorem Declaring.times (declaring : Declaring scalars tally action) (rounds : Nat) :
    Declaring scalars tally (times action rounds) := by
  induction rounds with
  | zero => exact .pure
  | succ rounds ih => exact declaring.bind ih

theorem Declaring.onlyIf (declaring : Declaring scalars tally action) (wanted : Bool) :
    Declaring scalars tally (onlyIf wanted action) := by
  cases wanted with
  | true => exact declaring
  | false => exact .pure

/-- One more global. -/
theorem Declaring.one (each : ∀ (tally : Tally) (state : Building), state.Keeps scalars tally 0 →
      action.Gives state fun _ after => after.Keeps scalars (tally.add .global 1) 0) :
    Declaring scalars tally action := by
  intro count state keeps
  apply (each _ state keeps).mono
  intro _ after keeps
  rw [Tally.add_add] at keeps
  exact ⟨count + 1, keeps⟩

end

theorem addScalars_declaring (settings : Settings) (quiet : ∀ type ∈ scalars, names type.name = []) :
    Declaring scalars tally (addScalars settings scalars) := by
  intro count state keeps
  apply keeps.idle (idle_below 18)
  intro wanted state keeps _
  have scalar : Declaring scalars tally (addScalar settings scalars) :=
    .one fun _ _ keeps => addScalar_gives settings quiet keeps
  exact scalar.times _ count state keeps

theorem addArrays_declaring (settings : Settings) (quiet : ∀ type ∈ scalars, names type.name = []) :
    Declaring scalars tally (addArrays settings scalars) := by
  intro count state keeps
  apply Step.ends_bind.mpr
  apply Step.ends_get.mpr
  have array : Declaring scalars tally (addArray settings scalars) :=
    .one fun _ _ keeps => addArray_gives settings quiet keeps
  exact array.times _ count state keeps

theorem addPointers_declaring (settings : Settings) (quiet : ∀ type ∈ scalars, names type.name = []) :
    Declaring scalars tally (addPointers settings) := by
  intro count state keeps
  apply Step.ends_bind.mpr
  apply Step.ends_get.mpr
  have sound : ∀ v ∈ state.env.globals, v.type ∈ scalars ∧ Older (tally.add .global count) v.name :=
    fun v member => ⟨(keeps.sound.globals v member).1, keeps.older (keeps.sound.globals v member).2⟩
  -- The targets stay declared while more globals follow.
  have pointer : Declaring scalars (tally.add .global count) (addPointer settings state.env.globals) := by
    intro more state keeps
    apply (addPointer_gives settings quiet (fun v member => ⟨(sound v member).1, (sound v member).2.later⟩)
      keeps).mono
    intro _ after keeps
    rw [Tally.add_add] at keeps
    exact ⟨more + 1, keeps⟩
  have none : state.Keeps scalars ((tally.add .global count).add .global 0) 0 := by simpa using keeps
  apply (pointer.times _ 0 state none).mono
  intro _ after made
  rcases made with ⟨more, keeps⟩
  rw [Tally.add_add] at keeps
  exact ⟨count + more, keeps⟩

theorem addChains_declaring (settings : Settings) (quiet : ∀ type ∈ scalars, names type.name = []) :
    Declaring scalars tally (addChains settings) := by
  intro count state keeps
  apply Step.ends_bind.mpr
  apply Step.ends_get.mpr
  have chain : Declaring scalars tally (addChain settings) := by
    intro count state keeps
    apply (addChain_gives settings quiet keeps).mono
    intro _ after made
    rcases made with ⟨more, keeps⟩
    rw [Tally.add_add] at keeps
    exact ⟨count + more, keeps⟩
  exact chain.times _ count state keeps

theorem addComposites_gives (kind : CompositeKind) (count index : Nat)
    (bound : index + count ≤ tally kind.nameKind) (keeps : state.Keeps scalars tally 0) :
    (addComposites kind count index).Gives state fun _ after => after.Keeps scalars tally 0 := by
  induction count generalizing index state with
  | zero => exact keeps
  | succ count ih =>
      have first : kind.nameKind.first = 0 := by cases kind <;> rfl
      have member : kind.nameKind.name index ∈ declaredOf kind.nameKind state.sheet.contents :=
        keeps.sheet.ledger.mem (by omega) (by omega)
      have written : { state with sheet := state.sheet.write 0 (.declare (.composite kind index)) }.Keeps
          scalars tally 0 := by
        refine ⟨keeps.sheet.write 0 ?_ fun _ => ite_self [], keeps.nextId, keeps.sound⟩
        apply Item.closed_composite
        rw [compositeName_eq]
        exact member
      apply Step.ends_bind.mpr
      apply Step.ends_modify.mpr
      exact ih (index + 1) (by omega) written

theorem addVariables_declaring (settings : Settings) (quiet : ∀ type ∈ scalars, names type.name = []) :
    Declaring scalars tally (addVariables settings scalars) := by
  apply (addScalars_declaring settings quiet).bind
  apply ((addArrays_declaring settings quiet).onlyIf _).bind
  apply Declaring.onlyIf
  exact (addPointers_declaring settings quiet).bind (addChains_declaring settings quiet)

/-- The environment is built where the composite types are on the sheet and nothing else is. -/
theorem build_gives {settings : Settings} {layouts : Layouts}
    (quiet : ∀ type ∈ scalars, names type.name = [])
    (structs : tally .struct = layouts.structs.length) (unions : tally .union = layouts.unions.length)
    (keeps : state.Keeps scalars tally 0) :
    (build settings scalars layouts).Gives state fun _ after =>
      ∃ count, after.Keeps scalars (tally.add .global count) 0 := by
  have titled : { state with sheet := state.sheet.write 0 (.heading "GLOBAL VARIABLES") }.Keeps scalars
      (tally.add .global 0) 0 := by
    refine ⟨?_, by simpa using keeps.nextId, keeps.sound⟩
    rw [Tally.add_zero]
    exact keeps.sheet.write 0 (Item.closed_of_quiet (by decide)) fun _ => rfl
  apply Step.ends_bind.mpr
  apply Step.ends_modify.mpr
  have declaring : Declaring scalars tally (addVariables settings scalars) :=
    addVariables_declaring settings quiet
  apply (declaring.onlyIf _ 0 _ titled).bind
  intro _ state made
  rcases made with ⟨count, keeps⟩
  apply (addComposites_gives .struct _ 0 (by simp [CompositeKind.nameKind, structs]) keeps).bind
  intro _ state keeps
  apply (addComposites_gives .union _ 0 (by simp [CompositeKind.nameKind, unions]) keeps).bind
  intro _ state keeps
  apply Step.ends_modify.mpr
  exact ⟨count, keeps.sheet.blankLine, keeps.nextId, keeps.sound⟩

end RandomC.Environment
