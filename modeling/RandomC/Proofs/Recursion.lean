import RandomC.Proofs.Agreement
import RandomC.Proofs.BodyShape

/-!
# The recursion of generation

Generation recurs in three ways: expressions contain expressions, blocks contain blocks, and the body of a
function makes functions, whose bodies are built before it goes on.  The first two end since the depth is
limited.  Bodies are built by a recursion on the number of functions that may still be created.  This number
is no limit of its own: wherever the last function waits for its body, building the body gives the same
result as a recursion without such a number, which is entered only where there are more functions than when
the enclosing body was begun.  What goes back to a snapshot inside a body keeps the functions that were there
when it was begun.
-/

namespace RandomC

variable {setup : Setup} {build other : Option (Int → Gen Unit)} {world : World} {index : Nat}

/-! ## Expressions and blocks -/

namespace Site

/-- Expressions are made inside a term one level deeper, as long as there is such a level. -/
theorem inner_eq (site : Site) (depth : Int) :
    site.inner depth = fun request => site.budgeted depth request (Gen.spanning (site.oneTerm
      (if depth + 1 < maxLevels site.settings then some (site.inner (depth + 1)) else none) depth
      request)) := by
  unfold inner
  split
  · rename_i deeper
    have levels : levelsBelow site.settings depth = levelsBelow site.settings (depth + 1) + 1 := by
      simp only [levelsBelow]
      omega
    rw [levels]
    rfl
  · have levels : levelsBelow site.settings depth = 0 := by
      simp only [levelsBelow]
      omega
    rw [levels]
    rfl

/-- Blocks are made inside a block one level deeper, as long as there is such a level. -/
theorem block_eq (site : Site) (depth : Int) (inLoop : Bool) :
    site.block depth inLoop = Gen.spanning (site.blockOf
      (if depth < maxDepth site.settings then some (site.block (depth + 1)) else none) depth inLoop) := by
  unfold block
  split
  · rename_i deeper
    have levels : blocksBelow site.settings depth = blocksBelow site.settings (depth + 1) + 1 := by
      simp only [blocksBelow]
      omega
    rw [levels]
    rfl
  · have levels : blocksBelow site.settings depth = 0 := by
      simp only [blocksBelow]
      omega
    rw [levels]
    rfl

end Site

/-! ## Ways to build bodies -/

/-- The way to build bodies, if there is one, does what `buildBody` does wherever a function from `least` on
waits for its body.  There is one unless no more functions can be created. -/
structure Serves (setup : Setup) (least : Nat) (build : Option (Int → Gen Unit)) : Prop where
  alike : ∀ make, build = some make → ∀ (index : Nat) (world : World), least ≤ index →
    world.Awaits setup index → (buildBody setup index).Agrees (make index) world
  full : build = none → maxFunctions setup.settings ≤ least

/-- Where there may be no more functions, none is created. -/
theorem createFunction_of_full {type : CType}
    (full : maxFunctions setup.settings ≤ world.flow.functions.length) :
    createFunction setup (some type) world = (.ok none, world) := by
  rw [createFunction, Step.bind_apply, Step.get_apply]
  dsimp only
  rw [if_pos full]
  rfl

theorem Step.Agrees.common {σ α : Type} {step first second : Step σ α} {state : σ}
    (former : step.Agrees first state) (latter : step.Agrees second state) :
    first.Agrees second state where
  safe := by
    rw [Step.Safe, former.same]
    exact former.safe
  same := latter.same.trans former.same.symm

/-- Creating a function and building its body does what it does where the body is built by `buildBody`. -/
theorem createCallee_serves {site : Site} {caller : Nat} {type : CType} (inhabited : site.setup.scalars ≠ [])
    (serves : Serves site.setup (caller + 1) build) (bound : caller < world.flow.functions.length)
    (good : world.Good site.setup) (known : site.setup.Knows type) :
    ((site.withBuild (some (buildBody site.setup))).createCallee type).Agrees
      ((site.withBuild build).createCallee type) world := by
  have secure := secure_createFunction inhabited type world
  cases build with
  | none =>
      have full : maxFunctions site.setup.settings ≤ world.flow.functions.length := by
        have full := serves.full rfl
        omega
      have nothing : (site.withBuild (some (buildBody site.setup))).createCallee type world =
          (.ok none, world) := by
        simp only [Site.createCallee, Site.withBuild, Step.bind_apply, createFunction_of_full full,
          Step.pure_apply]
      constructor
      · intro failure failed
        rw [nothing] at failed
        cases failed
      · exact nothing.symm
  | some make =>
      apply secure.agrees.ends (createFunction_ends good known)
      rintro created start ⟨-, adds⟩
      cases created with
      | none => exact (Secure.pure start).agrees
      | some index =>
          have adds := adds index rfl
          have later : caller + 1 ≤ index := adds.position ▸ bound
          apply (serves.alike make rfl index start later adds.awaits).bind
          exact fun _ after _ => (Secure.pure after).agrees

/-- Two ways to build bodies that serve the functions after the caller make no difference. -/
theorem Serves.creates {site : Site} {caller : Nat} (inhabited : site.setup.scalars ≠ [])
    (first : Serves site.setup (caller + 1) site.build) (second : Serves site.setup (caller + 1) other) :
    site.CreatesAlike caller other := by
  intro type known world fits good
  have mine := createCallee_serves inhabited first fits.bound good known
  exact mine.common (createCallee_serves inhabited second fits.bound good known)

/-! ## Bodies -/

/-- What is done in the context of a function does not depend on how the bodies inside it are built. -/
theorem body_alike {site : Site} {caller : Nat} (creates : site.CreatesAlike caller other)
    (signature : Signature) (returnLocal : String) :
    site.Alike caller (site.definition signature returnLocal)
      ((site.withBuild other).definition signature returnLocal) := by
  have block : site.Leads caller (site.block 0 false) fun _ => True :=
    .of_keeps fun world fits good => Site.block_makes 0 false world fits good
  have mix : site.Leads caller site.mix fun _ => True :=
    .of_keeps fun world fits good => mix_keeps fits good
  apply (Site.blockWithin_alike creates _ 0 false).bind block
  intro body _
  apply (Site.mix_alike creates).bind mix
  intro mix _
  exact .of_secure ((secure_report _).bind fun _ => .pure)

theorem buildDefinition_agrees (inhabited : setup.scalars ≠ [])
    (builds : ∀ make, build = some make → Builds setup make) (first : Serves setup (index + 1) build)
    (second : Serves setup (index + 1) other) (awaits : world.Awaits setup index) :
    (buildDefinition setup build index).Agrees (buildDefinition setup other index) world := by
  have bound := awaits.bound
  have found := List.getElem?_eq_getElem bound
  generalize world.flow.functions[index] = signature at found
  apply Step.Agrees.given (functionAt_apply found)
  have creates : (Site.ofBody setup build signature world).CreatesAlike index other :=
    first.creates inhabited second
  have body := body_alike creates signature (localName world.flow.nextLocal) (world.enter index)
    (awaits.fits found builds) awaits.enter
  -- Before the context of the function is entered, only its return local is numbered.
  have inside := @Step.Agrees.inContext Definition _ _
    { world.enter index with context := world.context } (.of index) body
  exact ⟨inside.safe, inside.same⟩

theorem define_safe {definition : Definition} (defined : index < world.flow.definitions.length)
    (built : index < world.flow.built.length) : (define index definition).Safe world := by
  have defines : (define index definition).Succeeds world fun _ _ => True :=
    define_ends defined built trivial
  exact defines.safe

/-- The body of a function that waits for it is built safely, and alike by any two ways to build the bodies
of later functions. -/
theorem ensureBuilt_agrees (inhabited : setup.scalars ≠ [])
    (builds : ∀ make, build = some make → Builds setup make) (first : Serves setup (index + 1) build)
    (second : Serves setup (index + 1) other) (awaits : world.Awaits setup index) :
    (ensureBuilt setup build index).Agrees (ensureBuilt setup other index) world := by
  apply Step.Agrees.given (builtAt_apply awaits.unbuilt)
  simp only [Bool.false_eq_true, if_false]
  have defines : (Gen.spanning (buildDefinition setup build index)).Ends world
      (fun _ after => index < after.flow.definitions.length ∧ index < after.flow.built.length)
      fun _ => True := by
    simp only [Gen.spanning, Gen.remember, Step.ends_bind, Step.ends_get]
    apply (buildDefinition_ends builds awaits).mono
    · intro definition after defines
      have bound : index < after.flow.functions.length :=
        Nat.lt_of_lt_of_le awaits.bound defines.flow.functions.length_le
      exact ⟨defines.good.aligned.definitions_length ▸ bound, defines.good.aligned.built_length ▸ bound⟩
    · exact fun _ _ => trivial
  apply (buildDefinition_agrees inhabited builds first second awaits).spanning.ends defines
  rintro definition after ⟨defined, built⟩
  let now : World := after.remembering (.defined index definition)
  have remembers : Gen.remember (.defined index definition) after = (.ok (), now) := rfl
  have defines : (define index definition).Safe now := define_safe defined built
  exact Step.Agrees.given remembers defines.agrees

/-! ## All bodies -/

theorem buildBody_eq (awaits : world.Awaits setup index) :
    buildBody setup index world =
      ensureBuilt setup (bodies setup (maxFunctions setup.settings - (index + 1 : Nat)).toNat) index
        world := by
  have limit : nextBodies setup world.flow =
      bodies setup (maxFunctions setup.settings - (index + 1 : Nat)).toNat := by
    rw [nextBodies, awaits.last]
  rw [buildBody, Step.bind_apply, Step.get_apply]
  dsimp only
  rw [limit]

/-- Building the body of a function that waits for it does not depend on how the bodies of later functions are
built, given that `buildBody` can go as deep as there may be more functions. -/
theorem buildBody_agrees_of (inhabited : setup.scalars ≠ [])
    (needed : Serves setup (index + 1) (bodies setup (maxFunctions setup.settings - (index + 1 : Nat)).toNat))
    (serves : Serves setup (index + 1) build) (awaits : world.Awaits setup index) :
    (buildBody setup index).Agrees (ensureBuilt setup build index) world :=
  have agrees := ensureBuilt_agrees inhabited (bodies_builds _) needed serves awaits
  Step.Agrees.common ⟨agrees.safe, buildBody_eq awaits⟩ agrees

/-- As many levels of recursion as there may be more functions are enough.  Induction on this number: a
function that is created inside a body leaves room for fewer. -/
theorem bodies_serves (inhabited : setup.scalars ≠ []) (free least : Nat)
    (enough : (maxFunctions setup.settings - least).toNat ≤ free) : Serves setup least (bodies setup free) := by
  induction free using Nat.strong_induction_on generalizing least with
  | _ free ih =>
      cases free with
      | zero => exact ⟨nofun, fun _ => by omega⟩
      | succ free =>
          refine ⟨?_, nofun⟩
          rintro _ ⟨⟩ index world above awaits
          have fewer : (maxFunctions setup.settings - (index + 1 : Nat)).toNat ≤ free := by omega
          have needed := ih _ (Nat.lt_succ_of_le fewer) (index + 1) (Nat.le_refl _)
          exact buildBody_agrees_of inhabited needed (ih free (Nat.lt_succ_self free) (index + 1) fewer) awaits

/-- Building the body of a function that waits for it is safe. -/
theorem buildBody_safe (inhabited : setup.scalars ≠ []) (awaits : world.Awaits setup index) :
    (buildBody setup index).Safe world :=
  have needed := bodies_serves inhabited _ (index + 1) (Nat.le_refl _)
  (buildBody_agrees_of inhabited needed needed awaits).safe

/-- Bodies are built as `buildBody` builds them, where a function was just created and there are more functions
than in the given state. -/
def BuildsLater (setup : Setup) (world : World) (make : Int → Gen Unit) : Prop :=
  ∀ (later : Nat) (now : World), world.flow.functions.length < now.flow.functions.length →
    now.Awaits setup later → make later now = buildBody setup later now

/-- Inside a body, other bodies are built only where there are more functions than at the start of this body. -/
theorem ensureBuilt_eq_buildBody {make : Int → Gen Unit} (inhabited : setup.scalars ≠ [])
    (awaits : world.Awaits setup index) (builds : BuildsLater setup world make) :
    ensureBuilt setup (some make) index world = buildBody setup index world := by
  have serves : Serves setup (index + 1) (some make) := by
    refine ⟨?_, nofun⟩
    rintro _ ⟨⟩ later now above waits
    have more : world.flow.functions.length < now.flow.functions.length := by
      rw [awaits.last, waits.last]
      omega
    exact ⟨buildBody_safe inhabited waits, builds later now more waits⟩
  have needed := bodies_serves inhabited _ (index + 1) (Nat.le_refl _)
  exact (buildBody_agrees_of inhabited needed serves awaits).same

/-! ## What happens inside a body -/

/-- The moment is one at which there are at least so many functions, or the body of a later one was begun. -/
def Moment.Above (floor : Nat) : Moment → Prop
  | .created index _ => floor ≤ index + 1
  | .entered index _ => (floor : Int) ≤ index
  | .defined index _ => (floor : Int) ≤ index + 1
  | .expressed _ => True
  | .called _ now | .saved now => floor ≤ now.flow.functions.length
  | .begun start now | .restored start now | .completed start now =>
    floor ≤ start.flow.functions.length ∧ floor ≤ now.flow.functions.length

/-- Since the given moments there were always at least so many functions. -/
structure World.Since (floor : Nat) (before : List Moment) (world : World) : Prop where
  functions : floor ≤ world.flow.functions.length
  nested : ∃ nested, world.history = nested ++ before ∧ ∀ moment ∈ nested, moment.Above floor

theorem World.Since.remember {floor : Nat} {before : List Moment} {moment : Moment}
    (since : world.Since floor before) (above : moment.Above floor) :
    (world.remembering moment).Since floor before where
  functions := since.functions
  nested := by
    obtain ⟨nested, history, all⟩ := since.nested
    exact ⟨moment :: nested, congrArg (moment :: ·) history, List.forall_mem_cons.mpr ⟨above, all⟩⟩

theorem World.Since.creates {floor : Nat} {before : List Moment} {signature : Signature} {after : World}
    (since : world.Since floor before) (creates : world.Creates setup signature after) :
    after.Since floor before := by
  have longer := since.functions
  constructor
  · rw [creates.functions_length]
    omega
  · obtain ⟨nested, history, all⟩ := since.nested
    rcases creates.history with remembered | ⟨-, start, same⟩
    · have above : Moment.Above floor (.created world.flow.functions.length signature) :=
        Nat.le_succ_of_le longer
      exact ⟨_, remembered.trans (congrArg (_ :: ·) history), List.forall_mem_cons.mpr ⟨above, all⟩⟩
    · exact ⟨nested, (same.trans start.symm).trans history, all⟩

/-- Functions are only taken back as far as to where a snapshot was taken. -/
theorem invariant_since (setup : Setup) (shaped : Definition → Prop) (floor : Nat) (before : List Moment) :
    Invariant setup shaped (World.Since floor before) where
  resembling since resembles :=
    ⟨resembles.functions ▸ since.functions, resembles.history ▸ since.nested⟩
  calling _ since := since.remember since.functions
  expressing _ since := since.remember trivial
  saving since := since.remember since.functions
  completing start since := since.remember ⟨start.functions, since.functions⟩
  returning := by
    intro start now after since later returns
    have functions : floor ≤ after.flow.functions.length := returns.functions ▸ since.functions
    have above : Moment.Above floor (.restored start.checkpoint after.checkpoint) :=
      ⟨since.functions, functions⟩
    obtain ⟨nested, history, all⟩ := later.nested
    exact ⟨functions, _, returns.history.trans (congrArg (_ :: ·) history),
      List.forall_mem_cons.mpr ⟨above, all⟩⟩
  beginning := by
    intro world since _
    have above : Moment.Above floor (.begun world.checkpoint world.beginning.checkpoint) :=
      ⟨since.functions, since.functions⟩
    have begun := since.remember above
    exact ⟨begun.functions, begun.nested⟩
  filling since _ := since.remember ⟨since.functions, since.functions⟩
  entering _ since creates := (since.creates creates).remember (Int.ofNat_le.mpr since.functions)
  defining := by
    intro signature start created last definition since creates later _
    have completed : Moment.Above floor (.completed created.checkpoint last.checkpoint) :=
      ⟨(since.creates creates).functions, later.functions⟩
    have defined : Moment.Above floor (.defined start.flow.functions.length definition) :=
      Int.ofNat_le.mpr (Nat.le_succ_of_le since.functions)
    have since := (later.remember completed).remember defined
    exact ⟨since.functions, since.nested⟩

/-- Inside a body, the bodies of later functions only are begun, and no function is taken back that was there
when the body was begun. -/
theorem buildBody_since (awaits : world.Awaits setup index) :
    (buildBody setup index).Ends world
      (fun _ => World.Since (index + 1) (.entered index (localName index) :: world.history))
      (World.Since (index + 1) (.entered index (localName index) :: world.history)) := by
  have invariant := invariant_since setup (Definition.Shaped setup False) (index + 1)
    (.entered index (localName index) :: world.history)
  apply Step.ends_bind.mpr
  apply Step.ends_get.mpr
  apply Step.ends_bind.mpr
  apply builtAt_ends awaits.unbuilt
  have bound := awaits.bound
  have found := List.getElem?_eq_getElem bound
  generalize world.flow.functions[index] = signature at found
  have upheld := bodies_upholds invariant.building (invariant.expressive.regime.expresses setup)
    (fun _ _ => False.elim) (maxFunctions setup.settings - world.flow.functions.length).toNat
  simp only [Bool.false_eq_true, if_false, Gen.spanning, Gen.remember, bind_assoc, pure_bind, Step.ends_bind,
    Step.ends_get, Step.ends_modify, buildDefinition]
  apply functionAt_ends found
  simp only [Gen.freshLocal, Gen.changeFlow, Step.ends_bind, Step.ends_get, Step.ends_modify, Step.ends_pure]
  let site : Site := .ofBody setup (nextBodies setup world.flow) signature world
  have expresses : site.Expresses invariant.policy.regime := invariant.expressive.regime.expresses setup site rfl upheld
  have many : index + 1 ≤ world.flow.functions.length := Nat.le_of_eq awaits.last.symm
  have history : (world.enter index).history = .entered index (localName index) :: world.history := by
    rw [World.enter, awaits.nextLocal]
  have start : invariant.policy.regime.inv { world.enter index with context := world.context } :=
    ⟨⟨many, [], history, List.forall_mem_nil _⟩, awaits.aligned.built_length,
      awaits.aligned.definitions_length⟩
  have made (start : World) (governs : invariant.policy.regime.inv start) :=
    Site.definition_spends invariant.building.begins (fun _ _ => False.elim) expresses signature
      (localName world.flow.nextLocal) governs
  apply Step.Ends.mono (Regime.Spends.inContext start made)
  · rintro definition after ⟨_, leads, -, -⟩
    have governs : invariant.policy.Governs after := leads.kept
    have since : after.Since (index + 1) _ := governs.kept
    have completed := since.remember
      (show Moment.Above (index + 1) (.completed world.checkpoint after.checkpoint) from ⟨many, since.functions⟩)
    have defined := completed.remember
      (show Moment.Above (index + 1) (.defined index definition) from Int.le_refl _)
    have bound : index < after.flow.functions.length := since.functions
    apply define_ends
    · exact governs.paired.definitions ▸ bound
    · exact governs.paired.built ▸ bound
    · exact ⟨defined.functions, defined.nested⟩
  · exact fun _ since => since

end RandomC
