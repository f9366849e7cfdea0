import RandomC.Proofs.BlindBody
import RandomC.Proofs.LastResort
import RandomC.Proofs.Readings

/-!
# On the way to the end of a run

Whatever is taken back in a run, the moments that are remembered and the readings from the source are only
added to.  A run that ends in some state has therefore come through earlier ones just as they were recorded.
What a step makes on the way to the end may be described by such earlier states, and the description stays
true in whatever expression, block or body it ends up.
-/

namespace RandomC

/-! ## Earlier states -/

namespace World

/-- All that was recorded up to the first state is a part of what is recorded in the second one, where
nothing but draws has happened to the source since. -/
structure Precedes (before after : World) : Prop where
  history : before.history <:+ after.history
  stream : (Drawing.stream before).Continues (Drawing.stream after)

/-- Every definition that was stored so far, also by an attempt that was taken back, has the property. -/
def Stores (sound : Definition → Prop) (world : World) : Prop :=
  ∀ index definition, .defined index definition ∈ world.history → sound definition

variable {world before after last : World} {sound : Definition → Prop} {moment : Moment}

theorem Precedes.refl (world : World) : world.Precedes world := ⟨List.suffix_rfl, .refl _⟩

theorem Precedes.trans (early : before.Precedes after) (late : after.Precedes last) : before.Precedes last :=
  ⟨early.history.trans late.history, early.stream.trans late.stream⟩

theorem precedes_remembering (moment : Moment) (world : World) : world.Precedes (world.remembering moment) :=
  ⟨List.suffix_cons _ _, .refl _⟩

theorem precedes_returning (setup : Setup) (start now : World) : now.Precedes (start.returning setup now) :=
  ⟨List.suffix_cons _ _, .refl _⟩

theorem Stores.of_history (stores : before.Stores sound) (history : after.history = before.history) :
    after.Stores sound :=
  fun index definition member => stores index definition (history ▸ member)

theorem Stores.remembering (stores : world.Stores sound)
    (allowed : ∀ index definition, moment = .defined index definition → sound definition) :
    (world.remembering moment).Stores sound := by
  intro index definition member
  rcases List.mem_cons.mp member with same | earlier
  · exact allowed index definition same.symm
  · exact stores index definition earlier

theorem Stores.returning {start : World} (stores : world.Stores sound) (setup : Setup) :
    (start.returning setup world).Stores sound :=
  Stores.remembering (stores.of_history rfl) nofun

end World

/-! ## Steps -/

/-- The step draws, and does nothing that the history notes. -/
structure Unnoted {α : Type} (step : Gen α) : Prop where
  blind : Blind step
  history : ∀ world, (step world).2.history = world.history

/-- However the step ends, it leads to a later state.  If the run goes on from there to `final`, the value
satisfies the postcondition, and the definitions that are stored by then have the property. -/
def Toward {α : Type} (final : World) (sound : Definition → Prop) (step : Gen α) (post : α → Prop) : Prop :=
  ∀ world, world.Precedes (step world).2 ∧
    ((step world).2.Precedes final → world.Stores sound →
      (step world).2.Stores sound ∧ ∀ value, (step world).1 = .ok value → post value)

section

variable {α β : Type} {step : Gen α} {final : World} {sound : Definition → Prop} {post : α → Prop}

theorem Aside.unnoted (aside : Aside step) (blind : Blind step) : Unnoted step where
  blind := blind
  history world := ((aside world).mono (fun _ _ passed => passed.history) fun _ passed => passed.history).reached

theorem Idle.unnoted (idle : Idle step post) (blind : Blind step) : Unnoted step := idle.aside.unnoted blind

theorem Unnoted.precedes (unnoted : Unnoted step) (world : World) : world.Precedes (step world).2 :=
  ⟨unnoted.history world ▸ List.suffix_rfl, unnoted.blind.continues world⟩

namespace Toward

theorem pure {value : α} (holds : post value) : Toward final sound (pure value) post := by
  refine fun world => ⟨.refl world, fun _ stores => ⟨stores, ?_⟩⟩
  rintro _ ⟨⟩
  exact holds

theorem mono {weaker : α → Prop} (toward : Toward final sound step post)
    (weaken : ∀ value, post value → weaker value) : Toward final sound step weaker := by
  refine fun world => ⟨(toward world).1, fun precedes stores => ?_⟩
  obtain ⟨stored, holds⟩ := (toward world).2 precedes stores
  exact ⟨stored, fun value made => weaken value (holds value made)⟩

/-- What the first step makes is described only if the run goes on to the end after both of them, so it is a
hypothesis of what is said of the second one. -/
theorem bind {next : α → Gen β} {other : β → Prop} (first : Toward final sound step post)
    (second : ∀ value, Toward final sound (next value) fun made => post value → other made) :
    Toward final sound (step >>= next) other := by
  intro world
  have begun := first world
  rw [Step.bind_apply]
  revert begun
  rcases step world with ⟨failure | value, middle⟩
  · intro begun
    exact ⟨begun.1, fun precedes stores => ⟨(begun.2 precedes stores).1, nofun⟩⟩
  · intro begun
    have ended := second value middle
    refine ⟨begun.1.trans ended.1, fun precedes stores => ?_⟩
    obtain ⟨stored, holds⟩ := begun.2 (ended.1.trans precedes) stores
    obtain ⟨stored, makes⟩ := ended.2 precedes stored
    exact ⟨stored, fun made is => makes made is (holds value rfl)⟩

/-- A sequence that begins with a step of whose value nothing is needed. -/
theorem after {next : α → Gen β} {other : β → Prop} (first : Toward final sound step post)
    (second : ∀ value, Toward final sound (next value) other) : Toward final sound (step >>= next) other :=
  first.bind fun value => (second value).mono fun _ holds _ => holds

theorem get {next : World → Gen α} (each : ∀ world, Toward final sound (next world) post) :
    Toward final sound (get >>= next) post := by
  intro world
  rw [Step.bind_apply, Step.get_apply]
  exact each world world

theorem map {image : α → β} {other : β → Prop} (toward : Toward final sound step fun value => other (image value)) :
    Toward final sound (image <$> step) other := by
  rw [map_eq_pure_bind]
  exact toward.bind fun _ => .pure id

theorem mapM {list : List α} {make : α → Gen β} {each : β → Prop}
    (toward : ∀ element, Toward final sound (make element) each) :
    Toward final sound (list.mapM make) fun values => ∀ value ∈ values, each value := by
  induction list with
  | nil => exact .pure (List.forall_mem_nil _)
  | cons element rest ih =>
      rw [List.mapM_cons]
      apply (toward element).bind
      intro value
      apply ih.bind
      intro values
      exact .pure fun others holds => List.forall_mem_cons.mpr ⟨holds, others⟩

theorem unnoted (unnoted : Unnoted step) : Toward final sound step fun _ => True := by
  refine fun world => ⟨unnoted.precedes world, fun _ stores => ?_⟩
  exact ⟨stores.of_history (unnoted.history world), fun _ _ => trivial⟩

theorem aside (aside : Aside step) (blind : Blind step) : Toward final sound step fun _ => True :=
  unnoted (aside.unnoted blind)

theorem idle (idle : Idle step post) (blind : Blind step) : Toward final sound step post := by
  have unnoted := idle.unnoted blind
  refine fun world => ⟨unnoted.precedes world, fun _ stores => ?_⟩
  exact ⟨stores.of_history (unnoted.history world), fun value made => ((idle world).of_ok made).2⟩

/-- What is known of the step from elsewhere, where the run goes on from it. -/
theorem also {other : α → Prop} (toward : Toward final sound step post)
    (known : ∀ world value last, step world = (.ok value, last) → last.Precedes final → other value) :
    Toward final sound step fun value => post value ∧ other value := by
  refine fun world => ⟨(toward world).1, fun precedes stores => ?_⟩
  obtain ⟨stored, holds⟩ := (toward world).2 precedes stores
  exact ⟨stored, fun value made => ⟨holds value made, known world value _ (Prod.ext made rfl) precedes⟩⟩

/-! ### The state -/

theorem remember {moment : Moment}
    (allowed : ∀ index definition, moment = .defined index definition → sound definition) :
    Toward final sound (Gen.remember moment) fun _ => True := by
  refine fun world => ⟨world.precedes_remembering moment, fun _ stores => ?_⟩
  exact ⟨stores.remembering allowed, fun _ _ => trivial⟩

/-- A definition that is stored has the property when it was made with it. -/
theorem storing {step : Gen Definition} {next : Definition → Gen β} {other : β → Prop} (index : Int)
    (makes : Toward final sound step sound) (rest : ∀ definition, Toward final sound (next definition) other) :
    Toward final sound (do
      let definition ← step
      Gen.remember (.defined index definition)
      next definition) other := by
  intro world
  have begun := makes world
  rw [Step.bind_apply]
  revert begun
  rcases step world with ⟨failure | definition, middle⟩
  · intro begun
    exact ⟨begun.1, fun precedes stores => ⟨(begun.2 precedes stores).1, nofun⟩⟩
  · intro begun
    have stored := middle.precedes_remembering (.defined index definition)
    have ended := rest definition (middle.remembering (.defined index definition))
    refine ⟨begun.1.trans (stored.trans ended.1), fun precedes stores => ended.2 precedes ?_⟩
    obtain ⟨stores, holds⟩ := begun.2 (stored.trans (ended.1.trans precedes)) stores
    apply stores.remembering
    rintro _ _ ⟨⟩
    exact holds definition rfl

theorem changeFlow (change : Flow → Flow) : Toward final sound (Gen.changeFlow change) fun _ => True :=
  unnoted ⟨Gen.blind_changeFlow change, fun _ => rfl⟩

theorem report (event : Event) : Toward final sound (Gen.report event) fun _ => True :=
  idle (idle_report event) (Gen.blind_report event)

theorem attemptOr {setup : Setup} {attempt : Gen (Option α)} {again : Gen α}
    (first : Toward final sound attempt (IfSome post)) (second : Toward final sound again post) :
    Toward final sound (Gen.attemptOr setup attempt again) post := by
  intro world
  have saved := world.precedes_remembering (.saved world.checkpoint)
  have begun := first (world.remembering (.saved world.checkpoint))
  have stored (stores : world.Stores sound) : (world.remembering (.saved world.checkpoint)).Stores sound :=
    stores.remembering nofun
  rw [Gen.attemptOr_apply]
  revert begun
  rcases attempt (world.remembering (.saved world.checkpoint)) with ⟨failure | (_ | made), reached⟩
  · intro begun
    exact ⟨saved.trans begun.1, fun precedes stores => ⟨(begun.2 precedes (stored stores)).1, nofun⟩⟩
  · intro begun
    have returned := World.precedes_returning setup world reached
    have ended := second (world.returning setup reached)
    refine ⟨saved.trans (begun.1.trans (returned.trans ended.1)), fun precedes stores => ?_⟩
    have tried := begun.2 (returned.trans (ended.1.trans precedes)) (stored stores)
    exact ended.2 precedes (tried.1.returning setup)
  · intro begun
    refine ⟨saved.trans begun.1, fun precedes stores => ?_⟩
    obtain ⟨kept, holds⟩ := begun.2 precedes (stored stores)
    refine ⟨kept, ?_⟩
    rintro _ ⟨⟩
    exact holds _ rfl made rfl

theorem spanning (toward : Toward final sound step post) : Toward final sound (Gen.spanning step) post :=
  get fun _ => toward.bind fun _ => get fun _ => (remember nofun).after fun _ => .pure id

/-- Parts of the state that are put back leave what was recorded as it is. -/
theorem framed {enter : World → World} {leave : World → World → World} (toward : Toward final sound step post)
    (entering : ∀ world, (enter world).history = world.history ∧
      Drawing.stream (enter world) = Drawing.stream world)
    (leaving : ∀ world last, (leave world last).history = last.history ∧
      Drawing.stream (leave world last) = Drawing.stream last) :
    Toward final sound
      (fun world => ((step (enter world)).1, leave world (step (enter world)).2) : Gen α) post := by
  intro world
  obtain ⟨history, stream⟩ := entering world
  obtain ⟨sameHistory, sameStream⟩ := leaving world (step (enter world)).2
  have begun := (toward (enter world)).1
  refine ⟨⟨?_, ?_⟩, fun precedes stores => ?_⟩
  · exact sameHistory ▸ history ▸ begun.history
  · exact sameStream ▸ stream ▸ begun.stream
  · have precedes : (step (enter world)).2.Precedes final :=
      ⟨sameHistory ▸ precedes.history, sameStream ▸ precedes.stream⟩
    obtain ⟨stored, holds⟩ := (toward (enter world)).2 precedes (stores.of_history history)
    exact ⟨stored.of_history sameHistory, holds⟩

theorem inContext {context : Context} (toward : Toward final sound step post) :
    Toward final sound (Gen.inContext context step) post :=
  @framed α step final sound post (fun world => { world with context })
    (fun before last => { last with context := before.context }) toward (fun _ => ⟨rfl, rfl⟩) fun _ _ => ⟨rfl, rfl⟩

theorem withTerms (settings : Settings) (toward : Toward final sound step post) :
    Toward final sound (withTerms settings step) post := by
  have entering (world : World) : (world.openTerms settings).2.history = world.history ∧
      Drawing.stream (world.openTerms settings).2 = Drawing.stream world := by
    unfold World.openTerms
    split <;> exact ⟨rfl, rfl⟩
  have leaving (saved : Option Int) (last : World) : (last.closeTerms saved).history = last.history ∧
      Drawing.stream (last.closeTerms saved) = Drawing.stream last := by
    cases saved <;> exact ⟨rfl, rfl⟩
  exact @framed α step final sound post (fun world => (world.openTerms settings).2)
    (fun before last => last.closeTerms (before.openTerms settings).1) toward entering fun _ => leaving _

end Toward

end

end RandomC
