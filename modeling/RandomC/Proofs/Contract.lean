import RandomC.Proofs.Formed
import RandomC.Proofs.Idle

/-!
# Contracts of generation steps

A generation step starts from a sound state and, unless it fails, ends in one that is sound and related to
the first.  `Keeps` is this contract.  It composes along sequences of steps, since the relations in
question are transitive; a failure has only to leave a sound history, because nothing is taken back after
it.  A history is sound when every moment in it fits those before.  Steps that change neither the shared
state nor the context, such as draws, are `Idle`.
-/

namespace RandomC

/-! ## Relations between states -/

/-- Flow, context and history are unchanged. -/
structure World.Still (before after : World) : Prop where
  flow : after.flow = before.flow
  context : after.context = before.context
  history : after.history = before.history

theorem World.Still.refl (world : World) : world.Still world := ⟨rfl, rfl, rfl⟩

theorem World.Still.trans {first middle last : World} (earlier : first.Still middle)
    (later : middle.Still last) : first.Still last where
  flow := later.flow.trans earlier.flow
  context := later.context.trans earlier.context
  history := later.history.trans earlier.history

/-- The number of terms that may still be used is unchanged as well. -/
structure World.Rests (before after : World) : Prop extends before.Still after where
  remaining : after.remaining = before.remaining

theorem World.Rests.trans {first middle last : World} (earlier : first.Rests middle)
    (later : middle.Rests last) : first.Rests last :=
  ⟨earlier.toStill.trans later.toStill, later.remaining.trans earlier.remaining⟩

instance : Resting World where
  Still := World.Rests
  refl world := ⟨.refl world, rfl⟩
  trans := .trans
  withStream _ _ := ⟨⟨rfl, rfl, rfl⟩, rfl⟩

/-- The state was extended within the body of one function: the functions that were added are complete.
Only the place that was changed last may be another one. -/
structure World.Proceeds (before after : World) : Prop where
  flow : before.flow.Extends after.flow
  complete : ∀ index, before.flow.built.length ≤ index → after.flow.built[index]? ≠ some false
  caller : after.context.caller = before.context.caller
  locals : after.context.locals = before.context.locals
  history : before.history <:+ after.history

/-- The state was extended, and the context is unchanged. -/
structure World.Grows (before after : World) : Prop extends before.Proceeds after where
  context : after.context = before.context

/-- A relation that allows states to grow, step by step, and no more than to proceed. -/
class Progress (relation : World → World → Prop) : Prop where
  of_grows {before after : World} : before.Grows after → relation before after
  proceeds {before after : World} : relation before after → before.Proceeds after
  trans {first middle last : World} : relation first middle → relation middle last → relation first last

theorem World.Proceeds.of_still {before after : World} (still : before.Still after) :
    before.Proceeds after where
  flow := still.flow ▸ .refl _
  complete index bound := by
    rw [still.flow, List.getElem?_eq_none bound]
    simp
  caller := by rw [still.context]
  locals := by rw [still.context]
  history := still.history ▸ List.suffix_rfl

/-- A function that is complete stays so. -/
theorem World.Proceeds.stays {before after : World} {index : Nat} (proceeds : before.Proceeds after)
    (complete : before.flow.built[index]? ≠ some false) : after.flow.built[index]? ≠ some false := by
  rcases Nat.lt_or_ge index before.flow.built.length with old | new
  · rcases proceeds.flow.built with ⟨rest, appended⟩
    rwa [← appended, List.getElem?_append_left old]
  · exact proceeds.complete index new

theorem World.Proceeds.trans {first middle last : World} (earlier : first.Proceeds middle)
    (later : middle.Proceeds last) : first.Proceeds last where
  flow := earlier.flow.trans later.flow
  complete index bound := later.stays (earlier.complete index bound)
  caller := later.caller.trans earlier.caller
  locals := later.locals.trans earlier.locals
  history := earlier.history.trans later.history

instance : Progress World.Proceeds := ⟨World.Grows.toProceeds, id, .trans⟩

instance : Progress World.Grows where
  of_grows grows := grows
  proceeds := World.Grows.toProceeds
  trans earlier later :=
    ⟨earlier.toProceeds.trans later.toProceeds, later.context.trans earlier.context⟩

theorem Progress.of_still {relation : World → World → Prop} [Progress relation] {before after : World}
    (still : before.Still after) : relation before after :=
  of_grows ⟨.of_still still, still.context⟩

/-! ## Soundness of a history -/

/-- The bodies of the first functions were begun, each with the return local of its number. -/
def Begun (count : Nat) (history : List Moment) : Prop :=
  ∀ index : Nat, index < count → .entered index (localName index) ∈ history

theorem Begun.mono {count : Nat} {earlier history : List Moment} (begun : Begun count earlier)
    (longer : earlier <:+ history) : Begun count history :=
  fun index bound => longer.subset (begun index bound)

theorem Begun.succ {count : Nat} {history : List Moment} (begun : Begun count history) :
    Begun (count + 1) (.entered count (localName count) :: history) := by
  intro index bound
  rcases Nat.lt_succ_iff_lt_or_eq.mp bound with old | rfl
  · exact List.mem_cons_of_mem _ (begun index old)
  · exact List.mem_cons_self

/-- What is to hold at a moment that comes after the moments `earlier`.  A function that is called has its
body, and a whole expression is one that may stand in the body of a function. -/
def Moment.Sound (setup : Setup) (earlier : List Moment) : Moment → Prop
  | .created .. | .defined .. | .begun .. => True
  | .entered index returnLocal => ∃ position : Nat, index = position ∧ returnLocal = localName position
  | .called index now => ∃ position : Nat, index = position ∧ now.flow.built[position]? = some true
  | .expressed expr => ∃ (caller : Nat) (flow : Flow) (signature : Signature), Aligned setup flow ∧
    flow.functions[caller]? = some signature ∧ expr.Formed setup caller signature.params flow
  | .saved now => Aligned setup now.flow ∧ Begun now.flow.functions.length earlier
  | .restored start now => now = start ∧ .saved start ∈ earlier
  | .completed start now => start.Extends now

/-- Every moment of a history is sound, given the moments before it. -/
def HistorySound (setup : Setup) : List Moment → Prop
  | [] => True
  | moment :: earlier => moment.Sound setup earlier ∧ HistorySound setup earlier

/-- The moments up to one of a sound history are a sound history. -/
theorem HistorySound.earlier {setup : Setup} {later earlier : List Moment}
    (sound : HistorySound setup (later ++ earlier)) : HistorySound setup earlier := by
  induction later with
  | nil => exact sound
  | cons last later ih => exact ih sound.2

/-- In a sound history, a moment is sound given those that come before it. -/
theorem HistorySound.sound {setup : Setup} {later earlier : List Moment} {moment : Moment}
    (sound : HistorySound setup (later ++ moment :: earlier)) : moment.Sound setup earlier :=
  sound.earlier.1

/-! ## Contracts -/

/-- The state is aligned and well-formed, and so it was at every moment of its history. -/
structure World.Good (setup : Setup) (world : World) : Prop where
  aligned : Aligned setup world.flow
  begun : Begun world.flow.functions.length world.history
  formed : world.flow.Formed setup
  history : HistorySound setup world.history

theorem World.Still.good {setup : Setup} {before after : World} (still : before.Still after)
    (good : before.Good setup) : after.Good setup where
  aligned := still.flow ▸ good.aligned
  begun := by
    rw [still.flow, still.history]
    exact good.begun
  formed := still.flow ▸ good.formed
  history := still.history ▸ good.history

/-- From `world`, the step leads to a good state that is in the relation to `world` and satisfies, together
with the value, the postcondition, or it fails with a sound history. -/
def Keeps {α : Type} (setup : Setup) (relation : World → World → Prop) (step : Gen α) (world : World)
    (post : α → World → Prop) : Prop :=
  step.Ends world (fun value after => after.Good setup ∧ relation world after ∧ post value after)
    fun after => HistorySound setup after.history

section

variable {α β : Type} {setup : Setup} {relation : World → World → Prop} [Progress relation]
variable {world : World}

theorem Keeps.pure {value : α} {post : α → World → Prop} (good : world.Good setup)
    (holds : post value world) : Keeps setup relation (pure value) world post :=
  ⟨good, Progress.of_still (.refl world), holds⟩

omit [Progress relation] in
theorem Keeps.mono {step : Gen α} {post weaker : α → World → Prop}
    (keeps : Keeps setup relation step world post)
    (weaken : ∀ value after, after.Good setup → relation world after → post value after →
      weaker value after) : Keeps setup relation step world weaker :=
  Step.Ends.mono keeps
    (fun value after ends => ⟨ends.1, ends.2.1, weaken value after ends.1 ends.2.1 ends.2.2⟩)
    fun _ sound => sound

/-- In a sequence, the second step starts from a good state to which the first one led. -/
theorem Keeps.bind {step : Gen α} {next : α → Gen β} {middle : α → World → Prop}
    {post : β → World → Prop} (first : Keeps setup relation step world middle)
    (second : ∀ value after, after.Good setup → relation world after → middle value after →
      Keeps setup relation (next value) after post) :
    Keeps setup relation (step >>= next) world post := by
  apply Step.ends_bind.mpr
  apply Step.Ends.mono first
  · intro value after ends
    rcases ends with ⟨good, related, held⟩
    apply Step.Ends.mono (second value after good related held)
    · intro made last final
      exact ⟨final.1, Progress.trans related final.2.1, final.2.2⟩
    · exact fun _ sound => sound
  · exact fun _ sound => sound

omit [Progress relation] in
theorem Keeps.get {next : World → Gen α} {post : α → World → Prop}
    (keeps : Keeps setup relation (next world) world post) :
    Keeps setup relation (get >>= next) world post :=
  Step.ends_bind.mpr keeps

omit [Progress relation] in
theorem Keeps.map {step : Gen α} {image : α → β} {post : β → World → Prop}
    (keeps : Keeps setup relation step world fun value => post (image value)) :
    Keeps setup relation (image <$> step) world post :=
  Step.ends_map.mpr keeps

omit [Progress relation] in
theorem Keeps.proceeds {step : Gen α} {post : α → World → Prop}
    (keeps : Keeps setup World.Grows step world post) : Keeps setup World.Proceeds step world post :=
  Step.Ends.mono keeps (fun _ _ ends => ⟨ends.1, ends.2.1.toProceeds, ends.2.2⟩) fun _ sound => sound

/-- An idle step keeps whatever there is to keep. -/
theorem Idle.keeps {step : Gen α} {post : α → Prop} (idle : Idle step post)
    (good : world.Good setup) :
    Keeps setup relation step world fun value after => world.Still after ∧ post value := by
  apply Step.Ends.mono (idle world)
  · intro value after ends
    have rests : world.Rests after := ends.1
    exact ⟨rests.good good, Progress.of_still rests.toStill, rests.toStill, ends.2⟩
  · intro after rests
    have rests : world.Rests after := rests
    exact rests.history ▸ good.history

/-- A sequence that begins with an idle step. -/
theorem Keeps.idle {step : Gen α} {next : α → Gen β} {middle : α → Prop} {post : β → World → Prop}
    (idle : Idle step middle) (good : world.Good setup)
    (second : ∀ value after, after.Good setup → world.Still after → middle value →
      Keeps setup relation (next value) after post) :
    Keeps setup relation (step >>= next) world post :=
  (idle.keeps good).bind fun value after good _ ends => second value after good ends.1 ends.2

end

end RandomC
