import RandomC.Proofs.Tracing

/-!
# Parts of a call

A part of a call acts on the machine, gives a value or stops, and may write to the output and report on the side.  Two
parts are similar if they do the same but for the reports.  A call is put together from parts, and similar parts can
stand for each other in it.
-/

namespace RandomC.CommandLine

section

variable {m : Type → Type} [Monad m] [LawfulMonad m] {α β : Type}

/-- What a part of a call does on the machine, what it gives, and what has been written to the output then. -/
def seen (part : Session m α) (console : Console) : m (Except Stop α × String) :=
  (fun ending => (ending.1, ending.2.out)) <$> part.run.run console

/-- The parts do, give and write the same, as far as the output shows what was written. -/
def Similar (one other : Session m α) : Prop :=
  ∀ first second : Console, first.out = second.out → seen one first = seen other second

/-- What is seen of a part of a call that follows, given what was seen before. -/
def seenAfter (next : α → Session m β) : Except Stop α × String → m (Except Stop β × String)
  | (.ok value, out) => seen (next value) ⟨out, "", none⟩
  | (.error stop, out) => pure (.error stop, out)

theorem seen_bind {one : Session m α} {next : α → Session m β}
    (blind : ∀ value (first second : Console), first.out = second.out →
      seen (next value) first = seen (next value) second) (console : Console) :
    seen (one >>= next) console = seen one console >>= seenAfter next := by
  rw [seen, seen, ExceptT.run_bind, StateT.run_bind, map_bind, bind_map_left]
  refine bind_congr fun ending => ?_
  obtain ⟨stop | value, after⟩ := ending
  · exact map_pure _ _
  · exact blind value _ _ rfl

theorem seen_pure (value : α) (console : Console) :
    seen (pure value : Session m α) console = pure (.ok value, console.out) := map_pure _ _

theorem seen_throw (stop : Stop) (console : Console) :
    seen (throw stop : Session m α) console = pure (.error stop, console.out) := map_pure _ _

theorem seen_perform (action : m α) (console : Console) :
    seen (perform action) console = (fun value => (.ok value, console.out)) <$> action := by
  simp [seen, perform, ExceptT.lift, StateT.run_lift, ExceptT.run_mk]

theorem seen_onConsole (change : Console → Console) (console : Console) :
    seen (onConsole change : Session m Unit) console = pure (.ok (), (change console).out) := by
  rw [seen, run_onConsole, map_pure]

theorem seen_perform_bind (action : m α) (next : α → Session m β) (console : Console) :
    seen (perform action >>= next) console = action >>= fun value => seen (next value) console := by
  have run : (perform action >>= next).run.run console = action >>= fun value => (next value).run.run console := by
    simp [perform, ExceptT.lift, ExceptT.run_bind, StateT.run_bind, StateT.run_lift, ExceptT.run_mk]
  rw [seen, run, map_bind]
  rfl

theorem seen_onConsole_bind (change : Console → Console) (next : Unit → Session m β) (console : Console) :
    seen (onConsole change >>= next) console = seen (next ()) (change console) := by
  rw [seen, ExceptT.run_bind, StateT.run_bind, run_onConsole, pure_bind]
  rfl

theorem throw_bind (stop : Stop) (next : α → Session m β) :
    (throw stop >>= next : Session m β) = throw stop := by
  refine ExceptT.ext (StateT.ext fun console => ?_)
  have thrown : (throw stop : Session m α).run.run console = pure (.error stop, console) := rfl
  rw [ExceptT.run_bind, StateT.run_bind, thrown, pure_bind]
  rfl

namespace Similar

variable {one other : Session m α}

omit [LawfulMonad m] in
theorem symm (similar : Similar one other) : Similar other one :=
  fun first second same => (similar second first same.symm).symm

omit [LawfulMonad m] in
theorem blind (similar : Similar one other) (first second : Console) (same : first.out = second.out) :
    seen one first = seen one second := by
  rw [similar first second same, ← similar second second rfl]

theorem bind {next following : α → Session m β} (start : Similar one other)
    (rest : ∀ value, Similar (next value) (following value)) : Similar (one >>= next) (other >>= following) := by
  intro first second same
  rw [seen_bind fun value => (rest value).blind, seen_bind fun value => (rest value).symm.blind,
    start first second same]
  refine bind_congr fun ending => ?_
  obtain ⟨stop | value, out⟩ := ending
  · rfl
  · exact rest value _ _ rfl

theorem pure {value : α} : Similar (m := m) (Pure.pure value) (Pure.pure value) := by
  intro first second same
  rw [seen_pure, seen_pure, same]

theorem stop {stop : Stop} : Similar (m := m) (throw stop : Session m α) (throw stop) := by
  intro first second same
  rw [seen_throw, seen_throw, same]

theorem perform {action : m α} : Similar (perform action) (perform action) := by
  intro first second same
  rw [seen_perform, seen_perform, same]

theorem orStop {result : Except Problem α} : Similar (m := m) (orStop result) (orStop result) := by
  cases result with
  | error problem => exact stop
  | ok value => exact pure

/-- Changes of the console are similar if they write the same to the output. -/
theorem onConsole {change also : Console → Console}
    (same : ∀ first second : Console, first.out = second.out → (change first).out = (also second).out) :
    Similar (m := m) (onConsole change) (onConsole also) := by
  intro first second out
  rw [seen_onConsole, seen_onConsole, same first second out]

/-- What is not written to the output makes no difference. -/
theorem skip {change : Console → Console} (silent : ∀ console : Console, (change console).out = console.out) :
    Similar (m := m) (CommandLine.onConsole change) (Pure.pure ()) := by
  intro first second out
  rw [seen_onConsole, seen_pure, silent, out]

end Similar

end

/-- How a call ends, and what it has written to the output, given what is seen of it. -/
def ended : Except Stop Unit × String → Ending × String
  | (.ok (), out) => (.finished 0, out)
  | (.error (.exit status), out) => (.exited status, out)
  | (.error (.problem _), out) => (.finished 1, out)

/-! ## The end of a call -/

theorem Console.out_report (level : LogLevel) (origin message : String) (console : Console) :
    (console.report level origin message).out = console.out := by
  unfold Console.report
  split <;> split <;> rfl

theorem Console.out_reports (events : Array Event) (console : Console) :
    (events.foldl (fun console event => console.report event.level event.origin event.message) console).out =
      console.out := by
  rw [← Array.foldl_toList]
  induction events.toList generalizing console with
  | nil => rfl
  | cons event rest ih => rw [List.foldl_cons, ih, Console.out_report]

/-- How a call ends, and what it has written to the output. -/
def visible (answer : Ending × Console) : Ending × String := (answer.1, answer.2.out)

theorem visible_call {m : Type → Type} [Monad m] [LawfulMonad m] (machine : Machine m) (arguments : List String) :
    visible <$> call machine arguments = ended <$> seen (session machine arguments) .empty := by
  rw [call, map_bind, seen, ← comp_map, map_eq_pure_bind]
  refine bind_congr fun ending => ?_
  obtain ⟨(status | problem) | ⟨⟩, console⟩ := ending
  · exact map_pure _ _
  · rw [map_pure]
    simp [visible, ended, Console.out_report]
  · exact map_pure _ _

end RandomC.CommandLine
