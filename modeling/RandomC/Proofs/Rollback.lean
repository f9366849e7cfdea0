import RandomC.Proofs.Definition

/-!
# Going back is exact

A snapshot holds lengths and counters only, and going back to it cuts the lists.  That this leads to the
very state in which the snapshot was taken holds at every moment of every run, also where the attempt that
is taken back created functions, built their bodies and went back to snapshots of its own.
-/

namespace RandomC

/-- The moments of a run, the last one first, also when the run fails. -/
def moments (setup : Setup) (source : Random.Source) (log : Array Event) : List Moment :=
  (run setup (.start setup source log)).2.history

theorem moments_sound (setup : Setup) (source : Random.Source) (log : Array Event) :
    HistorySound setup (moments setup source log) := by
  apply Step.Ends.reached ((run_ends source log).mono _ fun _ sound => sound)
  exact fun _ _ ends => ends.1.history

/-- Whenever a run goes back to a snapshot, the shared state and the context are afterwards what they were
when the snapshot was taken.  Whatever is completed in between, be it an expression, a block or a
definition, leaves every list an extension of what it was. -/
theorem run_goes_back_exactly (setup : Setup) (source : Random.Source) (log : Array Event) :
    (∀ later earlier start now,
      moments setup source log = later ++ .restored start now :: earlier →
        .saved start ∈ earlier ∧ now = start) ∧
      ∀ start now, .completed start now ∈ moments setup source log → start.Extends now := by
  have sound := moments_sound setup source log
  constructor
  · intro later earlier start now split
    rw [split] at sound
    rcases sound.sound with ⟨same, saved⟩
    exact ⟨saved, same⟩
  · intro start now member
    obtain ⟨earlier, later, split⟩ := List.append_of_mem member
    rw [split] at sound
    exact sound.sound

/-- The settings of a program of two functions with one short block each. -/
def smallSettings : Settings :=
  { maxFuncs := 2, maxParams := 1, maxBlockSize := 1, maxBlockDepth := 1, maxExprComplexity := 2
    stopByStmt := 2, exactReplay := false, structs := false, unions := false }

/-- A setup without an initial environment. -/
def smallSetup : Setup := ⟨smallSettings, CType.scalars 4 true, .empty, .empty⟩

/-- At this moment the state went back to a snapshot. -/
def Moment.isReturn : Moment → Bool
  | .restored .. => true
  | _ => false

theorem exists_return_small : ∃ later start now earlier,
    moments smallSetup (.ofSeed 2 false) #[] = later ++ .restored start now :: earlier := by
  have returns : (moments smallSetup (.ofSeed 2 false) #[]).any Moment.isReturn = true := by decide +kernel
  obtain ⟨moment, member, isReturn⟩ := List.any_eq_true.mp returns
  obtain ⟨later, earlier, split⟩ := List.append_of_mem member
  cases moment with
  | restored start now => exact ⟨later, start, now, earlier, split⟩
  | _ => cases isReturn

/-- A run that goes back to a snapshot. -/
theorem run_goes_back_exactly_small : ∃ later start now earlier,
    moments smallSetup (.ofSeed 2 false) #[] = later ++ .restored start now :: earlier ∧
      .saved start ∈ earlier ∧ now = start := by
  obtain ⟨later, start, now, earlier, split⟩ := exists_return_small
  have exact := (run_goes_back_exactly smallSetup (.ofSeed 2 false) #[]).1
  exact ⟨later, start, now, earlier, split, exact later earlier start now split⟩

/-- The state in which a small run builds the body of its entry function. -/
def smallStart : World := (addEntry smallSetup (.start smallSetup (.ofSeed 2 false) #[])).2

theorem smallStart_awaits : smallStart.Awaits smallSetup 0 := by
  have ends := @addEntry_ends smallSetup (.ofSeed 2 false) #[]
  have isOk : (addEntry smallSetup (.start smallSetup (.ofSeed 2 false) #[])).1.isOk = true := by
    decide +kernel
  revert ends isOk
  simp only [Step.Ends, smallStart]
  rcases addEntry smallSetup (.start smallSetup (.ofSeed 2 false) #[]) with ⟨failure | signature, world⟩
  · exact fun _ failed => by cases failed
  · exact fun awaits _ => awaits

end RandomC
