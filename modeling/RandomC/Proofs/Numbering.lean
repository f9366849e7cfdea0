import RandomC.Proofs.Program

/-!
# Names are numbered without gaps

Functions, parameters, return locals and globals are numbered while attempts create some of them and are
taken back.  Wherever a snapshot was taken, and wherever a run went back to one, the lists and counters
agree; at the end, the names that a program declares are numbered as if no attempt had failed.
-/

namespace RandomC

/-! ## During a run -/

/-- The state at a moment at which a snapshot was taken or the run went back to one. -/
def Moment.checkpoint? : Moment → Option Checkpoint
  | .saved now | .restored _ now => some now
  | .created .. | .entered .. | .defined .. | .called .. | .expressed _ | .begun .. | .completed .. => none

/-- Where a run went back to a snapshot, the state is the one of the snapshot; the moments before it have
only become more. -/
theorem HistorySound.aligned {setup : Setup} {later earlier : List Moment} {moment : Moment}
    {now : Checkpoint} (sound : HistorySound setup (later ++ moment :: earlier))
    (stands : moment.checkpoint? = some now) :
    Aligned setup now.flow ∧ Begun now.flow.functions.length earlier := by
  have here := sound.sound
  cases moment with
  | saved start =>
      cases stands
      exact here
  | restored start back =>
      cases stands
      rcases here with ⟨same, saved⟩
      obtain ⟨between, first, split⟩ := List.append_of_mem saved
      have before : HistorySound setup earlier := sound.earlier.2
      rw [split] at before
      rcases before.sound with ⟨aligned, begun⟩
      have longer : first <:+ earlier := by simp [split, List.suffix_append_of_suffix]
      exact same ▸ ⟨aligned, begun.mono longer⟩
  | _ => cases stands

/-! ## In a program -/

/-- The names that a program declares are numbered one after the other, and each is declared once. -/
structure Program.Numbered (program : Program) : Prop where
  consecutive : ∀ kind, ∃ count,
    declaredOf kind program.items = (List.range' kind.first count).map kind.name
  nodup : ∀ kind, (declaredOf kind program.items).Nodup
  functions : declaredOf .function program.items = program.functions.map (·.name)
  params : declaredOf .param program.items = (program.functions.flatMap (·.params)).map (·.name)
  returnLocals : declaredOf .returnLocal program.items =
    (List.range program.functions.length).map localName

theorem Aligned.function_names {setup : Setup} {flow : Flow} (aligned : Aligned setup flow) :
    flow.functions.map (·.name) = (List.range' 1 flow.functions.length).map NameKind.function.name := by
  have named : flow.functions.map (·.name) = (flow.functions.map (·.number)).map functionName := by
    rw [List.map_map]
    rfl
  rw [named, aligned.numbers, List.map_map]
  rfl

theorem Origin.Makes.numbered {origin : Origin} {settings : Settings} {program : Program}
    (makes : origin.Makes settings program) : program.Numbered := by
  have ledger := makes.sheet.ledger
  have aligned := makes.aligned
  have functions := makes.functions_eq
  constructor
  · exact fun kind => ⟨_, ledger.declared kind⟩
  · exact fun kind => ledger.nodup
  · have count : origin.tally.written origin.world.flow .function = origin.world.flow.functions.length := by
      simp [Tally.written, makes.opens.functions]
    rw [functions, aligned.function_names, Program.items, ledger.declared, count]
    rfl
  · have count : origin.tally.written origin.world.flow .param = origin.world.flow.nextParam - 1 := by
      simp [Tally.written, makes.opens.params, aligned.nextParam_sub_one]
    rw [functions, aligned.params, Program.items, ledger.declared, count]
    rfl
  · have count : origin.tally.written origin.world.flow .returnLocal =
        origin.world.flow.functions.length := by
      simp [Tally.written, makes.opens.returnLocals]
    rw [functions, Program.items, ledger.declared, count, List.range_eq_range']
    rfl

/-- At every snapshot and after every return to one, the lists and counters agree, and every function has
the return local of its number.  Therefore no name is left out or used again in a program. -/
theorem run_numbers_without_gaps :
    (∀ (setup : Setup) (source : Random.Source) (log : Array Event),
      (∀ later moment earlier now, moments setup source log = later ++ moment :: earlier →
        moment.checkpoint? = some now →
          Aligned setup now.flow ∧ Begun now.flow.functions.length earlier) ∧
      ∀ (index : Int) (returnLocal : String), .entered index returnLocal ∈ moments setup source log →
        ∃ position : Nat, index = position ∧ returnLocal = localName position) ∧
    ∀ (settings : Settings) (source : Random.Source) (program : Program),
      (generate settings source).result = .ok program → program.Numbered := by
  constructor
  · intro setup source log
    have sound := moments_sound setup source log
    constructor
    · intro later moment earlier now split stands
      rw [split] at sound
      exact sound.aligned stands
    · intro index returnLocal member
      obtain ⟨later, earlier, split⟩ := List.append_of_mem member
      rw [split] at sound
      exact sound.sound
  · intro settings source program returned
    obtain ⟨origin, makes⟩ := exists_origin returned
    exact makes.numbered

/-- A run that goes back to a snapshot, and the program that it is part of. -/
theorem run_numbers_without_gaps_small :
    (∃ start now : Checkpoint,
      .restored start now ∈ moments smallSetup (.ofSeed 2 false) #[] ∧ Aligned smallSetup now.flow) ∧
    ∃ program, (generate smallSettings (.ofSeed 2 false)).result = .ok program ∧ program.Numbered := by
  constructor
  · obtain ⟨later, start, now, earlier, split⟩ := exists_return_small
    have member : .restored start now ∈ moments smallSetup (.ofSeed 2 false) #[] := by simp [split]
    have numbered := (run_numbers_without_gaps.1 smallSetup (.ofSeed 2 false) #[]).1 later _ earlier now split
    exact ⟨start, now, member, (numbered rfl).1⟩
  · have isOk : (generate smallSettings (.ofSeed 2 false)).result.isOk = true := by decide +kernel
    obtain ⟨program, returned⟩ := exists_of_isOk isOk
    exact ⟨program, returned, run_numbers_without_gaps.2 _ _ _ returned⟩

end RandomC
