import RandomC.Proofs.BodyText

/-!
# Every function is built once

Bodies are built out of the middle of other bodies, and indices that are free again after an attempt was
taken back go to other functions.  A definition nevertheless belongs to the function that has its index at
the end: it was made for this function, between moments at which the function was there, and for no other
one was anything begun or stored at this index meanwhile.
-/

namespace RandomC

/-! ## Functions that stay -/

/-- The function that has the index keeps it at the moment, and its body is neither begun nor complete. -/
def Moment.Spares (index : Nat) (signature : Signature) : Moment → Prop
  | .created other _ => other ≠ index
  | .entered other _ | .defined other _ => other ≠ index
  | .called _ now | .saved now | .begun _ now | .restored _ now | .completed _ now =>
    now.flow.functions[index]? = some signature
  | .expressed _ => True

/-- The body of the function at an index was begun right after the function was created, and led to the
definition; before and after that its index was spared.  Only the creation of the first function of a run is
not remembered. -/
structure BuiltOnce (index : Nat) (signature : Signature) (returnLocal : String) (definition : Definition)
    (later inside earlier history : List Moment) : Prop where
  split : history = later ++ .defined index definition :: inside ++ .entered index returnLocal :: earlier
  later : ∀ moment ∈ later, moment.Spares index signature
  inside : ∀ moment ∈ inside, moment.Spares index signature
  created : earlier.head? = some (.created index signature) ∨ index = 0 ∧ earlier = []

/-- Whatever happened between two states, it spared every function that there was in the first one. -/
def World.Spares (before after : World) : Prop :=
  ∃ nested, after.history = nested ++ before.history ∧
    ∀ (index : Nat) (signature : Signature), before.flow.functions[index]? = some signature →
      ∀ moment ∈ nested, moment.Spares index signature

/-- The functions that have definitions were built once. -/
def World.Recorded (world : World) : Prop :=
  ∀ (index : Nat) (signature : Signature) (definition : Definition),
    world.flow.functions[index]? = some signature → world.flow.definitions[index]? = some (some definition) →
      ∃ returnLocal later inside earlier,
        BuiltOnce index signature returnLocal definition later inside earlier world.history

section

variable {setup : Setup} {world before after : World}

theorem BuiltOnce.append {index : Nat} {signature : Signature} {returnLocal : String}
    {definition : Definition} {nested later inside earlier history : List Moment}
    (built : BuiltOnce index signature returnLocal definition later inside earlier history)
    (spares : ∀ moment ∈ nested, moment.Spares index signature) :
    BuiltOnce index signature returnLocal definition (nested ++ later) inside earlier
      (nested ++ history) where
  split := by simp [built.split]
  later := List.forall_mem_append.mpr ⟨spares, built.later⟩
  inside := built.inside
  created := built.created

theorem World.Spares.of_history (history : after.history = before.history) : before.Spares after :=
  ⟨[], history, fun _ _ _ => List.forall_mem_nil _⟩

theorem World.Spares.remember {moment : Moment} (spares : before.Spares after)
    (added : ∀ (index : Nat) (signature : Signature), before.flow.functions[index]? = some signature →
      moment.Spares index signature) : before.Spares (after.remembering moment) := by
  obtain ⟨nested, history, spared⟩ := spares
  refine ⟨moment :: nested, congrArg (moment :: ·) history, fun index signature found => ?_⟩
  exact List.forall_mem_cons.mpr ⟨added index signature found, spared index signature found⟩

theorem World.Lengthens.function (lengthens : before.Lengthens after) {index : Nat} {signature : Signature}
    (found : before.flow.functions[index]? = some signature) :
    after.flow.functions[index]? = some signature := by
  have bound := (List.getElem?_eq_some_iff.mp found).1
  obtain ⟨rest, appended⟩ := lengthens.functions
  rw [← appended, List.getElem?_append_left bound, found]

theorem World.Spares.trans {first middle last : World} (lengthens : first.Lengthens middle)
    (early : first.Spares middle) (late : middle.Spares last) : first.Spares last := by
  obtain ⟨nested, begun, spared⟩ := early
  obtain ⟨more, ended, spares⟩ := late
  refine ⟨more ++ nested, by rw [ended, begun, List.append_assoc], fun index signature found => ?_⟩
  exact List.forall_mem_append.mpr
    ⟨spares index signature (lengthens.function found), spared index signature found⟩

/-- Records stay where the functions that have definitions are among those that had them before. -/
theorem World.Recorded.of_spares (recorded : before.Recorded) (spares : before.Spares after)
    (among : ∀ (index : Nat) (signature : Signature) (definition : Definition),
      after.flow.functions[index]? = some signature →
      after.flow.definitions[index]? = some (some definition) →
        before.flow.functions[index]? = some signature ∧
          before.flow.definitions[index]? = some (some definition)) : after.Recorded := by
  obtain ⟨nested, history, spared⟩ := spares
  intro index signature definition function found
  obtain ⟨function, found⟩ := among index signature definition function found
  obtain ⟨returnLocal, later, inside, earlier, built⟩ := recorded index signature definition function found
  exact ⟨returnLocal, nested ++ later, inside, earlier,
    history ▸ built.append (spared index signature function)⟩

theorem World.Recorded.same (recorded : before.Recorded) (spares : before.Spares after)
    (functions : after.flow.functions = before.flow.functions)
    (definitions : after.flow.definitions = before.flow.definitions) : after.Recorded :=
  recorded.of_spares spares fun _ _ _ function found => ⟨functions ▸ function, definitions ▸ found⟩

/-- A function that is created takes an index that none had. -/
theorem World.Creates.spares {signature : Signature} (creates : before.Creates setup signature after) :
    before.Spares after := by
  rcases creates.history with remembered | ⟨none, start, same⟩
  · refine ⟨_, remembered, fun index _ found => List.forall_mem_singleton.mpr ?_⟩
    exact Nat.ne_of_gt (List.getElem?_eq_some_iff.mp found).1
  · exact .of_history (same.trans start.symm)

/-- Going back spares the functions there were. -/
theorem World.Returns.spares {start now : World} (returns : start.Returns now after)
    (spares : start.Spares now) : start.Spares after := by
  obtain ⟨nested, history, spared⟩ := spares
  refine ⟨_ :: nested, returns.history.trans (congrArg (_ :: ·) history), fun index signature found => ?_⟩
  refine List.forall_mem_cons.mpr ⟨?_, spared index signature found⟩
  exact (congrArg (·[index]?) returns.functions).trans found

/-- The policy that keeps records: what happens spares the functions that are there. -/
def recording : Policy where
  inv := World.Recorded
  rel _ := World.Spares
  failed _ := True
  trans := World.Spares.trans
  failing _ := trivial
  stopping _ _ _ := trivial
  matching recorded matched :=
    have spares := World.Spares.of_history matched.history
    ⟨recorded.same spares matched.functions matched.definitions, spares⟩
  saving {world} recorded :=
    have spares : world.Spares (world.remembering (.saved world.checkpoint)) :=
      .remember (.of_history rfl) fun _ _ => id
    ⟨recorded.same spares rfl rfl, spares⟩
  completing {start world _} _ recorded _ _ :=
    have spares : world.Spares (world.remembering (.completed start.checkpoint world.checkpoint)) :=
      .remember (.of_history rfl) fun _ _ => id
    ⟨recorded.same spares rfl rfl, spares⟩
  returning recorded _ _ spares returns :=
    have spares := returns.spares spares
    ⟨recorded.same spares returns.functions returns.definitions, spares⟩

theorem recording_expressive : recording.Expressive where
  resembling recorded resembles :=
    have spares := World.Spares.of_history resembles.history
    ⟨World.Recorded.same recorded spares resembles.functions resembles.definitions, spares⟩
  calling {world} index recorded :=
    have spares : world.Spares (world.remembering (.called index world.checkpoint)) :=
      .remember (.of_history rfl) fun _ _ => id
    ⟨World.Recorded.same recorded spares rfl rfl, spares⟩
  expressing {world} expr recorded :=
    have spares : world.Spares (world.remembering (.expressed expr)) :=
      .remember (.of_history rfl) fun _ _ _ => trivial
    ⟨World.Recorded.same recorded spares rfl rfl, spares⟩

/-- A function that was just created has no definition. -/
theorem World.Creates.among {index : Nat} {signature function : Signature} {definition : Definition}
    (creates : before.Creates setup signature after) (paired : before.Paired)
    (found : after.flow.functions[index]? = some function)
    (defined : after.flow.definitions[index]? = some (some definition)) :
    before.flow.functions[index]? = some function ∧
      before.flow.definitions[index]? = some (some definition) := by
  have bound : index < before.flow.definitions.length := by
    rcases Nat.lt_trichotomy index before.flow.definitions.length with less | rfl | greater
    · exact less
    · simp [creates.definitions] at defined
    · have none : after.flow.definitions[index]? = none :=
        List.getElem?_eq_none (by simp [creates.definitions]; omega)
      rw [none] at defined
      cases defined
  rw [creates.functions, List.getElem?_append_left (paired.definitions ▸ bound)] at found
  rw [creates.definitions, List.getElem?_append_left bound] at defined
  exact ⟨found, defined⟩

/-- Between the creation of a function and the end of its body, the functions before were spared. -/
theorem World.Creates.spares_defining {signature : Signature} {created numbered last : World}
    {returnLocal : String} {definition : Definition} (creates : before.Creates setup signature created)
    (matched : created.Matches numbered)
    (lengthens : (numbered.remembering (.entered before.flow.functions.length returnLocal)).Lengthens last)
    (spares : (numbered.remembering (.entered before.flow.functions.length returnLocal)).Spares last) :
    before.Spares (created.defining before.flow.functions.length definition last) := by
  have other {index : Nat} {function : Signature} (found : before.flow.functions[index]? = some function) :
      (before.flow.functions.length : Int) ≠ index := by
    have bound := (List.getElem?_eq_some_iff.mp found).1
    omega
  have creates := creates.matches matched
  have longer : before.Lengthens (numbered.remembering (.entered before.flow.functions.length returnLocal)) :=
    ⟨creates.lengthens.functions, creates.lengthens.definitions⟩
  have entered : before.Spares (numbered.remembering (.entered before.flow.functions.length returnLocal)) :=
    .remember creates.spares fun _ _ => other
  have completed : before.Spares (last.remembering (.completed created.checkpoint last.checkpoint)) :=
    .remember (entered.trans longer spares) fun _ _ found => (longer.trans lengthens).function found
  have defined : before.Spares ((last.remembering (.completed created.checkpoint last.checkpoint)).remembering
      (.defined before.flow.functions.length definition)) := .remember completed fun _ _ => other
  exact defined

/-- The definition that is stored at the end of its body was built once, and the records of others stay. -/
theorem World.Creates.recorded_defining {signature : Signature} {created numbered last : World}
    {returnLocal : String} {definition : Definition} (creates : before.Creates setup signature created)
    (matched : created.Matches numbered)
    (lengthens : (numbered.remembering (.entered before.flow.functions.length returnLocal)).Lengthens last)
    (spares : (numbered.remembering (.entered before.flow.functions.length returnLocal)).Spares last)
    (recorded : last.Recorded) (paired : last.Paired) :
    (created.defining before.flow.functions.length definition last).Recorded := by
  have creates := creates.matches matched
  have own : last.flow.functions[before.flow.functions.length]? = some signature :=
    lengthens.function creates.signature
  intro index function stored there found
  by_cases same : index = before.flow.functions.length
  · subst same
    obtain rfl : signature = function := Option.some.inj (own.symm.trans there)
    obtain ⟨nested, history, spared⟩ := spares
    have bound : before.flow.functions.length < last.flow.definitions.length := by
      rw [paired.definitions]
      exact (List.getElem?_eq_some_iff.mp own).1
    obtain rfl : definition = stored := by
      rw [World.defining, Flow.withDefinition, List.getElem?_set_self bound] at found
      exact Option.some.inj (Option.some.inj found)
    refine ⟨returnLocal, [], .completed created.checkpoint last.checkpoint :: nested, numbered.history, ?_,
      List.forall_mem_nil _, ?_, ?_⟩
    · exact congrArg (_ :: _ :: ·) history
    · exact List.forall_mem_cons.mpr ⟨own, spared _ _ creates.signature⟩
    · rcases creates.history with remembered | ⟨none, -, start⟩
      · exact .inl (congrArg List.head? remembered)
      · exact .inr ⟨congrArg List.length none, start⟩
  · have found : last.flow.definitions[index]? = some (some stored) := by
      rwa [World.defining, Flow.withDefinition, List.getElem?_set_ne (Ne.symm same)] at found
    obtain ⟨returnLocal, later, inside, earlier, built⟩ := recorded index function stored there found
    have others : (before.flow.functions.length : Int) ≠ index := by omega
    have spared : ∀ moment ∈ [Moment.defined before.flow.functions.length definition,
        .completed created.checkpoint last.checkpoint], moment.Spares index function :=
      List.forall_mem_cons.mpr ⟨others, List.forall_mem_singleton.mpr there⟩
    exact ⟨returnLocal, _, inside, earlier, built.append spared⟩

theorem recording_building (setup : Setup) (shaped : Definition → Prop) :
    recording.Building setup shaped where
  beginning {world} recorded _ :=
    have spares : world.Spares world.beginning :=
      ⟨[.begun world.checkpoint world.beginning.checkpoint], rfl,
        fun _ _ found => List.forall_mem_singleton.mpr found⟩
    ⟨World.Recorded.same recorded spares rfl rfl, spares⟩
  filling {world} recorded _ :=
    have spares : world.Spares world.filling := .remember (.of_history rfl) fun _ _ => id
    ⟨World.Recorded.same recorded spares rfl rfl, spares⟩
  entering {_ before after} returnLocal governs creates := by
    have entered : before.Spares (after.remembering (.entered before.flow.functions.length returnLocal)) := by
      refine .remember creates.spares fun index _ found => ?_
      have bound := (List.getElem?_eq_some_iff.mp found).1
      show (before.flow.functions.length : Int) ≠ index
      omega
    exact World.Recorded.of_spares governs.kept entered fun _ _ _ => creates.among governs.paired
  defining _ creates matched last relates _ :=
    ⟨creates.recorded_defining matched relates.toLengthens relates.related last.kept last.paired,
      creates.spares_defining matched relates.toLengthens relates.related⟩

end

/-! ## Runs -/

/-- The text of a definition begins with the prototype, and ends with the return of its local variable and an
empty line. -/
theorem Definition.text_framed (definition : Definition) : ∃ middle, definition.text =
    definition.signature.prototype ++ " \x7b\n" ++ middle ++
      ("    return " ++ definition.returnLocal ++ ";\n\x7d\n\n") := by
  obtain ⟨middle, lines⟩ : ∃ middle : List Line, definition.lines =
      ⟨0, definition.signature.prototype ++ " \x7b"⟩ ::
        (middle ++ [⟨1, "return " ++ definition.returnLocal ++ ";"⟩, ⟨0, "\x7d"⟩]) :=
    ⟨definition.resultLine :: definition.accumulatorLine ::
      (definition.signature.params.map (fun param => ⟨1, s!"x ^= (uint32_t){param.name};"⟩) ++
        linesOf definition.body ++ definition.mixLines ++
        [⟨1, definition.returnLocal ++ " ^= " ++ definition.signature.result.castText accumulator ++ ";"⟩]),
      by simp [Definition.lines, Definition.bodyLines]⟩
  refine ⟨writtenLines middle, ?_⟩
  have margin : Text.indentation (0 : Nat) = "" := by decide
  have one : Text.indentation (1 : Nat) = "    " := by decide
  rw [Definition.text_eq, lines]
  simp only [writtenLines_cons, writtenLines_append, writtenLines_nil, Text.indentedLine, margin, one]
  simp [← String.toList_inj]

section

variable {setup : Setup} {source : Random.Source} {log : Array Event}

/-- A run that succeeds keeps records to its end. -/
theorem run_recorded (succeeds : (run setup (.start setup source log)).1 = .ok ()) :
    (run setup (.start setup source log)).2.Recorded := by
  have start : (World.start setup source log).Recorded := nofun
  have ends := run_ends_in (recording_building setup (Definition.Shaped setup False))
    (recording_expressive.regime.expresses setup) (fun _ _ => False.elim) source log start
  exact (ends.of_ok succeeds).kept.kept

/-- A run that succeeds has built every function, and each of them once: its body was begun right after the
function was created, and what it led to is its definition.  From then on the function kept its index, and
no body was begun or complete at this index but its own.  Functions that were called had their bodies.  What
is written has one declaration and one definition for each function, in the order of their creation. -/
theorem run_builds_once (setup : Setup) (source : Random.Source) (log : Array Event)
    (succeeds : (run setup (.start setup source log)).1 = .ok ()) :
    (∀ (index : Int) (now : Checkpoint), .called index now ∈ moments setup source log →
      ∃ position : Nat, index = position ∧ now.flow.built[position]? = some true) ∧
    ∃ definitions : List Definition,
      (run setup (.start setup source log)).2.flow.definitions = definitions.map some ∧
      (run setup (.start setup source log)).2.flow.functions = definitions.map (·.signature) ∧
      (run setup (.start setup source log)).2.flow.built = (definitions.map fun _ => true) ∧
      (∀ (index : Nat) (definition : Definition), definitions[index]? = some definition →
        (∃ later inside earlier, BuiltOnce index definition.signature (localName index) definition later inside
          earlier (moments setup source log)) ∧
        ∃ middle, definition.text = definition.signature.prototype ++ " \x7b\n" ++ middle ++
          ("    return " ++ localName index ++ ";\n\x7d\n\n")) ∧
      ∀ sheet : Text.Sheet Item, sheet.level = 0 →
        ((run setup (.start setup source log)).2.flow.write sheet).contents = sheet.contents ++
          ((run setup (.start setup source log)).2.flow.pending.map (fun pending => .declare pending.declaration) ++
            .heading "FORWARD DECLARATIONS" :: definitions.map (.forward ·.signature) ++
            .heading "FUNCTIONS" :: .rule :: definitions.map .define) ∧
        ∃ start, ((run setup (.start setup source log)).2.flow.write sheet).written =
          start ++ String.join (definitions.map Definition.text) := by
  obtain ⟨good, complete⟩ := run_good succeeds
  obtain ⟨definitions, all, own, returnLocals⟩ := good.aligned.all_definitions complete
  have sound := moments_sound setup source log
  refine ⟨?_, definitions, all.symm, own.symm, ?_, ?_, ?_⟩
  · intro index now member
    obtain ⟨earlier, later, split⟩ := List.append_of_mem member
    rw [split] at sound
    exact sound.sound
  · rw [← good.aligned.definitions_built, ← all, List.map_map]
    rfl
  · intro index definition found
    have stored : (run setup (.start setup source log)).2.flow.definitions[index]? = some (some definition) := by
      rw [← all, List.getElem?_map, found]
      rfl
    obtain ⟨function, returns⟩ := good.aligned.returnLocals index definition stored
    constructor
    · obtain ⟨returnLocal, later, inside, earlier, built⟩ :=
        run_recorded succeeds index definition.signature definition function stored
      have split : moments setup source log = _ := built.split
      rw [split] at sound
      obtain ⟨position, same, rfl⟩ := sound.sound
      obtain rfl : index = position := Int.ofNat_inj.mp same
      exact ⟨later, inside, earlier, built⟩
    · exact returns ▸ definition.text_framed
  · intro sheet margin
    obtain ⟨continues, written⟩ := @Flow.write_eq (run setup (.start setup source log)).2.flow sheet margin
    have made : (run setup (.start setup source log)).2.flow.definitions.filterMap id = definitions := by
      rw [← all]
      simp
    rw [made] at written
    refine ⟨?_, written⟩
    rw [continues.contents, Flow.items, made, ← own]
    simp

/-- A small run creates a second function and builds it while the body of the first one is made. -/
theorem run_builds_once_small : ∃ definitions : List Definition, definitions.length = 2 ∧
    (run smallSetup (.start smallSetup (.ofSeed 2 false) #[])).2.flow.definitions = definitions.map some ∧
    ∀ (index : Nat) (definition : Definition), definitions[index]? = some definition →
      ∃ later inside earlier, BuiltOnce index definition.signature (localName index) definition later inside
        earlier (moments smallSetup (.ofSeed 2 false) #[]) := by
  have length : (run smallSetup (.start smallSetup (.ofSeed 2 false) #[])).2.flow.definitions.length = 2 := by
    decide +kernel
  obtain ⟨-, definitions, all, -, -, built, -⟩ :=
    run_builds_once smallSetup (.ofSeed 2 false) #[] (eq_ok_of_isOk (by decide +kernel))
  rw [all, List.length_map] at length
  exact ⟨definitions, length, all, fun index definition found => (built index definition found).1⟩

end

end RandomC
