import RandomC.Files.Tree
import RandomC.Proofs.Parts
import RandomC.Proofs.Recorded

/-!
# Verbosity

A verbose call shows the recorded options and more reports, all of it beside the output.  Nothing else looks at
whether a call is verbose, so the rest of a call does the same.  The options are shown as a document, though, and
where one of them cannot be stored this ends the call.
-/

namespace RandomC.CommandLine

/-! ## The rest of a call -/

section

variable {m : Type → Type} [Monad m] [LawfulMonad m] (machine : Machine m)

/-- Shows the recorded options if the call is verbose. -/
def showOptions (values : Values) : Session m Unit := do
  if values.isOn "verbose" then
    onConsole (·.writeError "\nReceived options:\n")
    let document ← orStop values.toDocument
    onConsole (·.writeError (document.text ++ "\n"))

/-- A call with settings, up to its end. -/
def sessionWith (values : Values) (configured : Settings) : Session m Unit := do
  onConsole fun console => { console with threshold := some (threshold values) }
  let settings ← orStop (← perform (configured.prepare machine.files))
  note .info s!"{programName} version {programVersion}, seed {settings.seed}"
  let (program, source) ← generateProgram values settings
  match values.text? "output" with
  | some path =>
    writeFile machine path program.text
    note .info s!"Program written into {path}"
  | none => onConsole (·.write program.text)
  if let some path := values.text? "trace_rng" then
    writeFile machine path (source.traceText (values.isOn "trace_raw"))
    note .info s!"{source.decisions.size} decisions written into {path}"

/-- A call with options that are settled, up to its end. -/
def settledSession (values : Values) : Session m Unit := do
  let (notice, result) ← perform
    (configure machine.files machine.directories (configFile values) (givenSettings values))
  onConsole (·.write notice)
  let configured ← orStop result
  showOptions values
  if values.isOn "write_config" then
    throw (.exit 0)
  sessionWith machine values configured.settings

/-- A call whose command line is read goes on with the options settled, if the seed is given. -/
theorem session_eq {arguments : List String} {parsed : Parsed} (accepted : parse arguments = .ok parsed)
    (seeded : (parsed.values.lookup "seed").isSome) (noVersion : parsed.values.isOn "version" = false)
    (noRest : parsed.rest = []) :
    session machine arguments = settledSession machine (settleOptions parsed.values) := by
  have read : (readOptions arguments : Session m Values) = pure parsed.values := by
    simp [readOptions, accepted, noVersion, noRest]
  have given : needsSeed parsed.values = false := by
    simp [needsSeed, Option.isNone_eq_false_iff.mpr seeded]
  have whole : session machine arguments =
      configureSession machine arguments >>= fun made => sessionWith machine made.1 made.2 := rfl
  rw [whole, configureSession, settledSession, read]
  simp only [given, pure_bind, bind_assoc, Bool.false_eq_true, if_false]
  refine bind_congr fun answer => bind_congr fun _ => bind_congr fun configured => ?_
  unfold showOptions
  cases (settleOptions parsed.values).isOn "verbose" <;>
    cases (settleOptions parsed.values).isOn "write_config" <;> simp

theorem similar_note (level : LogLevel) (message : String) :
    Similar (m := m) (note level message) (note level message) :=
  .onConsole fun first second same => by rw [Console.out_report, Console.out_report, same]

theorem similar_writeFile (path text : String) :
    Similar (writeFile machine path text) (writeFile machine path text) := .bind .perform fun _ => .orStop

omit [LawfulMonad m] in
theorem showOptions_of_off {values : Values} (off : values.isOn "verbose" = false) :
    (showOptions values : Session m Unit) = pure () := by
  simp [showOptions, off]

omit [LawfulMonad m] in
theorem showOptions_of_on {values : Values} (on : values.isOn "verbose") :
    (showOptions values : Session m Unit) =
      onConsole (·.writeError "\nReceived options:\n") >>= fun _ => orStop values.toDocument >>= fun document =>
        onConsole (·.writeError (document.text ++ "\n")) := by
  simp [showOptions, on]

variable {machine} {one other : Values} (alike : AlikeButVerbose one other)

include alike

theorem similar_generateProgram (settings : Settings) :
    Similar (m := m) (generateProgram one settings) (generateProgram other settings) := by
  unfold generateProgram
  rw [alike.text? (by decide)]
  refine .bind .orStop fun _ => .bind (.onConsole fun first second same => ?_) fun _ => .bind .orStop fun _ => .pure
  rw [Console.out_reports, Console.out_reports, same]

theorem similar_sessionWith (configured : Settings) :
    Similar (sessionWith machine one configured) (sessionWith machine other configured) := by
  unfold sessionWith
  rw [alike.text? (show "output" ≠ "verbose" by decide), alike.text? (show "trace_rng" ≠ "verbose" by decide),
    alike.isOn (by decide)]
  refine .bind (.onConsole fun _ _ same => same) fun _ => .bind .perform fun ready => .bind .orStop fun settings => ?_
  refine .bind (similar_note _ _) fun _ => .bind (similar_generateProgram alike settings) fun made => ?_
  have shown (text : String) : Similar (m := m) (onConsole (·.write text)) (onConsole (·.write text)) :=
    .onConsole fun first second same => congrArg (· ++ text) same
  have written (path text message : String) : Similar (m := m)
      (writeFile machine path text >>= fun _ => note .info message)
      (writeFile machine path text >>= fun _ => note .info message) :=
    .bind (similar_writeFile machine path text) fun _ => similar_note _ _
  cases other.text? "trace_rng" with
  | none =>
      cases other.text? "output" with
      | none => exact .bind (shown _) fun _ => .pure
      | some path => exact .bind (similar_writeFile machine _ _) fun _ => .bind (similar_note _ _) fun _ => .pure
  | some trace =>
      cases other.text? "output" with
      | none => exact .bind (shown _) fun _ => written _ _ _
      | some path =>
          exact .bind (similar_writeFile machine _ _) fun _ => .bind (similar_note _ _) fun _ => written _ _ _

/-- Calls show their options alike if both or neither of them are verbose, or if the options can be stored. -/
theorem similar_showOptions
    (same : one.isOn "verbose" = other.isOn "verbose" ∨ other.isOn "verbose" = false ∧ one.toDocument.isOk) :
    Similar (m := m) (showOptions one) (showOptions other) := by
  rcases same with same | ⟨off, stored⟩
  · cases on : other.isOn "verbose" with
    | false =>
        rw [showOptions_of_off (same.trans on), showOptions_of_off on]
        exact .pure
    | true =>
        have bothOn : one.lookup "verbose" = other.lookup "verbose" := by
          rw [eq_of_beq on, eq_of_beq (same.trans on)]
        have document : one.toDocument = other.toDocument := Values.toDocument_congr fun key =>
          if apart : key = "verbose" then apart ▸ bothOn else alike key apart
        rw [showOptions_of_on (same.trans on), showOptions_of_on on, document]
        exact .bind (.onConsole fun _ _ same => same) fun _ => .bind .orStop fun _ => .onConsole fun _ _ same => same
  · rw [showOptions_of_off off]
    cases on : one.isOn "verbose" with
    | false =>
        rw [showOptions_of_off on]
        exact .pure
    | true =>
        rw [showOptions_of_on on]
        cases made : one.toDocument with
        | error problem =>
            rw [made] at stored
            cases stored
        | ok document =>
            have given : (orStop (.ok document) : Session m Ini.Document) = pure document := rfl
            have twice : (pure () : Session m Unit) = pure () >>= fun _ => pure () := (pure_bind _ _).symm
            simp only [given, pure_bind]
            rw [twice]
            exact .bind (.skip fun _ => rfl) fun _ => .skip fun _ => rfl

/-- Calls with settled options go on alike. -/
theorem similar_settledSession
    (same : one.isOn "verbose" = other.isOn "verbose" ∨ other.isOn "verbose" = false ∧ one.toDocument.isOk) :
    Similar (settledSession machine one) (settledSession machine other) := by
  unfold settledSession
  rw [alike.configFile, alike.givenSettings, alike.isOn (show "write_config" ≠ "verbose" by decide)]
  refine .bind .perform fun answer => ?_
  refine .bind (.onConsole fun first second same => congrArg (· ++ answer.1) same) fun _ => .bind .orStop fun made => ?_
  refine .bind (similar_showOptions alike same) fun _ => ?_
  cases other.isOn "write_config" with
  | false => simpa using similar_sessionWith alike made.settings
  | true => exact .bind .stop fun _ => similar_sessionWith alike made.settings

omit alike in
/-- A verbose call whose options cannot be stored ends with that, after the configuration file. -/
theorem settledSession_of_unstorable (on : one.isOn "verbose") {problem : Problem}
    (unstorable : one.toDocument = .error problem) (console : Console) :
    ended <$> seen (settledSession machine one) console =
      (fun answer => (.finished 1, console.out ++ answer.1)) <$>
        configure machine.files machine.directories (configFile one) (givenSettings one) := by
  unfold settledSession
  rw [seen_perform_bind, map_bind, map_eq_pure_bind]
  refine bind_congr fun answer => ?_
  obtain ⟨notice, problem | made⟩ := answer
  · have fails : (orStop (.error problem) : Session m Configured) = throw (.problem problem) := rfl
    dsimp only
    rw [seen_onConsole_bind, fails, throw_bind, seen_throw, map_pure]
    rfl
  · have given : (orStop (.ok made) : Session m Configured) = pure made := rfl
    have fails : (orStop one.toDocument : Session m Ini.Document) = throw (.problem problem) := by
      rw [unstorable]
      rfl
    dsimp only
    rw [seen_onConsole_bind, given, pure_bind, showOptions_of_on on, fails, bind_assoc, seen_onConsole_bind, bind_assoc,
      throw_bind, seen_throw, map_pure]
    rfl

end

/-! ## Calls -/

section

variable {m : Type → Type} [Monad m] [LawfulMonad m] (machine : Machine m) {arguments : List String} {parsed : Parsed}
  (accepted : parse arguments = .ok parsed)

include accepted

theorem session_version (version : parsed.values.isOn "version") :
    session machine arguments = onConsole (·.write versionText) >>= fun _ => throw (.exit 0) := by
  have read : (readOptions arguments : Session m Values) =
      onConsole (·.write versionText) >>= fun _ => throw (.exit 0) := by
    simp [readOptions, accepted, version]
  rw [session, configureSession, read]
  simp only [bind_assoc, throw_bind]

theorem session_rest (noVersion : parsed.values.isOn "version" = false) (rest : parsed.rest ≠ []) :
    session machine arguments = onConsole (·.write helpText) >>= fun _ => throw (.exit 1) := by
  have read : (readOptions arguments : Session m Values) =
      onConsole (·.write helpText) >>= fun _ => throw (.exit 1) := by
    simp [readOptions, accepted, noVersion, rest]
  rw [session, configureSession, read]
  simp only [bind_assoc, throw_bind]

/-- A call that is made verbose does the same on the machine, ends in the same way and writes the same to the output,
unless it would not have shown its options without that, and they cannot be stored.  Then it stops after the
configuration file, with 1.

The options cannot be stored if a number with too many digits is among them, or words in which a percent sign stands
alone. -/
theorem verbose_changes_nothing (seeded : (parsed.values.lookup "seed").isSome) :
    let settled := settleOptions parsed.values
    let showsOnlyIfMadeTo := parsed.values.isOn "version" = false ∧ parsed.rest = [] ∧
      settled.isOn "quiet" = false ∧ settled.isOn "verbose" = false
    (¬ showsOnlyIfMadeTo ∨ settled.toDocument.isOk →
      visible <$> call machine ("--verbose" :: arguments) = visible <$> call machine arguments) ∧
    (showsOnlyIfMadeTo → ∀ problem, settled.toDocument = .error problem →
      visible <$> call machine ("--verbose" :: arguments) =
        (fun answer => (.finished 1, answer.1)) <$>
          configure machine.files machine.directories (configFile settled) (givenSettings settled)) ∧
    ((∃ problem, settled.toDocument = .error problem) ↔
      ∃ place ∈ keyGroups, ∃ value, settled.lookup place.1 = some value ∧
        ((∃ number, value = .number number ∧ ¬ Text.hasDecimalText number) ∨
          ∃ text error, value = .words text ∧ Ini.storable text = .error error)) := by
  obtain ⟨made, acceptedToo, verbose, rest⟩ := parse_verbose accepted
  have alike := settleOptions_alike verbose.alike
  have sameVersion := verbose.alike.isOn (show "version" ≠ "verbose" by decide)
  have seededToo : (made.values.lookup "seed").isSome := by
    rwa [verbose.alike "seed" (by decide)]
  intro settled showsOnlyIfMadeTo
  refine ⟨fun harmless => ?_, fun shows problem unstorable => ?_, Values.exists_problem_iff⟩
  · rw [visible_call, visible_call]
    cases version : parsed.values.isOn "version" with
    | true =>
        rw [session_version machine accepted version, session_version machine acceptedToo (sameVersion.trans version)]
    | false =>
        by_cases noRest : parsed.rest = []
        · rw [session_eq machine accepted seeded version noRest,
            session_eq machine acceptedToo seededToo (sameVersion.trans version) (rest.trans noRest)]
          have shown := verbose.shown_alike fun quiet off =>
            harmless.resolve_left (not_not_intro ⟨version, noRest, quiet, off⟩)
          exact congrArg (ended <$> ·) (similar_settledSession alike shown .empty .empty rfl)
        · rw [session_rest machine accepted version noRest,
            session_rest machine acceptedToo (sameVersion.trans version) (rest ▸ noRest)]
  · obtain ⟨version, noRest, quiet, -⟩ := shows
    obtain ⟨same, unstorableToo⟩ := verbose.exists_problem_iff.mpr ⟨problem, unstorable⟩
    have shown : (settleOptions made.values).isOn "verbose" := by
      rw [verbose.isOn_settled, ← settleOptions_quiet, quiet]
      rfl
    rw [visible_call, session_eq machine acceptedToo seededToo (sameVersion.trans version) (rest.trans noRest),
      settledSession_of_unstorable shown unstorableToo, alike.configFile, alike.givenSettings]
    simp only [Console.empty, String.empty_append]
    rfl

end

/-- A machine with a tree of files. -/
def treeMachine : Machine (StateM Files.FileTree) := ⟨Files.FileTree.system, ⟨none, none⟩, return 0⟩

/-- A small program is to be written into a file with a percent sign in its name. -/
def percentArguments : List String :=
  ["--seed", "0", "--max-funcs", "1", "--max-expr-complexity", "1", "--max-block-size", "1", "--max-block-depth", "1",
    "--stop-by-stmt", "1", "--no-compute-hash", "--output", "50%.c"]

theorem parse_percentArguments :
    ∃ parsed, parse percentArguments = .ok parsed ∧ (parsed.values.lookup "seed").isSome ∧
      parsed.values.isOn "version" = false ∧ parsed.rest = [] ∧ (settleOptions parsed.values).isOn "quiet" = false ∧
      (settleOptions parsed.values).isOn "verbose" = false ∧
      ∃ problem, (settleOptions parsed.values).toDocument = .error problem := by
  have fits : (parse percentArguments).toOption.any fun parsed =>
      (parsed.values.lookup "seed").isSome && ! parsed.values.isOn "version" && parsed.rest.isEmpty &&
        ! (settleOptions parsed.values).isOn "quiet" && ! (settleOptions parsed.values).isOn "verbose" &&
        ! (settleOptions parsed.values).toDocument.isOk := by
    decide +kernel
  obtain ⟨parsed, accepted, fits⟩ := exists_of_toOption_any fits
  simp only [Bool.and_eq_true, Bool.not_eq_true', List.isEmpty_iff] at fits
  obtain ⟨⟨⟨⟨⟨seeded, version⟩, rest⟩, quiet⟩, verbose⟩, unstorable⟩ := fits
  exact ⟨parsed, accepted, seeded, version, rest, quiet, verbose, exists_of_not_isOk unstorable⟩

/-- Nothing changes for a call that is given the seed only, and one that is to write into a file with a percent sign in
its name stops. -/
theorem verbose_changes_nothing_percent :
    (∃ parsed, parse ["--seed", "0"] = .ok parsed ∧ (parsed.values.lookup "seed").isSome ∧
      visible <$> call treeMachine ["--verbose", "--seed", "0"] = visible <$> call treeMachine ["--seed", "0"]) ∧
    ∃ parsed problem, parse percentArguments = .ok parsed ∧ (parsed.values.lookup "seed").isSome ∧
      (settleOptions parsed.values).toDocument = .error problem ∧
      visible <$> call treeMachine ("--verbose" :: percentArguments) =
        (fun answer => (.finished 1, answer.1)) <$>
          configure treeMachine.files treeMachine.directories (configFile (settleOptions parsed.values))
            (givenSettings (settleOptions parsed.values)) := by
  constructor
  · have fits : (parse ["--seed", "0"]).toOption.any fun parsed =>
        (parsed.values.lookup "seed").isSome && (settleOptions parsed.values).toDocument.isOk := by
      decide +kernel
    obtain ⟨parsed, accepted, fits⟩ := exists_of_toOption_any fits
    obtain ⟨seeded, stores⟩ := Bool.and_eq_true_iff.mp fits
    exact ⟨parsed, accepted, seeded, (verbose_changes_nothing treeMachine accepted seeded).1 (.inr stores)⟩
  · obtain ⟨parsed, accepted, seeded, version, rest, quiet, verbose, problem, stores⟩ := parse_percentArguments
    exact ⟨parsed, problem, accepted, seeded, stores,
      (verbose_changes_nothing treeMachine accepted seeded).2.1 ⟨version, rest, quiet, verbose⟩ problem stores⟩

/-- The program is written into the file with a percent sign in its name, but not if the call is made verbose. -/
theorem verbose_call_stops :
    ¬ ∀ (arguments : List String) (parsed : Parsed), parse arguments = .ok parsed →
      (parsed.values.lookup "seed").isSome →
        visible <$> call treeMachine ("--verbose" :: arguments) = visible <$> call treeMachine arguments := by
  intro same
  have writes : (call treeMachine percentArguments .empty).1.1 = .finished 0 := by decide +kernel
  have stops : (call treeMachine ("--verbose" :: percentArguments) .empty).1.1 = .finished 1 := by decide +kernel
  obtain ⟨parsed, accepted, seeded, -⟩ := parse_percentArguments
  have alike := congrArg (fun part : StateM Files.FileTree _ => (part .empty).1.1)
    (same percentArguments parsed accepted seeded)
  have ending (action : StateM Files.FileTree (Ending × Console)) :
      ((visible <$> action) Files.FileTree.empty).1.1 = (action Files.FileTree.empty).1.1 := rfl
  rw [ending, ending, stops, writes] at alike
  cases alike

end RandomC.CommandLine
