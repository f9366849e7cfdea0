import RandomC.CommandLine.Application
import RandomC.Proofs.Storing

/-!
# Recorded options

Reading a command line records the options in it.  Two readings that begin with records which differ in whether the
call is verbose, and nothing else, stay like this to their end.
-/

namespace RandomC.CommandLine

theorem Values.lookup_record (key other : String) (value : Settings.Value) (values : Values) :
    (values.record key value).lookup other = if other = key then some value else values.lookup other := by
  have kept (apart : other ≠ key) : (values.filter (·.1 != key)).lookup other = values.lookup other := by
    induction values with
    | nil => rfl
    | cons entry rest ih =>
        rw [List.filter_cons]
        split
        · rw [List.lookup_cons, List.lookup_cons, ih]
        · next removed =>
            have same : entry.1 = key := by simpa using removed
            rw [ih, List.lookup_cons, same, beq_false_of_ne apart]
  by_cases same : other = key
  · simp [Values.record, same]
  · rw [Values.record, List.lookup_cons, beq_false_of_ne same, if_neg same]
    exact kept same

theorem Values.toDocument_congr {one other : Values} (same : ∀ key, one.lookup key = other.lookup key) :
    one.toDocument = other.toDocument := by
  simp only [toDocument, same]

/-- The values are recorded alike, except that one of them may be verbose and the other not. -/
def AlikeButVerbose (one other : Values) : Prop := ∀ key, key ≠ "verbose" → one.lookup key = other.lookup key

namespace AlikeButVerbose

variable {one other : Values} (alike : AlikeButVerbose one other)

include alike

theorem isOn {key : String} (apart : key ≠ "verbose") : one.isOn key = other.isOn key := by
  rw [Values.isOn, Values.isOn, alike key apart]

theorem text? {key : String} (apart : key ≠ "verbose") : one.text? key = other.text? key := by
  rw [Values.text?, Values.text?, alike key apart]

theorem record (key : String) (value : Settings.Value) :
    AlikeButVerbose (one.record key value) (other.record key value) := by
  intro name apart
  rw [Values.lookup_record, Values.lookup_record, alike name apart]

theorem configFile : configFile one = configFile other := by
  rw [CommandLine.configFile, CommandLine.configFile, alike.text? (by decide), alike.isOn (by decide),
    alike.isOn (by decide)]

theorem givenSettings : givenSettings one = givenSettings other := by
  have apart : ∀ setting ∈ Settings.table, setting.key ≠ "verbose" := by
    have keys : "verbose" ∉ Settings.table.map (·.key) := by decide
    exact fun setting member same => keys (same ▸ List.mem_map_of_mem member)
  refine List.filterMap_congr fun setting member => ?_
  rw [alike setting.key (apart setting member)]

end AlikeButVerbose

/-! ## Command lines -/

/-- Both are refused for the same reason, or both give values that are related. -/
inductive Alongside {α : Type} (related : α → α → Prop) : Except ParseStop α → Except ParseStop α → Prop where
  | refused (stop : ParseStop) : Alongside related (.error stop) (.error stop)
  | given {one other : α} : related one other → Alongside related (.ok one) (.ok other)

theorem Alongside.bind {α β : Type} {related : α → α → Prop} {also : β → β → Prop} {one other : Except ParseStop α}
    {next following : α → Except ParseStop β} (start : Alongside related one other)
    (rest : ∀ first second, related first second → Alongside also (next first) (following second)) :
    Alongside also (one >>= next) (other >>= following) := by
  cases start with
  | refused stop => exact .refused stop
  | given here => exact rest _ _ here

/-- The first values are verbose, and those of the other ones are the same or differ in this only. -/
structure MadeVerbose (one other : Values) : Prop where
  alike : AlikeButVerbose one other
  isOn : one.isOn "verbose"
  flag : ∃ isOn, other.lookup "verbose" = some (.flag isOn)

/-- Whether a call is verbose is recorded by a switch that makes it so. -/
theorem action_of_verbose : ∀ option ∈ options, option.key = "verbose" → option.action = .switch true := by
  decide +kernel

theorem mem_of_findLong {name : String} {option : OptionSpec} (found : findLong name = .ok option) :
    option ∈ options := by
  unfold findLong at found
  dsimp only at found
  split at found
  · next same =>
      cases found
      exact List.mem_of_find?_eq_some same
  · split at found
    · next same =>
        cases found
        have single : option ∈ [option] := List.mem_singleton_self _
        rw [← same] at single
        exact List.mem_of_mem_filter single
    · cases found
    · cases found

theorem mem_of_findLetter {letter : Char} {option : OptionSpec} (found : findLetter letter = .ok option) :
    option ∈ options := by
  unfold findLetter at found
  split at found
  · next same =>
      cases found
      exact List.mem_of_find?_eq_some same
  · cases found

namespace MadeVerbose

variable {one other : Values} (verbose : MadeVerbose one other)

include verbose

theorem record {key : String} {value : Settings.Value} (fits : key = "verbose" → value = .flag true) :
    MadeVerbose (one.record key value) (other.record key value) where
  alike := verbose.alike.record key value
  isOn := by
    rw [Values.isOn, Values.lookup_record]
    split
    · next same => simp [fits same.symm]
    · exact verbose.isOn
  flag := by
    rw [Values.lookup_record]
    split
    · next same => exact ⟨true, congrArg some (fits same.symm)⟩
    · exact verbose.flag

theorem recordSwitch {option : OptionSpec} (known : option ∈ options) :
    Alongside MadeVerbose (recordSwitch option one) (recordSwitch option other) := by
  unfold CommandLine.recordSwitch
  cases action : option.action with
  | switch value =>
      refine .given (verbose.record fun same => ?_)
      have fixed := action_of_verbose option known same
      rw [action] at fixed
      cases fixed
      rfl
  | help | number | words => exact .refused _

theorem recordValue {option : OptionSpec} (known : option ∈ options) (takes : option.action.takesValue)
    (spelled value : String) :
    Alongside MadeVerbose (recordValue option spelled value one) (recordValue option spelled value other) := by
  have apart : option.key ≠ "verbose" := by
    intro same
    rw [action_of_verbose option known same] at takes
    cases takes
  unfold CommandLine.recordValue
  split
  · split
    · exact .given (verbose.record fun same => absurd same apart)
    · exact .refused _
  · exact .given (verbose.record fun same => absurd same apart)

end MadeVerbose

/-- Both have come to the same place, where a value for the same option may have to follow. -/
structure ReadAlike (one other : Values × Option (OptionSpec × String)) : Prop where
  verbose : MadeVerbose one.1 other.1
  wanted : one.2 = other.2
  takes : ∀ wanted ∈ one.2, wanted.1 ∈ options ∧ wanted.1.action.takesValue

section

variable {one other : Values}

theorem readLetters_alongside (verbose : MadeVerbose one other) (letters : List Char) :
    Alongside ReadAlike (readLetters one letters) (readLetters other letters) := by
  induction letters generalizing one other with
  | nil => exact .given ⟨verbose, rfl, fun _ none => by cases none⟩
  | cons letter rest ih =>
      unfold readLetters
      cases found : findLetter letter with
      | error stop => exact .refused stop
      | ok option =>
          have known := mem_of_findLetter found
          simp only [bind, Except.bind]
          cases takes : option.action.takesValue with
          | false => exact .bind (verbose.recordSwitch known) fun _ _ here => ih here
          | true =>
              cases rest.isEmpty with
              | true => exact .given ⟨verbose, rfl, fun _ same => by cases same; exact ⟨known, takes⟩⟩
              | false =>
                  exact .bind (verbose.recordValue known takes _ _) fun _ _ here =>
                    .given ⟨here, rfl, fun _ none => by cases none⟩

theorem readLong_alongside (verbose : MadeVerbose one other) (argument : String) :
    Alongside ReadAlike (readLong one argument) (readLong other argument) := by
  unfold readLong
  dsimp only
  cases found : findLong (String.ofList (argument.toList.takeWhile (· != '='))) with
  | error stop => exact .refused stop
  | ok option =>
      have known := mem_of_findLong found
      simp only [bind, Except.bind]
      split
      · cases takes : option.action.takesValue with
        | false => exact .refused _
        | true =>
            exact .bind (verbose.recordValue known takes _ _) fun _ _ here =>
              .given ⟨here, rfl, fun _ none => by cases none⟩
      · cases takes : option.action.takesValue with
        | false =>
            exact .bind (verbose.recordSwitch known) fun _ _ here => .given ⟨here, rfl, fun _ none => by cases none⟩
        | true => exact .given ⟨verbose, rfl, fun _ same => by cases same; exact ⟨known, takes⟩⟩

theorem readOption_none {argument : String} (none : readOption one argument = none) :
    readOption other argument = Option.none := by
  unfold readOption at none ⊢
  split at none
  · cases none
  · cases none
  · rfl

/-- An option that is read is read alike. -/
theorem readOption_alongside (verbose : MadeVerbose one other) {argument : String}
    {here : Except ParseStop (Values × Option (OptionSpec × String))} (read : readOption one argument = some here) :
    ∃ there, readOption other argument = some there ∧ Alongside ReadAlike here there := by
  unfold readOption at read ⊢
  split at read
  · cases read
    exact ⟨_, rfl, readLong_alongside verbose argument⟩
  · cases read
    exact ⟨_, rfl, readLetters_alongside verbose _⟩
  · cases read

/-- Where one of two gives values, so does the other. -/
theorem Alongside.of_ok {values : Values} {wanted : Option (OptionSpec × String)}
    {there : Except ParseStop (Values × Option (OptionSpec × String))}
    (alongside : Alongside ReadAlike (.ok (values, wanted)) there) :
    ∃ also, there = .ok (also, wanted) ∧ MadeVerbose values also ∧
      ∀ found ∈ wanted, found.1 ∈ options ∧ found.1.action.takesValue := by
  cases alongside with
  | @given _ pair alike =>
      obtain ⟨also, wants⟩ := pair
      obtain ⟨verbose, same, takes⟩ := alike
      cases same
      exact ⟨also, rfl, verbose, takes⟩

/-- A verbose call and one that may not be are read alike. -/
theorem readArguments_alongside (verbose : MadeVerbose one other) (others arguments : List String) :
    Alongside (fun here there : Parsed => MadeVerbose here.values there.values ∧ here.rest = there.rest)
      (readArguments one others arguments) (readArguments other others arguments) := by
  fun_induction readArguments one others arguments generalizing other with
  | case1 one others => exact .given ⟨verbose, rfl⟩
  | case2 one others rest =>
      rw [readArguments, if_pos rfl]
      exact .given ⟨verbose, rfl⟩
  | case3 one others argument rest isOption none ih =>
      rw [readArguments, if_neg isOption, readOption_none none]
      exact ih verbose
  | case4 one others argument rest isOption stop read =>
      obtain ⟨there, same, alongside⟩ := readOption_alongside verbose read
      rw [readArguments, if_neg isOption, same]
      cases alongside
      exact .refused stop
  | case5 one others argument rest isOption next read ih =>
      obtain ⟨there, same, alongside⟩ := readOption_alongside verbose read
      obtain ⟨also, rfl, verbose, -⟩ := alongside.of_ok
      rw [readArguments, if_neg isOption, same]
      exact ih verbose
  | case6 one others argument isOption next option spelled read =>
      obtain ⟨there, same, alongside⟩ := readOption_alongside verbose read
      obtain ⟨also, rfl, verbose, -⟩ := alongside.of_ok
      rw [readArguments, if_neg isOption, same]
      exact .refused _
  | case7 one others argument isOption next option spelled read value rest stop refused =>
      obtain ⟨there, same, alongside⟩ := readOption_alongside verbose read
      obtain ⟨also, rfl, verbose, takes⟩ := alongside.of_ok
      obtain ⟨known, takesValue⟩ := takes _ rfl
      have recorded := verbose.recordValue known takesValue spelled value
      rw [readArguments, if_neg isOption, same]
      rw [refused] at recorded
      dsimp only
      generalize recordValue option spelled value also = result at recorded
      cases recorded
      exact .refused stop
  | case8 one others argument isOption next option spelled read value rest after records ih =>
      obtain ⟨there, same, alongside⟩ := readOption_alongside verbose read
      obtain ⟨also, rfl, verbose, takes⟩ := alongside.of_ok
      obtain ⟨known, takesValue⟩ := takes _ rfl
      have recorded := verbose.recordValue known takesValue spelled value
      rw [readArguments, if_neg isOption, same]
      rw [records] at recorded
      dsimp only
      generalize recordValue option spelled value also = result at recorded
      cases recorded with
      | given here => exact ih here

end

/-- With the option in front, a command line is read alike, as that of a verbose call. -/
theorem parse_verbose {arguments : List String} {parsed : Parsed} (accepted : parse arguments = .ok parsed) :
    ∃ made, parse ("--verbose" :: arguments) = .ok made ∧ MadeVerbose made.values parsed.values ∧
      made.rest = parsed.rest := by
  have read : readOption initialValues "--verbose" =
      some (.ok (initialValues.record "verbose" (.flag true), none)) := by
    decide +kernel
  have start : MadeVerbose (initialValues.record "verbose" (.flag true)) initialValues :=
    ⟨fun key apart => by rw [Values.lookup_record, if_neg apart], by decide, ⟨false, by decide⟩⟩
  have alongside := readArguments_alongside start [] arguments
  have first : parse ("--verbose" :: arguments) =
      readArguments (initialValues.record "verbose" (.flag true)) [] arguments := by
    rw [parse, readArguments, if_neg (by decide), read]
  rw [parse] at accepted
  rw [accepted] at alongside
  rw [first]
  generalize readArguments (initialValues.record "verbose" (.flag true)) [] arguments = result at alongside
  cases alongside with
  | given here => exact ⟨_, rfl, here⟩

theorem Values.isOn_record (key other : String) (value : Settings.Value) (values : Values) :
    (values.record key value).isOn other = if other = key then value == .flag true else values.isOn other := by
  rw [isOn, lookup_record]
  split <;> rfl

theorem settleOptions_quiet (values : Values) : (settleOptions values).isOn "quiet" = values.isOn "quiet" := by
  simp only [settleOptions, apply_ite (Values.isOn · "quiet"), Values.isOn_record]
  simp

/-- A quiet call is not verbose, and else one that is debug is. -/
theorem settleOptions_verbose (values : Values) :
    (settleOptions values).lookup "verbose" =
      if values.isOn "quiet" then some (.flag false)
      else if values.isOn "debug" then some (.flag true) else values.lookup "verbose" := by
  unfold settleOptions
  cases quiet : values.isOn "quiet" <;> cases debug : values.isOn "debug" <;>
    simp [apply_ite (List.lookup "verbose"), Values.isOn_record, Values.lookup_record, debug]

theorem settleOptions_alike {one other : Values} (alike : AlikeButVerbose one other) :
    AlikeButVerbose (settleOptions one) (settleOptions other) := by
  have step {one other : Values} (alike : AlikeButVerbose one other) {key : String} (apart : key ≠ "verbose")
      {f : Values → Values}
      (kept : ∀ {one other : Values}, AlikeButVerbose one other → AlikeButVerbose (f one) (f other)) :
      AlikeButVerbose (if one.isOn key then f one else one) (if other.isOn key then f other else other) := by
    rw [alike.isOn apart]
    split
    · exact kept alike
    · exact alike
  have quiet := step alike (show "quiet" ≠ "verbose" by decide) fun alike =>
    (alike.record "debug" (.flag false)).record "verbose" (.flag false)
  have debug := step quiet (show "debug" ≠ "verbose" by decide) fun alike => alike.record "verbose" (.flag true)
  exact step debug (show "dfs_exhaustive" ≠ "verbose" by decide) fun alike => alike.record "random_based" (.flag false)

/-- Whether a call is verbose can always be stored. -/
theorem AlikeButVerbose.obstacle_iff {one other : Values} (alike : AlikeButVerbose one other)
    (oneFlag : ∃ isOn, one.lookup "verbose" = some (.flag isOn))
    (otherFlag : ∃ isOn, other.lookup "verbose" = some (.flag isOn)) :
    Settings.Row.obstacleIn? one.rows = none ↔ Settings.Row.obstacleIn? other.rows = none := by
  have free {values : Values} (flag : ∃ isOn, values.lookup "verbose" = some (.flag isOn)) :
      Settings.Row.obstacleIn? values.rows = none ↔
        ∀ place ∈ keyGroups, place.1 ≠ "verbose" →
          ∀ value, values.lookup place.1 = some value → value.obstacle? = none := by
    rw [Values.obstacleIn?_rows]
    refine ⟨fun all place member _ => all place member, fun others place member value found => ?_⟩
    by_cases apart : place.1 = "verbose"
    · obtain ⟨isOn, flag⟩ := flag
      rw [apart, flag] at found
      cases found
      rfl
    · exact others place member apart value found
  rw [free oneFlag, free otherFlag]
  refine forall₃_congr fun place member apart => ?_
  rw [alike place.1 apart]

namespace MadeVerbose

variable {one other : Values} (verbose : MadeVerbose one other)

include verbose

/-- Settled, the first values are verbose unless they are quiet. -/
theorem lookup_settled : (settleOptions one).lookup "verbose" = some (.flag (! other.isOn "quiet")) := by
  rw [settleOptions_verbose, verbose.alike.isOn (show "quiet" ≠ "verbose" by decide), eq_of_beq verbose.isOn]
  cases other.isOn "quiet" <;> simp

theorem isOn_settled : (settleOptions one).isOn "verbose" = ! other.isOn "quiet" := by
  rw [Values.isOn, verbose.lookup_settled]
  cases other.isOn "quiet" <;> rfl

theorem lookup_settled_other : ∃ isOn, (settleOptions other).lookup "verbose" = some (.flag isOn) := by
  rw [settleOptions_verbose]
  split
  · exact ⟨false, rfl⟩
  · split
    · exact ⟨true, rfl⟩
    · exact verbose.flag

/-- Settled, both can be stored or none of them. -/
theorem exists_problem_iff :
    (∃ problem, (settleOptions one).toDocument = .error problem) ↔
      ∃ problem, (settleOptions other).toDocument = .error problem := by
  rw [Values.exists_problem, Values.exists_problem]
  exact not_congr ((settleOptions_alike verbose.alike).obstacle_iff ⟨_, verbose.lookup_settled⟩
    verbose.lookup_settled_other)

/-- Both show their options or none of them, unless only the first one shows them, and they can be stored. -/
theorem shown_alike
    (harmless : (settleOptions other).isOn "quiet" = false → (settleOptions other).isOn "verbose" = false →
      (settleOptions other).toDocument.isOk) :
    (settleOptions one).isOn "verbose" = (settleOptions other).isOn "verbose" ∨
      (settleOptions other).isOn "verbose" = false ∧ (settleOptions one).toDocument.isOk := by
  rw [settleOptions_quiet] at harmless
  rw [verbose.isOn_settled]
  cases quiet : other.isOn "quiet" with
  | true =>
      left
      rw [Values.isOn, settleOptions_verbose, quiet]
      rfl
  | false =>
      cases shown : (settleOptions other).isOn "verbose" with
      | true => exact .inl rfl
      | false =>
          refine .inr ⟨rfl, ?_⟩
          have isOk := harmless quiet shown
          cases document : (settleOptions one).toDocument with
          | ok document => rfl
          | error problem =>
              obtain ⟨same, unstorable⟩ := verbose.exists_problem_iff.mp ⟨problem, document⟩
              rw [unstorable] at isOk
              cases isOk

end MadeVerbose

/-- Recorded values cannot be stored if a number with too many digits is among them, or words in which a percent sign
stands alone. -/
theorem Values.exists_problem_iff {values : Values} :
    (∃ problem, values.toDocument = .error problem) ↔
      ∃ place ∈ keyGroups, ∃ value, values.lookup place.1 = some value ∧
        ((∃ number, value = .number number ∧ ¬ Text.hasDecimalText number) ∨
          ∃ text error, value = .words text ∧ Ini.storable text = .error error) := by
  rw [exists_problem, ne_eq, obstacleIn?_rows]
  push Not
  refine exists_congr fun place => and_congr_right fun _ => exists_congr fun value => and_congr_right fun _ => ?_
  exact Settings.Value.obstacle?_ne_none

end RandomC.CommandLine
