import Mathlib.Control.Traversable.Basic
import RandomC.CommandLine.Application
import RandomC.Proofs.BlindBody
import RandomC.Proofs.BlindSetup
import RandomC.Proofs.Names
import RandomC.Proofs.Rollback

/-!
# Tracing

A source that traces records the decisions made with its values, and is otherwise the same source.  So the
runs that start on a tracing source and on a silent one go through the same states, and end in the same way;
only a record that cannot be written ends the call that asked for it.
-/

namespace RandomC

namespace Random

/-! ## Sources -/

/-- The source without its record, as it is when it does not trace. -/
def Source.silent (source : Source) : Source := { source with tracing := false, decisions := #[] }

@[simp] theorem silent_record (decision : Decision) (source : Source) :
    (source.record decision).silent = source.silent := by
  unfold Source.record
  split <;> rfl

/-- Sources that are related stand at the same position and show the same values, and they stay related when
something is drawn from both. -/
structure Steady (related : Source → Source → Prop) : Prop where
  position {first second : Source} : related first second → first.position = second.position
  draw {α : Type} {action : StateM Source α} {first second : Source} : Draws action → related first second →
    (action first).1 = (action second).1 ∧ related (action first).2 (action second).2

/-- The sources of two streams are related, and both streams record the same readings. -/
def Shared (related : Source → Source → Prop) (first second : Stream) : Prop :=
  related first.source second.source ∧ first.readings = second.readings

theorem Steady.agreeing {related : Source → Source → Prop} (steady : Steady related) :
    Agreeing (Shared related) where
  draw {_ action first second} draws := by
    rintro ⟨sources, readings⟩
    obtain ⟨same, after⟩ := steady.draw draws sources
    refine ⟨same, after, ?_⟩
    simp only [Stream.draw, steady.position sources, steady.position after, readings]

/-- Draws do not tell sources apart that look the same, if the look of a source is its position and what draws make
of it. -/
theorem steady_of_look {look : Source → Source} (position : ∀ source, (look source).position = source.position)
    (next : ∀ source, look (Source.next source).2 = (Source.next (look source)).2)
    (record : ∀ decision first second, look first = look second →
      look (first.record decision) = look (second.record decision)) :
    Steady fun first second => look first = look second where
  position {first second} same := by rw [← position, same, position]
  draw {_ action first second} draws same := by
    induction draws generalizing first second with
    | pure value => exact ⟨rfl, same⟩
    | next =>
        have here : first.position = second.position := by rw [← position, same, position]
        have state : first.state = second.state := congrArg Position.state here
        refine ⟨congrArg (output ∘ advance) state, ?_⟩
        rw [next, next, same]
    | record decision => exact ⟨rfl, record decision first second same⟩
    | @bind _ _ start next _ _ ihStart ihNext =>
        obtain ⟨value, begun⟩ := ihStart same
        change (next (start first).1 (start first).2).1 = (next (start second).1 (start second).2).1 ∧
          look (next (start first).1 (start first).2).2 = look (next (start second).1 (start second).2).2
        rw [← value]
        exact ihNext (start first).1 begun

/-- A draw does not look at the record. -/
theorem steady_silent : Steady fun first second => first.silent = second.silent :=
  steady_of_look (fun _ => rfl) (fun _ => rfl) fun decision first second same => by
    rw [silent_record, silent_record, same]

/-- A source that does not trace records nothing. -/
theorem steady_recordless :
    Steady fun source other => other = source ∧ source.tracing = false ∧ source.decisions = #[] where
  position := by
    rintro source _ ⟨rfl, -⟩
    rfl
  draw {_ action _ source} draws := by
    rintro ⟨rfl, untraced⟩
    refine ⟨rfl, rfl, ?_⟩
    induction draws generalizing source with
    | pure value => exact untraced
    | next => exact untraced
    | record decision =>
        change (source.record decision).tracing = false ∧ (source.record decision).decisions = #[]
        rw [Source.record, if_neg (by simp [untraced.1])]
        exact untraced
    | bind _ _ ihStart ihNext => exact ihNext _ (ihStart untraced)

end Random

/-! ## Runs -/

/-- Two runs end in the same way, with sources that are related. -/
structure Outcome.Agrees (related : Random.Source → Random.Source → Prop) (first second : Outcome) : Prop where
  result : first.result = second.result
  source : related first.source second.source
  readings : first.readings = second.readings
  log : first.log = second.log

/-- A step that sees of the stream only what it draws ends in the same way on sources that are related. -/
theorem Blind.shared {σ α : Type} [Drawing σ] {step : Step σ α} (blind : Blind step)
    {related : Random.Source → Random.Source → Prop} (steady : Random.Steady related) (first second : σ)
    (sources : related (Drawing.stream first).source (Drawing.stream second).source)
    (readings : (Drawing.stream first).readings = (Drawing.stream second).readings)
    (rest : second = Drawing.withStream (Drawing.stream second) first) :
    (step first).1 = (step second).1 ∧ Alike (Random.Shared related) (step first).2 (step second).2 :=
  blind _ first second steady.agreeing ⟨⟨sources, readings⟩, rest⟩

/-- States that differ only in their streams have the same other parts. -/
theorem Alike.part_eq {σ β : Type} [Drawing σ] {related : Random.Stream → Random.Stream → Prop}
    {first second : σ} (alike : Alike related first second) (part : σ → β)
    (unseen : ∀ stream state, part (Drawing.withStream stream state) = part state) : part second = part first := by
  rw [alike.rest, unseen]

theorem agrees_generateWritable (settings : Settings) {related : Random.Source → Random.Source → Prop}
    (steady : Random.Steady related) {first second : Random.Source} (start : related first second) :
    Outcome.Agrees related (generateWritable settings first) (generateWritable settings second) := by
  have composites := (Composite.blind_generate settings
    (CType.scalars settings.intSize settings.longLong)).shared steady
    { Composite.State.initial first with sheet := headedSheet settings.seed }
    { Composite.State.initial second with sheet := headedSheet settings.seed } start rfl rfl
  unfold generateWritable
  dsimp only
  revert composites
  rcases Composite.generate settings _ _ with ⟨failure | layouts, composites⟩ <;>
    rcases Composite.generate settings _ _ with ⟨_ | _, others⟩ <;> rintro ⟨⟨⟩, made⟩
  · exact ⟨rfl, made.streams.1, made.streams.2, rfl⟩
  · have sheet := made.part_eq Composite.State.sheet fun _ _ => rfl
    have building := (blind_buildEnvironment settings
      (CType.scalars settings.intSize settings.longLong) layouts).shared steady
      ⟨composites.source, composites.sheet, .empty⟩ ⟨others.source, composites.sheet, .empty⟩
      made.streams.1 rfl rfl
    dsimp only at sheet ⊢
    rw [sheet]
    revert building
    rcases buildEnvironment settings _ layouts _ with ⟨failure | _, building⟩ <;>
      rcases buildEnvironment settings _ layouts _ with ⟨_ | _, reached⟩ <;> rintro ⟨⟨⟩, built⟩
    · exact ⟨rfl, built.streams.1, congrArg₂ _ built.streams.2 made.streams.2, rfl⟩
    · have env := built.part_eq Environment.Building.env fun _ _ => rfl
      have sheet := built.part_eq Environment.Building.sheet fun _ _ => rfl
      let setup : Setup := ⟨settings, CType.scalars settings.intSize settings.longLong, layouts, building.env⟩
      have running := (blind_run setup).shared steady
        (.start setup building.source (firstEvents settings layouts building.env))
        (.start setup reached.source (firstEvents settings layouts building.env)) built.streams.1 rfl rfl
      have readings := congrArg₂ (· ++ ·) built.streams.2 made.streams.2
      dsimp only at env sheet ⊢
      rw [env, sheet]
      revert running
      rcases run setup _ with ⟨failure | _, world⟩ <;> rcases run setup _ with ⟨_ | _, last⟩ <;>
        rintro ⟨⟨⟩, ran⟩
      · have log := ran.part_eq World.log fun _ _ => rfl
        exact ⟨rfl, ran.streams.1, congrArg₂ _ ran.streams.2 readings, log.symm⟩
      · have flow := ran.part_eq World.flow fun _ _ => rfl
        have log := ran.part_eq World.log fun _ _ => rfl
        have drawn : world.source.drawn = last.source.drawn :=
          congrArg Random.Position.drawn (steady.position ran.streams.1)
        dsimp only at flow log ⊢
        rw [flow, log, ← drawn]
        exact ⟨rfl, ran.streams.1, congrArg₂ _ ran.streams.2 readings, rfl⟩

/-- Runs that start on related sources end in the same way. -/
theorem agrees_generate (settings : Settings) {related : Random.Source → Random.Source → Prop}
    (steady : Random.Steady related) {first second : Random.Source} (start : related first second) :
    Outcome.Agrees related (generate settings first) (generate settings second) := by
  unfold generate
  split
  · exact agrees_generateWritable settings steady start
  · exact ⟨rfl, start, rfl, rfl⟩

/-! ## Lines -/

namespace Random

/-- The characters up to the first detail of a decision, ` tries=` or ` raw=`. -/
def cutDetails : List Char → List Char
  | [] => []
  | c :: rest =>
    if " tries=".toList.isPrefixOf (c :: rest) || " raw=".toList.isPrefixOf (c :: rest) then []
    else c :: cutDetails rest

/-- A line of a detailed trace without the details. -/
def withoutDetails (line : String) : String := String.ofList (cutDetails line.toList)

/-- No detail can begin in the text. -/
def Undetailed (text : String) : Prop := ∀ c ∈ text.toList, c ≠ 't' ∧ c ≠ 'r'

theorem Undetailed.append {text more : String} (first : Undetailed text) (second : Undetailed more) :
    Undetailed (text ++ more) := by
  intro c member
  rw [String.toList_append, List.mem_append] at member
  exact member.elim (first c) (second c)

/-- Whether a text is undetailed can be computed. -/
theorem undetailed_of_all {text : String} (plain : text.toList.all fun c => c ≠ 't' && c ≠ 'r') :
    Undetailed text := by
  simpa [Undetailed] using plain

theorem undetailed_nat (number : Nat) : Undetailed (toString number) := by
  intro c member
  change c ∈ number.repr.toList at member
  rw [Nat.repr_eq_ofList_toDigits, String.toList_ofList] at member
  have digit := Nat.isDigit_of_mem_toDigits (by decide) (by decide) member
  constructor <;> rintro rfl <;> cases digit

theorem undetailed_int (number : Int) : Undetailed (toString number) := by
  cases number with
  | ofNat number => exact undetailed_nat number
  | negSucc number =>
      have sign : Undetailed "-" := undetailed_of_all (by decide)
      exact sign.append (undetailed_nat (number + 1))

theorem cutDetails_append {plain details : List Char} (undetailed : ∀ c ∈ plain, c ≠ 't' ∧ c ≠ 'r')
    (begins : cutDetails (' ' :: details) = []) : cutDetails (plain ++ ' ' :: details) = plain := by
  induction plain with
  | nil => exact begins
  | cons c rest ih =>
      have later : ∀ other ∈ rest, other ≠ 't' ∧ other ≠ 'r' :=
        fun other member => undetailed other (List.mem_cons_of_mem c member)
      -- A detail that began with `c` would go on with its second character, which stands nowhere here.
      have none : (" tries=".toList.isPrefixOf (c :: (rest ++ ' ' :: details)) ||
          " raw=".toList.isPrefixOf (c :: (rest ++ ' ' :: details))) = false := by
        cases rest with
        | nil => simp [List.isPrefixOf]
        | cons next rest =>
          have other := later next List.mem_cons_self
          simp [List.isPrefixOf, other.1.symm, other.2.symm]
      rw [List.cons_append, cutDetails, none, ih later]
      rfl

theorem undetailed_summary (decision : Decision) : Undetailed decision.summary := by
  cases decision with
  | bounded bound value tries raw =>
      exact (((undetailed_of_all (by decide)).append (undetailed_int bound)).append
        (undetailed_of_all (by decide))).append (undetailed_nat value)
  | coin percent heads raw =>
      exact (((undetailed_of_all (by decide)).append (undetailed_nat percent)).append
        (undetailed_of_all (by decide))).append (undetailed_nat _)

/-- Without the details, the line of a detailed trace is the line of a plain one. -/
theorem withoutDetails_line (index : Nat) (decision : Decision) :
    withoutDetails (decision.line true index) = decision.line false index := by
  have plain : Undetailed (decision.line false index) := by
    have number : Undetailed (toString (index + 1) ++ " ") :=
      (undetailed_nat _).append (undetailed_of_all (by decide))
    simpa [Decision.line] using number.append (undetailed_summary decision)
  have whole : decision.line true index = decision.line false index ++ decision.details := by
    simp [Decision.line]
  obtain ⟨details, begins, cut⟩ : ∃ details, decision.details.toList = ' ' :: details ∧
      cutDetails (' ' :: details) = [] := by
    cases decision with
    | bounded bound value tries raw =>
        refine ⟨"tries=".toList ++ (toString tries ++ " raw=" ++ toString raw).toList, ?_, ?_⟩
        · simp [Decision.details]
        · simp [cutDetails, List.isPrefixOf]
    | coin percent heads raw =>
        refine ⟨"raw=".toList ++ (toString raw).toList, ?_, ?_⟩
        · simp [Decision.details]
        · simp [cutDetails, List.isPrefixOf]
  rw [whole, withoutDetails, String.toList_append, begins, cutDetails_append plain cut, String.ofList_toList]

/-- Without the details, the lines of the detailed trace are those of the plain one. -/
theorem withoutDetails_traceLines (source : Source) :
    (source.traceLines true).map withoutDetails = source.traceLines false := by
  simp [Source.traceLines, List.mapIdx_eq_zipIdx_map, withoutDetails_line]

end Random

/-! ## Calls -/

namespace CommandLine

open RandomC.Random

/-- The decision can be written into a trace. -/
def isTraceable : Decision → Bool
  | .bounded bound .. => Text.hasDecimalText bound
  | .coin .. => true

theorem forM_requireTraceable (decisions : List Decision) :
    decisions.forM requireTraceable =
      if decisions.all isTraceable then .ok () else .error .unwritableNumber := by
  induction decisions with
  | nil => rfl
  | cons decision rest ih =>
      have first : requireTraceable decision =
          if isTraceable decision then .ok () else .error .unwritableNumber := by
        cases decision <;> rfl
      rw [List.forM_eq_forM] at ih ⊢
      rw [List.forM_cons, first, ih, List.all_cons]
      cases isTraceable decision <;> rfl

/-- What a call goes on with after a generator run whose decisions could be recorded, and the console with the
reports of the run. -/
def continuation (outcome : Outcome) (console : Console) : Except Stop (Program × Source) × Console :=
  ((outcome.result.mapError fun failure => Stop.problem (.generation failure)).map (·, outcome.source),
    outcome.log.foldl (fun console event => console.report event.level event.origin event.message) console)

/-- Runs that end in the same way are continued in the same way, each with its own source. -/
theorem continuation_eq {related : Source → Source → Prop} {first second : Outcome}
    (agrees : Outcome.Agrees related first second) (console : Console) :
    continuation first console =
      ((continuation second console).1.map fun made => (made.1, first.source), (continuation second console).2) := by
  unfold continuation
  rw [agrees.result, agrees.log]
  cases second.result <;> rfl

section

variable {m : Type → Type} [Monad m] [LawfulMonad m]

@[simp] theorem run_onConsole (change : Console → Console) (console : Console) :
    (onConsole change : Session m Unit).run.run console = pure (.ok (), change console) := by
  simp only [onConsole, modify, modifyGet, MonadStateOf.modifyGet]
  exact (StateT.run_map _ _ console).trans (map_pure _ _)

/-- A generator run is refused where it has recorded a decision that cannot be written. -/
theorem generateProgram_eq (values : Values) (settings : Settings) (console : Console) :
    let outcome := generate settings (.ofSeed settings.seed (values.text? "trace_rng").isSome)
    (generateProgram values settings : Session m _).run.run console = pure (
      if outcome.source.decisions.toList.all isTraceable then continuation outcome console
      else (.error (.problem .unwritableNumber), console)) := by
  unfold generateProgram
  generalize generate settings _ = outcome
  dsimp only
  rw [forM_requireTraceable]
  obtain ⟨result, source, readings, log⟩ := outcome
  split
  · cases result <;> simp [orStop, continuation, Except.mapError, Except.map, ExceptT.run_bind]
  · simp [orStop]

end

/-- Whether the decisions of a run are recorded makes no difference to the run.  It gives the same program, with
the same functions and the same environment, or fails with the same failure; the source is left in the same
state after the same draws, and the same is reported.  Nothing is recorded without tracing, and the lines of the
detailed record are those of the plain one and the details.

A call that asks for the record goes on as one that does not, with the program or with the problem of the run,
if all decisions can be written.  If one of them has a bound with too many digits, the call ends with that
problem. -/
theorem tracing_changes_nothing (settings : Settings) :
    (∀ seed : Int,
      let plain := generate settings (.ofSeed seed false)
      let traced := generate settings (.ofSeed seed true)
      traced.result = plain.result ∧ traced.source.silent = plain.source ∧
        traced.readings = plain.readings ∧ traced.log = plain.log ∧
        (∀ detailed, plain.source.traceLines detailed = []) ∧
        (traced.source.traceLines true).map withoutDetails = traced.source.traceLines false) ∧
      ∀ (m : Type → Type) [Monad m] [LawfulMonad m] (traced plain : Values) (console : Console),
        (traced.text? "trace_rng").isSome → plain.text? "trace_rng" = none →
          let recorded := (generate settings (.ofSeed settings.seed true)).source
          (generateProgram traced settings : Session m _).run.run console =
            if recorded.decisions.toList.all isTraceable then
              (fun ending => (ending.1.map fun made => (made.1, recorded), ending.2)) <$>
                (generateProgram plain settings : Session m _).run.run console
            else pure (.error (.problem .unwritableNumber), console) := by
  have agrees (seed : Int) := agrees_generate settings steady_silent
    (show (Source.ofSeed seed true).silent = (Source.ofSeed seed false).silent from rfl)
  have untraced (seed : Int) := agrees_generate settings steady_recordless
    (show Source.ofSeed seed false = Source.ofSeed seed false ∧ (Source.ofSeed seed false).tracing = false ∧
      (Source.ofSeed seed false).decisions = #[] from ⟨rfl, rfl, rfl⟩)
  constructor
  · intro seed plain traced
    have silent : plain.source.silent = plain.source := by
      obtain ⟨-, tracing, decisions⟩ := (untraced seed).source
      rw [Source.silent, ← tracing, ← decisions]
    refine ⟨(agrees seed).result, (agrees seed).source.trans silent, (agrees seed).readings, (agrees seed).log,
      ?_, withoutDetails_traceLines _⟩
    intro detailed
    rw [Source.traceLines, (untraced seed).source.2.2]
    rfl
  · intro m _ _ traced plain console asked unasked recorded
    have none := (untraced settings.seed).source.2.2
    rw [generateProgram_eq, generateProgram_eq, asked, unasked, Option.isSome_none, none, List.all_nil,
      if_pos rfl, map_pure]
    have continues := continuation_eq (agrees settings.seed) console
    change _ = if recorded.decisions.toList.all isTraceable then _ else _
    split
    · rw [continues]
    · rfl

/-- The call asks for a record of the decisions. -/
def tracingValues : Values := initialValues.record "trace_rng" (.words "trace.txt")

/-- A small program is generated with a record of the decisions, and it is the one that is generated without. -/
theorem tracing_changes_nothing_small :
    (tracingValues.text? "trace_rng").isSome ∧ initialValues.text? "trace_rng" = none ∧
      let recorded := (generate smallSettings (.ofSeed smallSettings.seed true)).source
      recorded.decisions.size ≠ 0 ∧
        (generate smallSettings (.ofSeed smallSettings.seed false)).result.isOk ∧
        (generateProgram tracingValues smallSettings : Session Id _).run.run .empty =
          (fun ending => (ending.1.map fun made => (made.1, recorded), ending.2)) <$>
            (generateProgram initialValues smallSettings : Session Id _).run.run .empty := by
  have asked : (tracingValues.text? "trace_rng").isSome := by decide
  have unasked : initialValues.text? "trace_rng" = none := by decide
  have writable : (generate smallSettings
      (.ofSeed smallSettings.seed true)).source.decisions.toList.all isTraceable := by decide +kernel
  have ends := (tracing_changes_nothing smallSettings).2 Id tracingValues initialValues .empty asked unasked
  refine ⟨asked, unasked, by decide +kernel, by decide +kernel, ?_⟩
  exact ends.trans (if_pos writable)

/-- The number of statements of a block is drawn below the least bound that is too long. -/
def lengthySettings : Settings := { smallSettings with seed := 2, maxBlockSize := Text.decimalLimit }

/-- With a bound that is too long, there is a program if no record is asked for, and none if one is. -/
theorem traced_bound_unwritable :
    ¬ ((generateProgram tracingValues lengthySettings : Session Id _).run.run .empty).1.map (·.1.text) =
      ((generateProgram initialValues lengthySettings : Session Id _).run.run .empty).1.map (·.1.text) := by
  have asked : (tracingValues.text? "trace_rng").isSome = true := by decide
  have unasked : (initialValues.text? "trace_rng").isSome = false := by decide
  have unwritable : (generate lengthySettings
      (.ofSeed lengthySettings.seed true)).source.decisions.toList.all isTraceable = false := by decide +kernel
  have writable : (generate lengthySettings
      (.ofSeed lengthySettings.seed false)).source.decisions.toList.all isTraceable = true := by decide +kernel
  have isOk : (generate lengthySettings (.ofSeed lengthySettings.seed false)).result.isOk = true := by
    decide +kernel
  rw [generateProgram_eq, generateProgram_eq, asked, unasked, unwritable, writable]
  revert isOk
  rcases generate lengthySettings (.ofSeed lengthySettings.seed false) with ⟨failure | program, _, _, _⟩
  · exact fun failed => by cases failed
  · exact fun _ same => by cases same

end CommandLine

end RandomC
