import Mathlib.Data.Int.ModEq
import RandomC.Proofs.Above
import RandomC.Proofs.Tracing
import RandomC.Proofs.Values

/-!
# Seeds

Only the low 32 bits of a seed count.  The stream of a seed shows the upper 31 bits of each state, and two values
in a row tell the seed up to these bits: states that show the same value differ in one of the 17 bits that are
dropped, and the next step moves such a difference to where it shows.  Beside the stream, a program contains the
seed in two lines of its header.
-/

namespace RandomC

namespace Random

/-! ## Streams -/

theorem toNat_seedState (seed : Int) :
    ((seedState seed).toNat : Int) = (seed * 0x10000 + 0x330E) % 2 ^ 48 := by
  rw [seedState, BitVec.toNat_ofInt]
  omega

/-- Seeds that agree in their low 32 bits start the same stream. -/
theorem seedState_inj {first second : Int} : seedState first = seedState second ↔ first ≡ second [ZMOD 2 ^ 32] := by
  have left := toNat_seedState first
  have right := toNat_seedState second
  rw [BitVec.toNat_eq, Int.ModEq]
  omega

/-- The multiplier is odd, so that a step can be undone. -/
theorem advance_injective : Function.Injective advance := by
  intro first second same
  have inverse : 0xDFE05BCB1365#48 * multiplier = 1#48 := by decide
  have products : multiplier * first = multiplier * second := by
    simpa [advance] using same
  calc first = 0xDFE05BCB1365#48 * multiplier * first := by rw [inverse, BitVec.one_mul]
    _ = 0xDFE05BCB1365#48 * multiplier * second := by rw [BitVec.mul_assoc, products, ← BitVec.mul_assoc]
    _ = second := by rw [inverse, BitVec.one_mul]

/-- States that agree in their low 16 bits and show the same value twice in a row are the same: one bit is left in
which they could differ, and a difference there would show after a step. -/
theorem eq_of_outputs {first second : BitVec 48} (low : first.toNat % 2 ^ 16 = second.toNat % 2 ^ 16)
    (now : output first = output second) (next : output (advance first) = output (advance second)) :
    first = second := by
  rw [output_eq, output_eq] at now next
  rw [toNat_advance, toNat_advance] at next
  rw [BitVec.toNat_eq]
  generalize first.toNat = one at *
  generalize second.toNat = other at *
  obtain same | more | less : one = other ∨ one = other + 2 ^ 16 ∨ other = one + 2 ^ 16 := by omega
  · exact same
  · subst more
    omega
  · subst less
    omega

/-- The low 16 bits of the states in a stream do not depend on the seed. -/
theorem low_advance_seedState (first second : Int) :
    (advance (seedState first)).toNat % 2 ^ 16 = (advance (seedState second)).toNat % 2 ^ 16 := by
  have left := toNat_seedState first
  have right := toNat_seedState second
  rw [toNat_advance, toNat_advance]
  omega

/-- Two values in a row tell the low 32 bits of the seed. -/
theorem modEq_of_values {first second : Int} {tracing traced : Bool}
    (one : (Source.ofSeed first tracing).valueAfter 0 = (Source.ofSeed second traced).valueAfter 0)
    (two : (Source.ofSeed first tracing).valueAfter 1 = (Source.ofSeed second traced).valueAfter 1) :
    first ≡ second [ZMOD 2 ^ 32] := by
  rw [valueAfter_eq, valueAfter_eq] at one two
  exact seedState_inj.mp (advance_injective (eq_of_outputs (low_advance_seedState first second) one two))

theorem valueAfter_congr {first second : Int} (congruent : first ≡ second [ZMOD 2 ^ 32]) (tracing traced : Bool)
    (count : Nat) :
    (Source.ofSeed first tracing).valueAfter count = (Source.ofSeed second traced).valueAfter count := by
  rw [valueAfter_eq, valueAfter_eq]
  exact congrArg (fun state => output (advance^[count + 1] state)) (seedState_inj.mpr congruent)

/-- The source without the number that is kept of its seed. -/
def Source.unnamed (source : Source) : Source := { source with seed := 0 }

/-- A draw does not look at the number that is kept of the seed. -/
theorem steady_unnamed : Steady fun first second => first.unnamed = second.unnamed := by
  refine steady_of_look (fun _ => rfl) (fun _ => rfl) ?_
  intro decision first second same
  have recorded (source : Source) : (source.record decision).unnamed = source.unnamed.record decision := by
    cases traced : source.tracing <;> simp [Source.record, Source.unnamed, traced]
  rw [recorded, recorded, same]

/-- Sources that differ in the number kept of the seed have the same state and record. -/
theorem eq_of_unnamed {first second : Source} (same : first.unnamed = second.unnamed) :
    first.state = second.state ∧ first.drawn = second.drawn ∧ first.decisions = second.decisions ∧
      ∀ detailed, first.traceLines detailed = second.traceLines detailed := by
  simp only [Source.unnamed, Source.mk.injEq, true_and] at same
  obtain ⟨state, drawn, -, decisions⟩ := same
  exact ⟨state, drawn, decisions, fun detailed => by rw [Source.traceLines, Source.traceLines, decisions]⟩

end Random

/-! ## Programs -/

/-- Under another seed, a run on the same source makes the same program below another header. -/
theorem exists_unheaded (settings : Settings) (source : Random.Source) :
    ∃ (made : Except Failure Program) (last : Random.Source) (readings : List Random.Reading), ∀ seed,
      let outcome := generateWritable (settings.withSeed seed) source
      outcome.result = made.map (Program.below (headerText seed)) ∧ outcome.source = last ∧
        outcome.readings = readings := by
  let scalars := CType.scalars settings.intSize settings.longLong
  let start : Composite.State := { Composite.State.initial source with sheet := Text.Sheet.empty.blankLine }
  have composites (seed : Int) : Composite.generate (settings.withSeed seed)
      (CType.scalars (settings.withSeed seed).intSize (settings.withSeed seed).longLong)
      { Composite.State.initial source with sheet := headedSheet (settings.withSeed seed).seed } =
        ((Composite.generate settings scalars start).1,
          (Composite.generate settings scalars start).2.below (headerText seed)) :=
    Composite.generate_below start
  rcases drawn : Composite.generate settings scalars start with ⟨failure | layouts, composed⟩
  · refine ⟨.error failure, composed.source, composed.stream.readings, fun seed => ?_⟩
    simp only [generateWritable, composites, drawn]
    exact ⟨rfl, rfl, rfl⟩
  · let ready : Environment.Building := ⟨composed.source, composed.sheet, .empty⟩
    have building (seed : Int) : buildEnvironment (settings.withSeed seed)
        (CType.scalars (settings.withSeed seed).intSize (settings.withSeed seed).longLong) layouts
        ⟨(composed.below (headerText seed)).source, (composed.below (headerText seed)).sheet, .empty⟩ =
          ((buildEnvironment settings scalars layouts ready).1,
            (buildEnvironment settings scalars layouts ready).2.below (headerText seed)) :=
      Environment.onlyIf_below (Environment.build_below layouts) _ ready
    rcases built : buildEnvironment settings scalars layouts ready with ⟨failure | ⟨⟩, reached⟩
    · refine ⟨.error failure, reached.source, reached.stream.readings ++ composed.stream.readings, fun seed => ?_⟩
      simp only [generateWritable, composites, drawn, building, built]
      exact ⟨rfl, rfl, rfl⟩
    · let setup : Setup := ⟨settings, scalars, layouts, reached.env⟩
      let log := firstEvents settings layouts reached.env
      have running (seed : Int) : run (setup.withUnread layouts seed)
          (.start (setup.withUnread layouts seed) reached.source log) = run setup (.start setup reached.source log) :=
        run_withSeed reached.source log
      rcases ran : run setup (.start setup reached.source log) with ⟨failure | ⟨⟩, world⟩
      · rw [ran] at running
        refine ⟨.error failure, world.source,
          world.readings ++ (reached.stream.readings ++ composed.stream.readings), fun seed => ?_⟩
        simp only [generateWritable, composites, drawn, building, built]
        erw [running seed]
        exact ⟨rfl, rfl, rfl⟩
      · rw [ran] at running
        refine ⟨.ok (finish setup world.flow reached.sheet), world.source,
          world.readings ++ (reached.stream.readings ++ composed.stream.readings), fun seed => ?_⟩
        simp only [generateWritable, composites, drawn, building, built]
        erw [running seed]
        exact ⟨congrArg Except.ok finish_below, rfl, rfl⟩

theorem generate_of_unwritable {settings : Settings} {source : Random.Source}
    (unwritable : ¬ Text.hasDecimalText settings.seed) :
    generate settings source = ⟨.error .unwritable, source, [], #[]⟩ := if_neg unwritable

/-- Congruent seeds that can be written lead to the same program below two headers, with the same draws. -/
theorem generate_congruent (settings : Settings) {first second : Int} (tracing : Bool)
    (congruent : first ≡ second [ZMOD 2 ^ 32]) (firstWritable : Text.hasDecimalText first)
    (secondWritable : Text.hasDecimalText second) :
    let one := generate (settings.withSeed first) (.ofSeed first tracing)
    let other := generate (settings.withSeed second) (.ofSeed second tracing)
    one.source.unnamed = other.source.unnamed ∧ one.readings = other.readings ∧
      ∃ made : Except Failure Program, one.result = made.map (Program.below (headerText first)) ∧
        other.result = made.map (Program.below (headerText second)) := by
  intro one other
  have unlimited : one = generateWritable (settings.withSeed first) (.ofSeed first tracing) := if_pos firstWritable
  have alsoUnlimited : other = generateWritable (settings.withSeed second) (.ofSeed second tracing) :=
    if_pos secondWritable
  have start : (Random.Source.ofSeed first tracing).unnamed = (Random.Source.ofSeed second tracing).unnamed := by
    simp only [Random.Source.unnamed, Random.Source.ofSeed, Random.seedState_inj.mpr congruent]
  have agrees := agrees_generateWritable (settings.withSeed second) Random.steady_unnamed start
  obtain ⟨made, last, readings, ends⟩ := exists_unheaded settings (.ofSeed first tracing)
  obtain ⟨result, source, read⟩ := ends first
  obtain ⟨result', source', read'⟩ := ends second
  rw [unlimited, alsoUnlimited]
  refine ⟨?_, ?_, made, result, ?_⟩
  · rw [source, ← source', agrees.source]
  · rw [read, ← read', agrees.readings]
  · rw [← agrees.result, result']

/-- What a program below the header of a seed consists of. -/
theorem map_below (made : Except Failure Program) (seed : Int) :
    (made.map (Program.below (headerText seed))).map (fun program => (program.text, program.functions, program.env)) =
      (made.map fun program => (headerEnd ++ program.text, program.functions, program.env)).map
        fun rest => (headerStart ++ seedLines seed ++ rest.1, rest.2) := by
  cases made with
  | error failure => rfl
  | ok program =>
      simp only [Except.map, Program.text_below, headerText_lines, String.append_assoc]
      rfl

/-- Only the low 32 bits of a seed count.  Two streams are equal if and only if their seeds are congruent, and
streams that are not equal differ in one of the first two values.

Under seeds that are congruent, and that can be written, everything is drawn and decided alike, and either both
runs fail with the same failure, or they make programs that are equal below the lines with the seed.  A run whose
seed has too many digits to be written makes no program. -/
theorem seeds_modulo (settings : Settings) (first second : Int) (tracing traced : Bool) :
    ((∀ count, (Random.Source.ofSeed first tracing).valueAfter count =
        (Random.Source.ofSeed second traced).valueAfter count) ↔ first ≡ second [ZMOD 2 ^ 32]) ∧
    (¬ first ≡ second [ZMOD 2 ^ 32] → ∃ count < 2, (Random.Source.ofSeed first tracing).valueAfter count ≠
      (Random.Source.ofSeed second traced).valueAfter count) ∧
    let one := generate (settings.withSeed first) (.ofSeed first tracing)
    let other := generate (settings.withSeed second) (.ofSeed second tracing)
    (first ≡ second [ZMOD 2 ^ 32] → Text.hasDecimalText first → Text.hasDecimalText second →
      one.source.state = other.source.state ∧ one.source.drawn = other.source.drawn ∧
        one.source.decisions = other.source.decisions ∧ one.readings = other.readings ∧
        (∀ detailed, one.source.traceLines detailed = other.source.traceLines detailed) ∧
        ∃ made : Except Failure (String × List Signature × Environment),
          one.result.map (fun program => (program.text, program.functions, program.env)) =
            made.map (fun rest => (headerStart ++ seedLines first ++ rest.1, rest.2)) ∧
          other.result.map (fun program => (program.text, program.functions, program.env)) =
            made.map (fun rest => (headerStart ++ seedLines second ++ rest.1, rest.2))) ∧
    (¬ Text.hasDecimalText first → one = ⟨.error .unwritable, .ofSeed first tracing, [], #[]⟩) := by
  refine ⟨⟨?_, ?_⟩, ?_, ?_, ?_⟩
  · exact fun same => Random.modEq_of_values (same 0) (same 1)
  · exact fun congruent count => Random.valueAfter_congr congruent tracing traced count
  · intro apart
    by_contra same
    push Not at same
    exact apart (Random.modEq_of_values (same 0 (by omega)) (same 1 (by omega)))
  · intro congruent firstWritable secondWritable
    obtain ⟨source, readings, made, result, result'⟩ :=
      generate_congruent settings tracing congruent firstWritable secondWritable
    obtain ⟨state, drawn, decisions, lines⟩ := Random.eq_of_unnamed source
    refine ⟨state, drawn, decisions, readings, lines,
      made.map fun program => (headerEnd ++ program.text, program.functions, program.env), ?_, ?_⟩
    · rw [result, map_below]
    · rw [result', map_below]
  · intro unwritable
    exact generate_of_unwritable unwritable

/-- The seeds 2 and 2 - 2^32 are congruent, and make programs that differ in the lines with the seed only; the seeds
0 and 1 are not.  The least seed with too many digits makes no program. -/
theorem seeds_modulo_small :
    (2 : Int) ≡ 2 - 2 ^ 32 [ZMOD 2 ^ 32] ∧ Text.hasDecimalText 2 ∧ Text.hasDecimalText (2 - 2 ^ 32) ∧
      (generate (smallSettings.withSeed 2) (.ofSeed 2 true)).result.isOk ∧
      (∃ made : Except Failure (String × List Signature × Environment),
        (generate (smallSettings.withSeed 2) (.ofSeed 2 true)).result.map
            (fun program => (program.text, program.functions, program.env)) =
          made.map (fun rest => (headerStart ++ seedLines 2 ++ rest.1, rest.2)) ∧
        (generate (smallSettings.withSeed (2 - 2 ^ 32)) (.ofSeed (2 - 2 ^ 32) true)).result.map
            (fun program => (program.text, program.functions, program.env)) =
          made.map (fun rest => (headerStart ++ seedLines (2 - 2 ^ 32) ++ rest.1, rest.2))) ∧
      ¬ (0 : Int) ≡ 1 [ZMOD 2 ^ 32] ∧
      (∃ count < 2, (Random.Source.ofSeed 0 true).valueAfter count ≠ (Random.Source.ofSeed 1 true).valueAfter count) ∧
      ¬ Text.hasDecimalText Text.decimalLimit ∧
      generate (smallSettings.withSeed Text.decimalLimit) (.ofSeed Text.decimalLimit true) =
        ⟨.error .unwritable, .ofSeed Text.decimalLimit true, [], #[]⟩ := by
  have congruent : (2 : Int) ≡ 2 - 2 ^ 32 [ZMOD 2 ^ 32] := by decide
  have apart : ¬ (0 : Int) ≡ 1 [ZMOD 2 ^ 32] := by decide
  have writable : Text.hasDecimalText 2 := by decide +kernel
  have alsoWritable : Text.hasDecimalText (2 - 2 ^ 32) := by decide +kernel
  have unwritable : ¬ Text.hasDecimalText Text.decimalLimit := by decide +kernel
  have ends := (seeds_modulo smallSettings 2 (2 - 2 ^ 32) true true).2.2.1 congruent writable alsoWritable
  exact ⟨congruent, writable, alsoWritable, by decide +kernel, ends.2.2.2.2.2, apart,
    (seeds_modulo smallSettings 0 1 true true).2.1 apart, unwritable,
    (seeds_modulo smallSettings Text.decimalLimit 0 true true).2.2.2 unwritable⟩

/-- The seeds 0 and 10^4300 are congruent, and a program is made under the first one only. -/
theorem congruent_seed_unwritable :
    ¬ ∀ (settings : Settings) (first second : Int), first ≡ second [ZMOD 2 ^ 32] →
      ((generate (settings.withSeed first) (.ofSeed first false)).result.isOk ↔
        (generate (settings.withSeed second) (.ofSeed second false)).result.isOk) := by
  intro alike
  have congruent : (0 : Int) ≡ Text.decimalLimit [ZMOD 2 ^ 32] := by decide +kernel
  have isOk : (generate (smallSettings.withSeed 0) (.ofSeed 0 false)).result.isOk := by decide +kernel
  have unwritable : ¬ Text.hasDecimalText (smallSettings.withSeed Text.decimalLimit).seed := by decide +kernel
  have failed := (alike smallSettings 0 Text.decimalLimit congruent).mp isOk
  rw [generate_of_unwritable unwritable] at failed
  cases failed

end RandomC
