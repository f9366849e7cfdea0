import RandomC.Proofs.CompositeText
import RandomC.Proofs.Features
import RandomC.Proofs.Pointers

/-!
# The ranges of drawn sizes

The width of a bit-field and the length of an array are remainders of raw values.  A width can therefore be
zero, also where the field has a name, and of the lengths that are drawn the largest is one above the limit of
the settings.
-/

namespace RandomC

section

variable {σ : Type} [Drawing σ]

/-- The raw value that is drawn next. -/
def upcoming (state : σ) : Nat := Random.output (Random.advance (Drawing.stream state).source.state)

/-- A value below a bound is the remainder of the raw value. -/
theorem below_upcoming [Resting σ] {bound : Int} (positive : 0 < bound) (state : σ) :
    (Step.below bound : Step σ Nat).Succeeds state fun value after =>
      Resting.Still state after ∧ value = upcoming state % bound.toNat := by
  refine ⟨Resting.withStream _ state, ?_⟩
  have notNegative : ¬ bound ≤ 0 := by omega
  simp only [Random.Stream.draw, Random.Source.below, notNegative, if_false, draw_bind, draw_pure]
  rfl

end

/-! ## Widths -/

namespace Composite

variable {settings : Settings} {scalars : List CType}

/-- A width is zero exactly where the raw value is a multiple of the bound and zero is not barred. -/
theorem bitWidth_eq_zero_iff {bound : Int} (two : 2 ≤ bound) (prior : Array Field) (state : State) :
    (bitWidth bound prior).Succeeds state fun width _ =>
      width = 0 ↔ zeroWidthBarred prior = false ∧ upcoming state % bound.toNat = 0 := by
  unfold bitWidth
  rw [Int.max_eq_left (show 1 ≤ bound by omega)]
  apply (below_upcoming (show 0 < bound by omega) state).bind
  rintro width after ⟨-, rfl⟩
  split
  · rename_i barred
    have barred : zeroWidthBarred prior = true := by simpa using (Bool.and_eq_true _ _ ▸ barred).2
    split
    · exact Step.ends_pure.mpr (by simp [barred])
    · apply ((calm_below (bound - 1)) after).bind
      intro again last _
      exact Step.ends_pure.mpr (by simp [barred])
  · rename_i kept
    apply Step.ends_pure.mpr
    simpa [and_comm] using kept

/-- The settings for the types of one kind: whether they are in use, and the limit on their fields. -/
def kindSettings (settings : Settings) : CompositeKind → Bool × Int
  | .struct => (settings.structs, settings.maxStructFields)
  | .union => (settings.unions, settings.maxUnionFields)

/-- The width of a named bit-field can be zero, but only where bit-fields and the types of its kind are in use,
where there may be two fields, and behind a field that is none of no bits.  A width that is drawn there is zero
exactly where the raw value is a multiple of the number of bits. -/
theorem zero_widths_follow_others (settings : Settings) (scalars : List CType) (state : State)
    (words : 1 ≤ settings.intSize) (inhabited : scalars ≠ []) (margin : 0 ≤ state.sheet.level) :
    (∃ (layouts : Layouts) (after : State), generate settings scalars state = (.ok layouts, after) ∧
      ∀ (kind : CompositeKind), ∀ members ∈ layouts.ofKind kind, ∀ (index : Nat) (field : Field),
        members.toList[index]? = some field → field.width? = some 0 →
          settings.bitfields = true ∧ (kindSettings settings kind).1 = true ∧
            2 ≤ (kindSettings settings kind).2 ∧ ∃ (before : Nat) (prior : Field),
              index = before + 1 ∧ members.toList[before]? = some prior ∧ prior.width? ≠ some 0) ∧
    ∀ (prior : Array Field) (state : State),
      (bitWidth (settings.intSize * 8) prior).Succeeds state fun width _ =>
        width = 0 ↔ zeroWidthBarred prior = false ∧ upcoming state % (settings.intSize * 8).toNat = 0 := by
  have zero {inUse : Bool} {fieldLimit : Int} {types : List (Array Field)}
      (within : Layouts.Within settings scalars inUse fieldLimit types) {members : Array Field}
      (member : members ∈ types) {index : Nat} {field : Field} (found : members.toList[index]? = some field)
      (none : field.width? = some 0) : settings.bitfields = true ∧ inUse = true ∧ 2 ≤ fieldLimit ∧
        ∃ (before : Nat) (prior : Field),
          index = before + 1 ∧ members.toList[before]? = some prior ∧ prior.width? ≠ some 0 := by
    have laid := within.laid members member
    obtain ⟨before, prior, next, stood, some⟩ := laid.apart index field found none
    have bound := (List.getElem?_eq_some_iff.mp found).1
    rw [Array.length_toList] at bound
    have limited := laid.limited
    refine ⟨?_, ?_, by omega, before, prior, next, stood, some⟩
    · cases laid.stand field (List.mem_of_getElem? found) with
      | scalar member kind => simp [Field.width?, kind] at none
      | bits inUse => exact inUse
    · by_contra unused
      rw [within.unused (by simpa using unused)] at member
      cases member
  have start : state.Shows state.sheet.level state.sheet.written := ⟨rfl, rfl⟩
  constructor
  · obtain ⟨layouts, after, made, structs, unions, -⟩ :=
      (generate_shows words inhabited margin start).exists
    refine ⟨layouts, after, made, fun kind members member index field found none => ?_⟩
    cases kind with
    | struct => exact zero structs member found none
    | union => exact zero unions member found none
  · exact bitWidth_eq_zero_iff (by omega)

/-- A union with a named bit-field of no bits. -/
def zeroWidthUnion : Array Field :=
  #[⟨"f0", false, false, .scalar .int64⟩, ⟨"f1", false, false, .bits true 0⟩]

/-- Where nothing is chosen, such a union is made from a seed, and it is written with the name. -/
theorem generate_zeroWidthUnion : ∃ after : State,
    generate targetSettings (CType.scalars 4 true) (.initial (.ofSeed 18154 false)) =
        (.ok ⟨[], [zeroWidthUnion]⟩, after) ∧
      after.sheet.written = "/* --- Struct/Union Declarations --- */\n" ++
        "union U0 \x7b\n    int64_t f0;\n    signed f1 : 0;\n\x7d;\n\n\n" := by
  have evaluated : (fun made : Except Failure Layouts × State =>
      (made.1.toOption.map fun layouts => (layouts.structs, layouts.unions), made.2.sheet.written))
        (generate targetSettings (CType.scalars 4 true) (.initial (.ofSeed 18154 false))) =
      (some ([], [zeroWidthUnion]), "/* --- Struct/Union Declarations --- */\n" ++
        "union U0 \x7b\n    int64_t f0;\n    signed f1 : 0;\n\x7d;\n\n\n") := by
    decide +kernel
  generalize generate targetSettings (CType.scalars 4 true) (.initial (.ofSeed 18154 false)) = made
    at evaluated ⊢
  obtain ⟨_ | ⟨structs, unions⟩, after⟩ := made
  · simp [Except.toOption] at evaluated
  · simp only [Except.toOption, Option.map_some, Prod.mk.injEq, Option.some.injEq] at evaluated
    obtain ⟨⟨rfl, rfl⟩, written⟩ := evaluated
    exact ⟨after, rfl, written⟩

/-- The field of no bits of that union follows a scalar. -/
theorem zero_widths_follow_others_small : ∃ (layouts : Layouts) (after : State) (prior : Field),
    generate targetSettings (CType.scalars 4 true) (.initial (.ofSeed 18154 false)) = (.ok layouts, after) ∧
      layouts.unions = [zeroWidthUnion] ∧ zeroWidthUnion[0]? = some prior ∧ prior.width? ≠ some 0 := by
  obtain ⟨after, returned, -⟩ := generate_zeroWidthUnion
  obtain ⟨⟨layouts, last, made, zero⟩, -⟩ := zero_widths_follow_others targetSettings
    (CType.scalars 4 true) (.initial (.ofSeed 18154 false)) (by decide) (scalars_ne_nil _ _) (by decide)
  obtain ⟨⟨⟩, rfl⟩ := Prod.mk.inj (made.symm.trans returned)
  obtain ⟨-, -, -, before, prior, next, stood, some⟩ :=
    zero .union zeroWidthUnion List.mem_cons_self 1 ⟨"f1", false, false, .bits true 0⟩ rfl rfl
  obtain rfl : before = 0 := by omega
  exact ⟨_, last, prior, made, rfl, by simpa using stood, some⟩

/-- Not every named bit-field has a bit. -/
theorem named_bitFields_have_bits_fails : ∃ (layouts : Layouts) (after : State),
    generate targetSettings (CType.scalars 4 true) (.initial (.ofSeed 18154 false)) = (.ok layouts, after) ∧
      ¬ ∀ members ∈ layouts.structs ++ layouts.unions, ∀ field ∈ members.toList, ∀ width : Nat,
        field.width? = some width → 1 ≤ width := by
  obtain ⟨after, returned, -⟩ := generate_zeroWidthUnion
  refine ⟨_, after, returned, fun bits => ?_⟩
  have none := bits zeroWidthUnion List.mem_cons_self ⟨"f1", false, false, .bits true 0⟩
    (List.mem_cons_of_mem _ List.mem_cons_self) 0 rfl
  omega

end Composite

/-! ## Lengths -/

namespace Environment

variable {settings : Settings} {scalars : List CType}

section

variable {good : Environment → Prop}

/-- The property is one of the arrays. -/
def OfArrays (good : Environment → Prop) : Prop :=
  ∀ env other : Environment, other.arrays = env.arrays → good env → good other

theorem OfArrays.freshName (ofArrays : OfArrays good) : Guards good freshName fun _ => True :=
  .freshName fun env => ofArrays env _ rfl

/-- What is declared is no array. -/
theorem OfArrays.declare (ofArrays : OfArrays good) {declaration : Declaration} {f : Environment → Environment}
    (others : ∀ env, (f env).arrays = env.arrays) : Guards good (declare declaration f) fun _ => True :=
  .declare fun env => ofArrays env _ (others env)

/-- How often something is done may depend on the state. -/
theorem Guards.counted {step : Step Building Unit} (guards : Guards good step fun _ => True)
    (rounds : Building → Nat) : Guards good (do Environment.times step (rounds (← get))) fun _ => True :=
  fun state kept => Step.ends_bind.mpr (Step.ends_get.mpr (Guards.times guards _ state kept))

theorem OfArrays.addScalar (ofArrays : OfArrays good) :
    Guards good (addScalar settings scalars) fun _ => True := by
  apply (Guards.idle (idle_drawQualifiers settings)).bind
  rintro ⟨isConst, isVolatile⟩ _
  apply ofArrays.freshName.bind
  intro name _
  apply (Guards.idle (idle_choose scalars)).bind
  intro type _
  apply (Guards.idle idle_drawInitial).bind
  exact fun initial _ => ofArrays.declare fun _ => rfl

theorem OfArrays.addPointer (ofArrays : OfArrays good) (targets : List GlobalVar) :
    Guards good (addPointer settings targets) fun _ => True := by
  unfold Environment.addPointer
  dsimp only
  apply (Guards.idle (idle_below _)).bind
  intro chosen _
  apply (Guards.idle (idle_element _ _)).bind
  intro target _
  apply ofArrays.freshName.bind
  intro name _
  apply (Guards.idle (idle_decideIf (idle_oneIn 3))).bind
  intro isVolatile _
  apply (Guards.idle (idle_decideIf (idle_oneIn 4))).bind
  intro volatileTarget _
  apply (Guards.idle (idle_decideIf (idle_oneIn 3))).bind
  exact fun constTarget _ => ofArrays.declare fun _ => rfl

theorem OfArrays.addLinks (ofArrays : OfArrays good) (type : CType) (count stars : Nat) (target : String) :
    Guards good (addLinks type count stars target) fun _ => True := by
  induction count generalizing stars target with
  | zero => exact .pure trivial
  | succ count ih =>
      apply ofArrays.freshName.bind
      intro name _
      have link : Guards good (Environment.declare (.link type stars name target) fun env =>
          { env with chains := env.chains ++ [name] }) fun _ => True := ofArrays.declare fun _ => rfl
      exact link.bind fun _ _ => ih (stars + 1) name

theorem OfArrays.addChain (ofArrays : OfArrays good) : Guards good (addChain settings) fun _ => True := by
  intro state kept
  apply Step.ends_bind.mpr
  apply Step.ends_get.mpr
  dsimp only
  split
  · exact Step.ends_pure.mpr ⟨kept, trivial⟩
  · have chain : Guards good (do
        let base ← Step.choose (state.env.pointers.filter (! ·.qualified))
        let extra ← Step.below (max 1 (min settings.maxPointerDepth 4 - 1))
        Environment.addLinks base.targetType (1 + extra) 2 base.name) fun _ => True := by
      apply (Guards.idle (idle_choose _)).bind
      intro base _
      apply (Guards.idle (idle_below _)).bind
      exact fun extra _ => ofArrays.addLinks _ _ _ _
    exact chain state kept

theorem Guards.addComposites (kind : CompositeKind) (count index : Nat) :
    Guards good (addComposites kind count index) fun _ => True := by
  induction count generalizing index with
  | zero => exact .pure trivial
  | succ count ih => exact Guards.write.bind fun _ _ => ih (index + 1)

/-- What the arrays satisfy whenever one more is declared, they satisfy when the environment is built. -/
theorem OfArrays.build (ofArrays : OfArrays good)
    (array : Guards good (addArray settings scalars) fun _ => True) (layouts : Layouts) :
    Guards good (build settings scalars layouts) fun _ => True := by
  have values : Guards good (addScalars settings scalars) fun _ => True :=
    (Guards.idle (idle_below 18)).bind fun _ _ => ofArrays.addScalar.times _
  have pointers : Guards good (addPointers settings) fun _ => True :=
    fun state kept => Step.ends_bind.mpr (Step.ends_get.mpr ((ofArrays.addPointer _).times _ state kept))
  have numbered : Guards good (addVariables settings scalars) fun _ => True := by
    apply values.bind
    intro _ _
    apply (Guards.onlyIf fun _ => array.counted _).bind
    intro _ _
    exact Guards.onlyIf fun _ => pointers.bind fun _ _ => ofArrays.addChain.counted _
  apply Guards.write.bind
  intro _ _
  apply (Guards.onlyIf fun _ => numbered).bind
  intro _ _
  apply (Guards.addComposites .struct _ 0).bind
  intro _ _
  apply (Guards.addComposites .union _ 0).bind
  exact fun _ _ state kept => Step.ends_modify.mpr ⟨ofArrays _ _ rfl kept, trivial⟩

end

end Environment

end RandomC
