import RandomC.Generation.Prepared
import RandomC.Proofs.Descriptors

/-!
# Prepared settings

Prepared settings make sense, have sizes and hold everything that their modes imply.  So there is nothing left to
prepare: with the same files they are prepared to themselves, and lead to the same program as the settings they came
from.
-/

namespace RandomC

open Files (FileTree plainPath)

namespace Settings

variable {settings resolved prepared other : Settings} {tree : FileTree}

/-! ## Settings that make sense -/

/-- The settings make sense. -/
structure Valid (settings : Settings) : Prop where
  intSize : 0 < settings.intSize
  pointerSize : 0 < settings.pointerSize
  maxFuncs : 1 ≤ settings.maxFuncs
  maxBlockSize : 1 ≤ settings.maxBlockSize
  maxBlockDepth : 1 ≤ settings.maxBlockDepth
  maxGlobals : 1 ≤ settings.maxGlobals
  func1MaxParams : settings.func1MaxParams ≤ settings.maxParams
  inlineFunctionProb : 0 ≤ settings.inlineFunctionProb ∧ settings.inlineFunctionProb ≤ 100
  builtinFunctionProb : 0 ≤ settings.builtinFunctionProb ∧ settings.builtinFunctionProb ≤ 100
  cpp11 : settings.cpp11 = true → settings.langCpp = true
  maxExhaustiveDepth : settings.dfsExhaustive = true → 0 < settings.maxExhaustiveDepth
  randomBased : settings.dfsExhaustive = true → settings.randomBased = false

/-- A guard lets pass what it does not refuse. -/
theorem refuse_eq_ok {refused : Prop} [Decidable refused] {error : ConfigError}
    {rest : Unit → Except ConfigError Unit} :
    (if refused then (throw error >>= rest : Except ConfigError Unit) else rest ()) = .ok () ↔
      ¬ refused ∧ rest () = .ok () := by
  split <;> simp [*, bind, Except.bind, throw, throwThe, MonadExceptOf.throw]

theorem find_low_eq_none {settings : Settings} :
    settings.positiveLimits.find? (fun (_, limit) => limit < 1) = none ↔
      1 ≤ settings.maxFuncs ∧ 1 ≤ settings.maxBlockSize ∧ 1 ≤ settings.maxBlockDepth ∧ 1 ≤ settings.maxGlobals := by
  simp [positiveLimits]

theorem find_improper_eq_none {settings : Settings} :
    settings.probabilities.find? (fun (_, value) => value < 0 || 100 < value) = none ↔
      (0 ≤ settings.inlineFunctionProb ∧ settings.inlineFunctionProb ≤ 100) ∧
        0 ≤ settings.builtinFunctionProb ∧ settings.builtinFunctionProb ≤ 100 := by
  simp [probabilities]

/-- The settings that are not refused are those that make sense. -/
theorem validate_eq_ok {settings : Settings} : settings.validate = .ok () ↔ settings.Valid := by
  unfold validate
  -- With the two searches out of the way every guard is a condition, and they are passed one after the other.
  generalize limits : settings.positiveLimits.find? _ = low
  generalize percents : settings.probabilities.find? _ = improper
  constructor
  · intro passes
    obtain ⟨intSize, passes⟩ := refuse_eq_ok.mp passes
    obtain ⟨pointerSize, passes⟩ := refuse_eq_ok.mp passes
    obtain rfl : low = none := by
      cases low with
      | some => cases passes
      | none => rfl
    obtain ⟨entryParams, passes⟩ := refuse_eq_ok.mp passes
    obtain rfl : improper = none := by
      cases improper with
      | some => cases passes
      | none => rfl
    obtain ⟨standard, passes⟩ := refuse_eq_ok.mp passes
    obtain ⟨depth, passes⟩ := refuse_eq_ok.mp passes
    obtain ⟨funcs, blockSize, blockDepth, globals⟩ := find_low_eq_none.mp limits
    obtain ⟨inline, builtin⟩ := find_improper_eq_none.mp percents
    have mode : ¬ (settings.dfsExhaustive && settings.randomBased) = true := by
      intro both
      rw [if_pos both] at passes
      cases passes
    exact ⟨Int.not_le.mp intSize, Int.not_le.mp pointerSize, funcs, blockSize, blockDepth, globals,
      Int.not_lt.mp entryParams, inline, builtin, by simpa using standard, by simpa using depth, by simpa using mode⟩
  · intro valid
    have noLow : low = none :=
      limits.symm.trans
        (find_low_eq_none.mpr ⟨valid.maxFuncs, valid.maxBlockSize, valid.maxBlockDepth, valid.maxGlobals⟩)
    have noImproper : improper = none :=
      percents.symm.trans (find_improper_eq_none.mpr ⟨valid.inlineFunctionProb, valid.builtinFunctionProb⟩)
    subst noLow noImproper
    refine refuse_eq_ok.mpr ⟨Int.not_le.mpr valid.intSize, ?_⟩
    refine refuse_eq_ok.mpr ⟨Int.not_le.mpr valid.pointerSize, ?_⟩
    refine refuse_eq_ok.mpr ⟨Int.not_lt.mpr valid.func1MaxParams, ?_⟩
    refine refuse_eq_ok.mpr ⟨by simpa using valid.cpp11, ?_⟩
    refine refuse_eq_ok.mpr ⟨by simpa using valid.maxExhaustiveDepth, ?_⟩
    have mode : ¬ (settings.dfsExhaustive && settings.randomBased) = true := by simpa using valid.randomBased
    exact if_neg mode

/-! ## Modes -/

/-- The settings hold everything that their modes imply. -/
structure Closed (settings : Settings) : Prop where
  fastExecution : settings.fastExecution = true →
    settings.langCpp = true ∧ settings.jumps = false ∧ settings.maxArrayLenPerDim ≤ 5
  langCpp : settings.langCpp = true →
    settings.matchExactQualifiers = true ∧ settings.volStructUnionFields = false ∧
      settings.constStructUnionFields = false
  dfsExhaustive : settings.dfsExhaustive = true → settings.fixedStructFields = true

/-- What the modes imply is all that they change.  Fast execution comes first, since it implies C++. -/
theorem normalize_eq (settings : Settings) :
    settings.normalize =
      { settings with
        langCpp := settings.langCpp || settings.fastExecution
        jumps := settings.jumps && ! settings.fastExecution
        maxArrayLenPerDim :=
          if settings.fastExecution then min settings.maxArrayLenPerDim 5 else settings.maxArrayLenPerDim
        matchExactQualifiers := settings.matchExactQualifiers || settings.langCpp || settings.fastExecution
        volStructUnionFields := settings.volStructUnionFields && ! (settings.langCpp || settings.fastExecution)
        constStructUnionFields := settings.constStructUnionFields && ! (settings.langCpp || settings.fastExecution)
        fixedStructFields := settings.fixedStructFields || settings.dfsExhaustive } := by
  obtain ⟨⟩ := settings
  simp only [normalize, applyFastExecution, applyCpp, applyExhaustive]
  split <;> split <;> split <;> simp_all

theorem normalize_closed (settings : Settings) : settings.normalize.Closed := by
  rw [normalize_eq]
  constructor
  · intro fast
    simp only at fast
    simp [fast]
  · intro cpp
    simp only at cpp
    simp [cpp, Bool.or_assoc]
  · intro exhaustive
    simp only at exhaustive
    simp [exhaustive]

/-- Where nothing is left to imply, nothing changes. -/
theorem Closed.normalize (closed : settings.Closed) : settings.normalize = settings := by
  have cpp : (settings.langCpp || settings.fastExecution) = settings.langCpp := by
    simpa using fun fast => (closed.fastExecution fast).1
  have jumps : (settings.jumps && ! settings.fastExecution) = settings.jumps := by
    cases fast : settings.fastExecution with
    | false => simp
    | true => simp [(closed.fastExecution fast).2.1]
  have length : (if settings.fastExecution then min settings.maxArrayLenPerDim 5 else settings.maxArrayLenPerDim) =
      settings.maxArrayLenPerDim :=
    ite_eq_right_iff.mpr fun fast => min_eq_left (closed.fastExecution fast).2.2
  have exact : (settings.matchExactQualifiers || settings.langCpp) = settings.matchExactQualifiers := by
    simpa using fun cpp => (closed.langCpp cpp).1
  have volatile : (settings.volStructUnionFields && ! settings.langCpp) = settings.volStructUnionFields := by
    cases cpp : settings.langCpp with
    | false => simp
    | true => simp [(closed.langCpp cpp).2.1]
  have const : (settings.constStructUnionFields && ! settings.langCpp) = settings.constStructUnionFields := by
    cases cpp : settings.langCpp with
    | false => simp
    | true => simp [(closed.langCpp cpp).2.2]
  have fixed : (settings.fixedStructFields || settings.dfsExhaustive) = settings.fixedStructFields := by
    simpa using closed.dfsExhaustive
  rw [normalize_eq, Bool.or_assoc settings.matchExactQualifiers, cpp, jumps, length, exact, volatile, const, fixed]

/-! ## Sizes -/

theorem normalize_platformInfo (settings : Settings) :
    settings.normalize.platformInfo = settings.platformInfo := by
  rw [normalize_eq]

theorem fillSizes_platformInfo (integer pointer : Int) (settings : Settings) :
    (settings.fillSizes integer pointer).platformInfo = settings.platformInfo := rfl

/-- Sizes that are positive are kept. -/
theorem Valid.fillSizes (valid : settings.Valid) (integer pointer : Int) :
    settings.fillSizes integer pointer = settings := by
  rw [fillSizes_eq, if_pos valid.intSize, if_pos valid.pointerSize]

/-- A descriptor that gives sizes to some settings gives the same ones to all. -/
theorem describe_again {path text : String} (described : settings.describe path text = .ok resolved) :
    ∃ integer pointer, resolved = settings.fillSizes integer pointer ∧
      ∀ other : Settings, other.describe path text = .ok (other.fillSizes integer pointer) := by
  cases describe_eq_iff.mp described with
  | filled integers lastInteger lastPointer =>
      exact ⟨_, _, rfl, fun other => describe_eq_iff.mpr (.filled integers lastInteger lastPointer)⟩

/-- Sizes come from the host where there is nothing at the path of the descriptor, or else from the descriptor. -/
theorem resolvedFrom_eq_ok : resolvedFrom tree settings = .ok resolved ↔
    (∃ error, tree.lookUp (plainPath settings.descriptorPath) = .error error ∧ error.meansAbsence = true ∧
      settings.fillSizes hostSize hostSize = resolved) ∨
    ∃ content text, tree.lookUp (plainPath settings.descriptorPath) = .ok (some content) ∧ content.whole = .ok text ∧
      settings.describe settings.descriptorPath text = .ok resolved := by
  unfold resolvedFrom
  generalize plainPath settings.descriptorPath = place
  rcases tree.lookUp place with error | _ | content
  · cases absent : error.meansAbsence <;> simp [absent]
  · simp
  · cases decoded : content.whole with
    | error error => simp [decoded]
    | ok text => simp [decoded, mapError_eq_ok]

/-- Files that give sizes to some settings give the same ones to all with the same descriptor. -/
theorem resolvedFrom_again (found : resolvedFrom tree settings = .ok resolved) :
    ∃ integer pointer, resolved = settings.fillSizes integer pointer ∧
      ∀ other : Settings, other.platformInfo = settings.platformInfo →
        resolvedFrom tree other = .ok (other.fillSizes integer pointer) := by
  have samePath {other : Settings} (same : other.platformInfo = settings.platformInfo) :
      other.descriptorPath = settings.descriptorPath := by
    rw [descriptorPath, same, descriptorPath]
  obtain ⟨error, looked, absent, rfl⟩ | ⟨content, text, looked, decoded, described⟩ := resolvedFrom_eq_ok.mp found
  · refine ⟨hostSize, hostSize, rfl, fun other same => resolvedFrom_eq_ok.mpr (.inl ⟨error, ?_, absent, rfl⟩)⟩
    rw [samePath same, looked]
  · obtain ⟨integer, pointer, filled, again⟩ := describe_again described
    refine ⟨integer, pointer, filled, fun other same => ?_⟩
    rw [← samePath same] at looked again
    exact resolvedFrom_eq_ok.mpr (.inr ⟨content, text, looked, decoded, again other⟩)

/-! ## Preparing -/

/-- Settings that are prepared with what there is in a tree of files. -/
def preparedFrom (tree : FileTree) (settings : Settings) : Except Problem Settings :=
  (resolvedFrom tree settings).bind fun resolved =>
    (resolved.normalize.validate.mapError .config).map fun () => resolved.normalize

theorem prepare_tree (settings : Settings) (tree : FileTree) :
    settings.prepare FileTree.system tree = (preparedFrom tree settings, tree) := by
  rw [prepare, FileTree.bind_apply, resolve_tree, preparedFrom]
  cases resolvedFrom tree settings with
  | error problem => rfl
  | ok resolved =>
      dsimp only [Except.bind]
      cases resolved.normalize.validate <;> rfl

theorem preparedFrom_eq_ok : preparedFrom tree settings = .ok prepared ↔
    ∃ resolved, resolvedFrom tree settings = .ok resolved ∧ resolved.normalize = prepared ∧ prepared.Valid := by
  unfold preparedFrom
  cases resolvedFrom tree settings with
  | error problem => simp [Except.bind]
  | ok resolved =>
      simp only [Except.bind, Except.ok.injEq, exists_eq_left', ← validate_eq_ok]
      constructor
      · intro prepares
        cases checked : resolved.normalize.validate with
        | error error =>
            rw [checked] at prepares
            cases prepares
        | ok passed =>
            rw [checked] at prepares
            cases prepares
            exact ⟨rfl, checked⟩
      · rintro ⟨rfl, checked⟩
        rw [checked]
        rfl

end Settings

open Settings

theorem prepareAndGenerate_tree (settings : Settings) (source : Option Random.Source) (tree : FileTree) :
    prepareAndGenerate FileTree.system settings source tree =
      ((preparedFrom tree settings).map fun ready => generate ready (source.getD (.ofSeed ready.seed false)),
        tree) := by
  rw [prepareAndGenerate, FileTree.bind_apply, prepare_tree]
  cases preparedFrom tree settings <;> rfl

/-- Settings that are prepared make sense and hold what their modes imply, and are prepared to themselves as long as the
files are the same.  Besides the sizes nothing changes but what an active mode implies.  A program that is generated
from the settings as they were given is the one that is generated from the prepared ones. -/
theorem prepared_settings_are_fixed {settings prepared : Settings} {tree after : FileTree}
    (ready : settings.prepare FileTree.system tree = (.ok prepared, after)) :
    after = tree ∧ prepared.prepare FileTree.system tree = (.ok prepared, tree) ∧
      prepared.validate = .ok () ∧ prepared.Valid ∧ prepared.Closed ∧
      prepared =
        { settings with
          intSize := prepared.intSize
          pointerSize := prepared.pointerSize
          langCpp := settings.langCpp || settings.fastExecution
          jumps := settings.jumps && ! settings.fastExecution
          maxArrayLenPerDim :=
            if settings.fastExecution then min settings.maxArrayLenPerDim 5 else settings.maxArrayLenPerDim
          matchExactQualifiers := settings.matchExactQualifiers || settings.langCpp || settings.fastExecution
          volStructUnionFields := settings.volStructUnionFields && ! (settings.langCpp || settings.fastExecution)
          constStructUnionFields := settings.constStructUnionFields && ! (settings.langCpp || settings.fastExecution)
          fixedStructFields := settings.fixedStructFields || settings.dfsExhaustive } ∧
      ∀ source, prepareAndGenerate FileTree.system settings source tree =
        prepareAndGenerate FileTree.system prepared source tree := by
  rw [prepare_tree] at ready
  obtain ⟨prepares, rfl⟩ := Prod.mk.inj ready
  obtain ⟨resolved, found, same, valid⟩ := preparedFrom_eq_ok.mp prepares
  obtain ⟨integer, pointer, rfl, again⟩ := resolvedFrom_again found
  have closed : prepared.Closed := same ▸ normalize_closed _
  have fixed : preparedFrom tree prepared = .ok prepared := by
    refine preparedFrom_eq_ok.mpr ⟨prepared, ?_, closed.normalize, valid⟩
    have samePath : prepared.platformInfo = settings.platformInfo := by
      rw [← same, normalize_platformInfo, fillSizes_platformInfo]
    rw [again prepared samePath, valid.fillSizes]
  refine ⟨rfl, ?_, validate_eq_ok.mpr valid, valid, closed, ?_, fun source => ?_⟩
  · rw [prepare_tree, fixed]
  · rw [← same, normalize_eq]
    rfl
  · rw [prepareAndGenerate_tree, prepareAndGenerate_tree, prepares, fixed]

/-- A descriptor with both sizes. -/
def sizedTree : FileTree := ⟨[(["platform.info"], .text "integer size = 2\npointer size = 8\n")]⟩

/-- Fast execution, with sizes from the descriptor. -/
theorem prepared_settings_are_fixed_small : ∃ prepared : Settings,
    let settings : Settings := { fastExecution := true }
    settings.prepare FileTree.system sizedTree = (.ok prepared, sizedTree) ∧
      prepared.prepare FileTree.system sizedTree = (.ok prepared, sizedTree) ∧
      prepared.intSize = 2 ∧ prepared.pointerSize = 8 ∧ prepared.maxArrayLenPerDim = 5 ∧
      prepared.matchExactQualifiers = true ∧
      ∀ source, prepareAndGenerate FileTree.system settings source sizedTree =
        prepareAndGenerate FileTree.system prepared source sizedTree := by
  have prepares : preparedFrom sizedTree { fastExecution := true } =
      .ok (fillSizes 2 8 { fastExecution := true }).normalize :=
    eq_ok_of_toOption (by decide +kernel)
  have ready : ({ fastExecution := true } : Settings).prepare FileTree.system sizedTree =
      (.ok (fillSizes 2 8 { fastExecution := true }).normalize, sizedTree) := by
    rw [prepare_tree, prepares]
  obtain ⟨-, fixed, -, -, -, -, same⟩ := prepared_settings_are_fixed ready
  exact ⟨_, ready, fixed, rfl, rfl, rfl, rfl, same⟩

end RandomC
