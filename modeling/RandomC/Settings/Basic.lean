/-!
# Settings

Everything that a user can choose about a generated program. The defaults stand beside the fields.
-/

namespace RandomC

/-- The settings of a generator run. -/
structure Settings where
  -- What to generate, and for which target.
  seed : Int := 0
  noMain : Bool := false
  platformInfo : String := "platform.info"
  intSize : Int := 0
  pointerSize : Int := 0
  -- How much to generate. A negative bound on statements stands for none.
  maxFuncs : Int := 10
  maxParams : Int := 5
  func1MaxParams : Int := 3
  maxBlockSize : Int := 4
  maxBlockDepth : Int := 5
  maxExprComplexity : Int := 10
  maxStructFields : Int := 10
  maxUnionFields : Int := 5
  maxPointerDepth : Int := 2
  maxArrayDim : Int := 3
  maxArrayLenPerDim : Int := 10
  maxGlobals : Int := 80
  maxExhaustiveDepth : Int := -1
  inlineFunctionProb : Int := 50
  builtinFunctionProb : Int := 50
  stopByStmt : Int := -1
  -- Which constructs of C to use.
  computeHash : Bool := true
  acceptArgc : Bool := true
  arrays : Bool := true
  bitfields : Bool := true
  compoundAssignment : Bool := true
  consts : Bool := true
  embeddedAssigns : Bool := true
  commaOperators : Bool := true
  jumps : Bool := true
  longLong : Bool := true
  pointers : Bool := true
  structs : Bool := true
  unions : Bool := true
  volStructUnionFields : Bool := true
  constStructUnionFields : Bool := true
  volatiles : Bool := true
  volatilePointers : Bool := true
  constPointers : Bool := true
  globalVariables : Bool := true
  hashValuePrintf : Bool := true
  safeMath : Bool := true
  packedStruct : Bool := true
  builtins : Bool := false
  constAsCondition : Bool := false
  allowConstVolatile : Bool := true
  matchExactQualifiers : Bool := false
  -- How decisions are made.
  randomBased : Bool := true
  dfsExhaustive : Bool := false
  langCpp : Bool := false
  cpp11 : Bool := false
  fastExecution : Bool := false
  fixedStructFields : Bool := false
  exactReplay : Bool := true
  initialEnvironment : Bool := false
  deriving DecidableEq, Repr

/-- The path of the target's description that stands for a blank one. -/
def defaultPlatformInfo : String := "platform.info"

/-- The groups into which settings fall. -/
inductive Settings.Group where
  | general
  | limits
  | features
  | mode
  deriving DecidableEq, Repr

/-- The name of a group. -/
def Settings.Group.name : Settings.Group → String
  | general => "general"
  | limits => "limits"
  | features => "features"
  | mode => "mode"

end RandomC
