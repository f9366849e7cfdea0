import RandomC.Settings.Basic

/-!
# The table of settings

Each setting has a key under which it is stored and given, belongs to a group, and holds a number, a
switch or words. The order of the table is the order in which settings are stored and listed.
-/

namespace RandomC

namespace Settings

/-- The value of a setting. -/
inductive Value where
  | number (value : Int)
  | flag (value : Bool)
  | words (value : String)
  deriving DecidableEq, Repr

/-- A value as it is stored. -/
def Value.text : Value → String
  | number value => toString value
  | flag true => "True"
  | flag false => "False"
  | words value => value

/-- How a setting of some kind is read from and put into the settings. -/
inductive Access where
  | number (get : Settings → Int) (set : Int → Settings → Settings)
  | flag (get : Settings → Bool) (set : Bool → Settings → Settings)
  | words (get : Settings → String) (set : String → Settings → Settings)

/-- A row of the table. -/
structure Setting where
  group : Group
  key : String
  access : Access

/-- The value that a setting has. -/
def Setting.get (setting : Setting) (settings : Settings) : Value :=
  match setting.access with
  | .number get _ => .number (get settings)
  | .flag get _ => .flag (get settings)
  | .words get _ => .words (get settings)

/-- The settings with another value of one of them. A switch that is given a number is on unless the number
is zero, and a number that is given a switch is one or zero; words go to words only. -/
def Setting.set (setting : Setting) (value : Value) (settings : Settings) : Settings :=
  match setting.access, value with
  | .number _ set, .number value => set value settings
  | .number _ set, .flag value => set (if value then 1 else 0) settings
  | .flag _ set, .flag value => set value settings
  | .flag _ set, .number value => set (decide (value ≠ 0)) settings
  | .words _ set, .words value => set value settings
  | _, _ => settings

/-- All settings. -/
def table : List Setting :=
  [⟨.general, "seed", .number (·.seed) fun v s => { s with seed := v }⟩,
   ⟨.general, "no_main", .flag (·.noMain) fun v s => { s with noMain := v }⟩,
   ⟨.general, "platform_info", .words (·.platformInfo) fun v s => { s with platformInfo := v }⟩,
   ⟨.general, "int_size", .number (·.intSize) fun v s => { s with intSize := v }⟩,
   ⟨.general, "pointer_size", .number (·.pointerSize) fun v s => { s with pointerSize := v }⟩,
   ⟨.limits, "max_funcs", .number (·.maxFuncs) fun v s => { s with maxFuncs := v }⟩,
   ⟨.limits, "max_params", .number (·.maxParams) fun v s => { s with maxParams := v }⟩,
   ⟨.limits, "func1_max_params", .number (·.func1MaxParams) fun v s => { s with func1MaxParams := v }⟩,
   ⟨.limits, "max_block_size", .number (·.maxBlockSize) fun v s => { s with maxBlockSize := v }⟩,
   ⟨.limits, "max_block_depth", .number (·.maxBlockDepth) fun v s => { s with maxBlockDepth := v }⟩,
   ⟨.limits, "max_expr_complexity", .number (·.maxExprComplexity) fun v s => { s with maxExprComplexity := v }⟩,
   ⟨.limits, "max_struct_fields", .number (·.maxStructFields) fun v s => { s with maxStructFields := v }⟩,
   ⟨.limits, "max_union_fields", .number (·.maxUnionFields) fun v s => { s with maxUnionFields := v }⟩,
   ⟨.limits, "max_pointer_depth", .number (·.maxPointerDepth) fun v s => { s with maxPointerDepth := v }⟩,
   ⟨.limits, "max_array_dim", .number (·.maxArrayDim) fun v s => { s with maxArrayDim := v }⟩,
   ⟨.limits, "max_array_len_per_dim", .number (·.maxArrayLenPerDim) fun v s => { s with maxArrayLenPerDim := v }⟩,
   ⟨.limits, "max_globals", .number (·.maxGlobals) fun v s => { s with maxGlobals := v }⟩,
   ⟨.limits, "max_exhaustive_depth", .number (·.maxExhaustiveDepth) fun v s => { s with maxExhaustiveDepth := v }⟩,
   ⟨.limits, "inline_function_prob", .number (·.inlineFunctionProb) fun v s => { s with inlineFunctionProb := v }⟩,
   ⟨.limits, "builtin_function_prob", .number (·.builtinFunctionProb) fun v s => { s with builtinFunctionProb := v }⟩,
   ⟨.limits, "stop_by_stmt", .number (·.stopByStmt) fun v s => { s with stopByStmt := v }⟩,
   ⟨.features, "compute_hash", .flag (·.computeHash) fun v s => { s with computeHash := v }⟩,
   ⟨.features, "accept_argc", .flag (·.acceptArgc) fun v s => { s with acceptArgc := v }⟩,
   ⟨.features, "arrays", .flag (·.arrays) fun v s => { s with arrays := v }⟩,
   ⟨.features, "bitfields", .flag (·.bitfields) fun v s => { s with bitfields := v }⟩,
   ⟨.features, "compound_assignment", .flag (·.compoundAssignment) fun v s => { s with compoundAssignment := v }⟩,
   ⟨.features, "consts", .flag (·.consts) fun v s => { s with consts := v }⟩,
   ⟨.features, "embedded_assigns", .flag (·.embeddedAssigns) fun v s => { s with embeddedAssigns := v }⟩,
   ⟨.features, "comma_operators", .flag (·.commaOperators) fun v s => { s with commaOperators := v }⟩,
   ⟨.features, "jumps", .flag (·.jumps) fun v s => { s with jumps := v }⟩,
   ⟨.features, "long_long", .flag (·.longLong) fun v s => { s with longLong := v }⟩,
   ⟨.features, "pointers", .flag (·.pointers) fun v s => { s with pointers := v }⟩,
   ⟨.features, "structs", .flag (·.structs) fun v s => { s with structs := v }⟩,
   ⟨.features, "unions", .flag (·.unions) fun v s => { s with unions := v }⟩,
   ⟨.features, "vol_struct_union_fields", .flag (·.volStructUnionFields) fun v s => { s with volStructUnionFields := v }⟩,
   ⟨.features, "const_struct_union_fields", .flag (·.constStructUnionFields) fun v s => { s with constStructUnionFields := v }⟩,
   ⟨.features, "volatiles", .flag (·.volatiles) fun v s => { s with volatiles := v }⟩,
   ⟨.features, "volatile_pointers", .flag (·.volatilePointers) fun v s => { s with volatilePointers := v }⟩,
   ⟨.features, "const_pointers", .flag (·.constPointers) fun v s => { s with constPointers := v }⟩,
   ⟨.features, "global_variables", .flag (·.globalVariables) fun v s => { s with globalVariables := v }⟩,
   ⟨.features, "hash_value_printf", .flag (·.hashValuePrintf) fun v s => { s with hashValuePrintf := v }⟩,
   ⟨.features, "safe_math", .flag (·.safeMath) fun v s => { s with safeMath := v }⟩,
   ⟨.features, "packed_struct", .flag (·.packedStruct) fun v s => { s with packedStruct := v }⟩,
   ⟨.features, "builtins", .flag (·.builtins) fun v s => { s with builtins := v }⟩,
   ⟨.features, "const_as_condition", .flag (·.constAsCondition) fun v s => { s with constAsCondition := v }⟩,
   ⟨.features, "allow_const_volatile", .flag (·.allowConstVolatile) fun v s => { s with allowConstVolatile := v }⟩,
   ⟨.features, "match_exact_qualifiers", .flag (·.matchExactQualifiers) fun v s => { s with matchExactQualifiers := v }⟩,
   ⟨.mode, "random_based", .flag (·.randomBased) fun v s => { s with randomBased := v }⟩,
   ⟨.mode, "dfs_exhaustive", .flag (·.dfsExhaustive) fun v s => { s with dfsExhaustive := v }⟩,
   ⟨.mode, "lang_cpp", .flag (·.langCpp) fun v s => { s with langCpp := v }⟩,
   ⟨.mode, "cpp11", .flag (·.cpp11) fun v s => { s with cpp11 := v }⟩,
   ⟨.mode, "fast_execution", .flag (·.fastExecution) fun v s => { s with fastExecution := v }⟩,
   ⟨.mode, "fixed_struct_fields", .flag (·.fixedStructFields) fun v s => { s with fixedStructFields := v }⟩,
   ⟨.mode, "exact_replay", .flag (·.exactReplay) fun v s => { s with exactReplay := v }⟩,
   ⟨.mode, "initial_environment", .flag (·.initialEnvironment) fun v s => { s with initialEnvironment := v }⟩]

/-- The setting that is stored under a key. -/
def find? (key : String) : Option Setting := table.find? (·.key == key)

/-- The settings with the values given for some keys; a key without a setting is passed over. -/
def override (values : List (String × Value)) (settings : Settings) : Settings :=
  values.foldl (fun settings (key, value) =>
    match find? key with
    | some setting => setting.set value settings
    | none => settings) settings

end Settings

end RandomC
