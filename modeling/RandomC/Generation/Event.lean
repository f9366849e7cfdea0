/-!
# What is reported during generation

Events are collected in the order in which they happen. An attempt that is taken back leaves its events.
-/

namespace RandomC

/-- How much attention an event deserves. -/
inductive LogLevel where
  | debug
  | info
  | warning
  | error
  deriving DecidableEq, Repr

/-- The rank of a level: a higher one deserves more attention. -/
def LogLevel.rank : LogLevel → Nat
  | debug => 0
  | info => 1
  | warning => 2
  | error => 3

/-- The name of a level. -/
def LogLevel.name : LogLevel → String
  | debug => "DEBUG"
  | info => "INFO"
  | warning => "WARNING"
  | error => "ERROR"

/-- Something that happened during generation. -/
inductive Event where
  | composites (structs unions : Nat)
  | environment (globals arrays pointers links : Nat)
  /-- A function was added to the call graph. -/
  | scheduled (function : String)
  /-- A function got its body. -/
  | built (function : String)
  /-- A function found nothing to call. -/
  | noCallee (caller : String)
  | budgetExhausted
  /-- Every function has its body. -/
  | finished (functions globals : Nat)
  /-- The program is complete. -/
  | generated (functions globals : Nat) (seed : Int) (draws : Nat)
  deriving DecidableEq, Repr

namespace Event

/-- The level of an event. -/
def level : Event → LogLevel
  | generated .. => .info
  | _ => .debug

/-- The part of the generator that an event comes from. -/
def origin : Event → String
  | composites .. => "cfuzz.type_model"
  | environment .. => "cfuzz.environment"
  | scheduled .. | built .. | finished .. => "cfuzz.function_flow"
  | noCallee .. => "cfuzz.expressions"
  | budgetExhausted => "cfuzz.statements"
  | generated .. => "cfuzz.program"

/-- What is reported about an event. -/
def message : Event → String
  | composites structs unions => s!"Created {structs} struct and {unions} union types"
  | environment globals arrays pointers links =>
    s!"Environment: {globals} globals, {arrays} arrays, {pointers} pointers, {links} chain links"
  | scheduled function => s!"Scheduled {function}"
  | built function => s!"Built {function}"
  | noCallee caller => s!"No callee available for {caller}"
  | budgetExhausted => "Statement budget exhausted"
  | finished functions globals => s!"Built {functions} functions, {globals} on-demand globals"
  | generated functions globals seed draws =>
    s!"Generated {functions} functions and {globals} globals from seed {seed} ({draws} draws)"

end Event

end RandomC
