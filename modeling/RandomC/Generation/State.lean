import RandomC.Composite.Layouts
import RandomC.Environment.Basic
import RandomC.Generation.Event

/-!
# The state of function generation

Functions are generated by trial: a statement or term that cannot be completed is taken back. Every list
of the state only grows at its end during an attempt, so a snapshot records lengths and counters, and
going back to it cuts the lists and resets the counters. The random source and the term budget of the
expression in progress are not part of a snapshot.

The functions are three lists of one length: their signatures, whether their bodies are complete, and
their definitions. The state also holds the history of the run, for statements about all its moments.
-/

namespace RandomC

/-- What a generation pass starts from and never changes. -/
structure Setup where
  settings : Settings
  scalars : List CType
  layouts : Layouts
  env : Environment

/-- A global that was created on demand, as it is to be declared. -/
structure PendingGlobal where
  v : GlobalVar
  initial : Initial
  deriving DecidableEq, Repr

/-- The declaration of a global that was created on demand. -/
def PendingGlobal.declaration (pending : PendingGlobal) : Declaration := .global pending.v pending.initial

/-- The part of the state that all functions share. -/
structure Flow where
  /-- The functions, in the order of their creation. -/
  functions : List Signature
  /-- Which of the functions have a complete body. -/
  built : List Bool
  /-- The definitions of the functions, each absent until the body is complete. -/
  definitions : List (Option Definition)
  /-- The number of the next function. -/
  nextFunction : Nat
  nextParam : Nat
  nextLocal : Nat
  nextGlobal : Int
  /-- The globals created since the environment was built. -/
  created : List GlobalVar
  /-- The scalar globals on offer: those of the environment, then the created ones. -/
  candidates : List Candidate
  /-- Those of the created globals that have to be declared. -/
  pending : List PendingGlobal
  /-- The number of statements that may still be started; there is no limit when it is negative. -/
  budget : Int
  deriving Repr

/-- The part of the state that belongs to the function whose body is being generated. -/
structure Context where
  /-- The index of the function; it calls functions with a greater one. -/
  caller : Int
  /-- Local variables declared in the body. -/
  locals : List Variable
  /-- The place that was changed last. -/
  lastChanged : Option Candidate
  deriving Repr

/-- The parts of the state that an attempt may change and that are brought back when it fails. -/
structure Checkpoint where
  flow : Flow
  context : Context
  deriving Repr

/-- A moment of a run. -/
inductive Moment where
  /-- A function was created for a call, at an index. -/
  | created (index : Nat) (signature : Signature)
  /-- The body of the function at an index was begun, with the name of the variable it returns. -/
  | entered (index : Int) (returnLocal : String)
  /-- The body of the function at an index was complete and led to a definition. -/
  | defined (index : Int) (definition : Definition)
  /-- The function at an index was chosen to be called. -/
  | called (index : Int) (now : Checkpoint)
  /-- A whole expression was complete. -/
  | expressed (expr : Expr)
  /-- A statement of a block was begun at `start`, and charged to the budget if it does anything. -/
  | begun (start now : Checkpoint)
  /-- A snapshot was taken. -/
  | saved (now : Checkpoint)
  /-- The state went back to the snapshot that was taken at `start`. -/
  | restored (start now : Checkpoint)
  /-- An expression, a block or a definition that was begun at `start` was completed. -/
  | completed (start now : Checkpoint)
  deriving Repr

/-- The state of function generation. -/
structure World where
  source : Random.Source
  flow : Flow
  context : Context
  /-- The number of terms that the expression in progress may still use where it is limited. -/
  remaining : Int
  log : Array Event
  /-- The moments of the run so far, the last one first. No step looks at them. -/
  history : List Moment
  /-- What was read from the source so far, the last reading first. No step looks at it, and it stands apart
  from the source so that a source which went back would not take it along. -/
  readings : List Random.Reading

instance : Drawing World where
  stream world := ⟨world.source, world.readings⟩
  withStream stream world := { world with source := stream.source, readings := stream.readings }

/-- A step of function generation. -/
abbrev Gen := Step World

/-- The variables that the body of one function sees besides the globals. -/
structure Scope where
  params : List Variable
  locals : List Variable
  /-- The name of the variable that is returned. -/
  returnLocal : String
  deriving Repr

/-- The scope of a function with the given parameters: its only local variable is the accumulator. -/
def Scope.ofParams (params : List Variable) (returnLocal : String) : Scope :=
  ⟨params, [⟨accumulator, .uint32⟩], returnLocal⟩

/-- A point of generation to which the state can go back. -/
structure Snapshot where
  locals : Nat
  functions : Nat
  built : Nat
  definitions : Nat
  nextFunction : Nat
  nextParam : Nat
  nextLocal : Nat
  created : Nat
  nextGlobal : Int
  budget : Int
  pending : Nat
  deriving DecidableEq, Repr

namespace Flow

/-- The state before the first function. -/
def initial (setup : Setup) : Flow where
  functions := []
  built := []
  definitions := []
  nextFunction := 2
  nextParam := 1
  nextLocal := 0
  nextGlobal := setup.env.nextId
  created := []
  candidates := setup.env.globals.map GlobalVar.candidate
  pending := []
  budget := if 0 ≤ setup.settings.stopByStmt then setup.settings.stopByStmt else -1

end Flow

/-- The context of a function before its body is generated. -/
def Context.of (caller : Int) : Context := ⟨caller, [], none⟩

/-- The lengths and counters at a checkpoint. -/
def Checkpoint.snapshot (now : Checkpoint) : Snapshot where
  locals := now.context.locals.length
  functions := now.flow.functions.length
  built := now.flow.built.length
  definitions := now.flow.definitions.length
  nextFunction := now.flow.nextFunction
  nextParam := now.flow.nextParam
  nextLocal := now.flow.nextLocal
  created := now.flow.created.length
  nextGlobal := now.flow.nextGlobal
  budget := now.flow.budget
  pending := now.flow.pending.length

namespace World

/-- The state before the first function, whatever was logged before. -/
def start (setup : Setup) (source : Random.Source) (log : Array Event) : World :=
  ⟨source, .initial setup, .of 0, 0, log, [], []⟩

/-- The present flow and context. -/
def checkpoint (world : World) : Checkpoint := ⟨world.flow, world.context⟩

/-- The present lengths and counters. -/
def snapshot (world : World) : Snapshot := world.checkpoint.snapshot

/-- Goes back to a snapshot: lists are cut to their lengths at the time and counters are reset. The
candidates of the environment stand before those that were created. -/
def restore (setup : Setup) (snapshot : Snapshot) (world : World) : World :=
  { world with
    context := { world.context with locals := world.context.locals.take snapshot.locals }
    flow :=
      { functions := world.flow.functions.take snapshot.functions
        built := world.flow.built.take snapshot.built
        definitions := world.flow.definitions.take snapshot.definitions
        nextFunction := snapshot.nextFunction
        nextParam := snapshot.nextParam
        nextLocal := snapshot.nextLocal
        nextGlobal := snapshot.nextGlobal
        created := world.flow.created.take snapshot.created
        candidates := world.flow.candidates.take (setup.env.globals.length + snapshot.created)
        pending := world.flow.pending.take snapshot.pending
        budget := snapshot.budget } }

end World

/-- The name of the parameter with a number. -/
def paramName (number : Nat) : String := s!"p_{number}"

/-- The name of the local variable with a number. -/
def localName (number : Nat) : String := s!"l_{number}"

namespace Gen

/-- Changes the shared part of the state. -/
def changeFlow (f : Flow → Flow) : Gen Unit := modify fun world => { world with flow := f world.flow }

/-- Adds an event to the log. -/
def report (event : Event) : Gen Unit := modify fun world => { world with log := world.log.push event }

/-- Adds a moment to the history. -/
def remember (moment : Moment) : Gen Unit :=
  modify fun world => { world with history := moment :: world.history }

/-- Takes a snapshot. The checkpoint goes with it for the history; only its lengths and counters serve to
go back. -/
def save : Gen Checkpoint := do
  let now := (← get).checkpoint
  remember (.saved now)
  return now

/-- Goes back to the snapshot that was taken at a checkpoint. -/
def goBack (setup : Setup) (start : Checkpoint) : Gen Unit := do
  modify (World.restore setup start.snapshot)
  remember (.restored start (← get).checkpoint)

/-- Makes an attempt. If it comes to nothing, the state goes back to where it was and `again` follows. -/
def attemptOr {α : Type} (setup : Setup) (attempt : Gen (Option α)) (again : Gen α) : Gen α := do
  let start ← save
  match ← attempt with
  | some made => return made
  | none =>
    goBack setup start
    again

/-- Runs a step whose completion the history holds. -/
def spanning {α : Type} (step : Gen α) : Gen α := do
  let start := (← get).checkpoint
  let made ← step
  remember (.completed start (← get).checkpoint)
  return made

/-- Runs a step in a context of its own. The context before is in place again afterwards, also when the
step fails. -/
def inContext {α : Type} (context : Context) (step : Gen α) : Gen α := fun world =>
  let (result, after) := step { world with context }
  (result, { after with context := world.context })

/-- Takes the next name of a parameter. -/
def freshParam : Gen String := do
  let number := (← get).flow.nextParam
  changeFlow fun flow => { flow with nextParam := number + 1 }
  return paramName number

/-- Takes the next name of a local variable. -/
def freshLocal : Gen String := do
  let number := (← get).flow.nextLocal
  changeFlow fun flow => { flow with nextLocal := number + 1 }
  return localName number

/-- Takes the next name of a global variable. -/
def freshGlobal : Gen String := do
  let number := (← get).flow.nextGlobal
  changeFlow fun flow => { flow with nextGlobal := number + 1 }
  return globalName number

/-- Adds a global to those on offer. -/
def addGlobal (v : GlobalVar) : Gen Candidate := do
  changeFlow fun flow =>
    { flow with created := flow.created ++ [v], candidates := flow.candidates ++ [v.candidate] }
  return v.candidate

/-- Has a created global declared. -/
def declareLater (v : GlobalVar) (initial : Initial) : Gen Unit :=
  changeFlow fun flow => { flow with pending := flow.pending ++ [⟨v, initial⟩] }

end Gen

end RandomC
