import RandomC.Generation.Statement

/-!
# Building function bodies

A body may create functions, whose bodies are then built before it goes on. `bodies` ties this knot: it is
a recursion on the number of functions that may still be created, since a body that is built inside
another one starts with more functions than the other one did.
-/

namespace RandomC

/-- Two globals whose sum an accumulator starts with: the first two of the environment. -/
def accumulatorSeeds (env : Environment) : Option (String × String) :=
  match env.globals with
  | first :: second :: _ => some (first.name, second.name)
  | _ => none

/-- Generates what is mixed into one of the environment's writable globals at the end of a body. -/
def Site.mix (site : Site) : Gen (Option (String × Expr)) := do
  let writable := site.setup.env.writable
  if writable.isEmpty then
    return none
  let v ← Step.choose writable
  return some (v.name, ← site.expression (.plain v.type))

/-- Generates a function body and makes a definition of it. -/
def Site.definition (site : Site) (signature : Signature) (returnLocal : String) : Gen Definition := do
  let body ← site.block 0 false
  let mix ← site.mix
  Gen.report (.built signature.name)
  return ⟨signature, returnLocal, accumulatorSeeds site.setup.env, body, mix⟩

/-- Generates a definition of the function at an index, given how the bodies of the functions that it
creates are built. -/
def buildDefinition (setup : Setup) (build : Option (Int → Gen Unit)) (index : Int) : Gen Definition := do
  let signature ← functionAt index
  let returnLocal ← Gen.freshLocal
  Gen.remember (.entered index returnLocal)
  let site : Site := ⟨setup, .ofParams signature.params returnLocal, build⟩
  Gen.inContext (.of index) (site.definition signature returnLocal)

/-- Gives the function at an index a definition, unless it has one. -/
def ensureBuilt (setup : Setup) (build : Option (Int → Gen Unit)) (index : Int) : Gen Unit := do
  if ← builtAt index then
    return
  let definition ← Gen.spanning (buildDefinition setup build index)
  Gen.remember (.defined index definition)
  define index definition

/-- How bodies are built where at most `free` more functions can be created. -/
def bodies (setup : Setup) : (free : Nat) → Option (Int → Gen Unit)
  | 0 => none
  | free + 1 => some fun index => ensureBuilt setup (bodies setup free) index

/-- How the bodies of the functions are built that are created next. -/
def nextBodies (setup : Setup) (flow : Flow) : Option (Int → Gen Unit) :=
  bodies setup (maxFunctions setup.settings - flow.functions.length).toNat

/-- Gives every function from an index on its definition, those included that are created meanwhile;
`left` bounds their number. -/
def buildFrom (setup : Setup) : (left : Nat) → (index : Nat) → Gen Unit
  | 0, _ => return
  | left + 1, index => do
    let flow := (← get).flow
    if index < flow.functions.length then
      ensureBuilt setup (nextBodies setup flow) index
      buildFrom setup left (index + 1)

/-- Adds the entry function and builds it and all functions that this creates. -/
def run (setup : Setup) : Gen Unit := do
  discard <| addEntry setup
  let count := (← get).flow.functions.length
  buildFrom setup (max count (maxFunctions setup.settings).toNat) 0
  let flow := (← get).flow
  Gen.report (.finished flow.functions.length flow.created.length)

end RandomC
