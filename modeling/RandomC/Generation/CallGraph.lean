import RandomC.Generation.State

/-!
# The call graph

Functions are numbered in the order of their creation, and a function calls only functions created after
it. A function is known by its signature as soon as it is created; its body follows.
-/

namespace RandomC

/-- Draws the parameters of a function, `limit` at most. -/
def drawParams (scalars : List CType) (limit : Int) : Gen (List Variable) := do
  let count ← if 0 < limit then Step.below (limit + 1) else pure 0
  (List.range count).mapM fun _ => do
    let name ← Gen.freshParam
    return ⟨name, ← Step.choose scalars⟩

/-- The number of the entry function. -/
def entryNumber : Int := 1

/-- Draws the signature of the function with a number. The entry function returns any type and takes no
parameters; qualifiers are drawn for its result, without effect. -/
def drawSignature (setup : Setup) (number : Int) : Gen Signature := do
  if number ≠ entryNumber then
    let result ← Step.choose setup.scalars
    return ⟨number, result, ← drawParams setup.scalars setup.settings.maxParams⟩
  let result ← setup.layouts.chooseType setup.scalars .uint32
  discard <| Step.coin (if setup.settings.volatiles then 50 else 0)
  discard <| Step.coin (if setup.settings.consts then 10 else 0)
  return ⟨number, result, []⟩

/-- The largest number of functions. -/
def maxFunctions (settings : Settings) : Int := max settings.maxFuncs 1

/-- Adds a function without a body to the call graph. -/
def addFunction (signature : Signature) : Gen Unit :=
  Gen.changeFlow fun flow =>
    { flow with
      functions := flow.functions ++ [signature]
      built := flow.built ++ [false]
      definitions := flow.definitions ++ [none] }

/-- Adds the entry function. -/
def addEntry (setup : Setup) : Gen Signature := do
  let signature ← drawSignature setup entryNumber
  addFunction signature
  return signature

/-- Creates the next function and gives its index, or nothing when there may be no more functions. The
result type is drawn unless it is given. -/
def createFunction (setup : Setup) (result : Option CType) : Gen (Option Nat) := do
  let flow := (← get).flow
  if maxFunctions setup.settings ≤ flow.functions.length then
    return none
  let signature ← match result with
    | some type => do
      let params ← drawParams setup.scalars setup.settings.maxParams
      pure ⟨flow.nextFunction, type, params⟩
    | none => drawSignature setup flow.nextFunction
  Gen.changeFlow fun flow => { flow with nextFunction := flow.nextFunction + 1 }
  addFunction signature
  Gen.remember (.created flow.functions.length signature)
  Gen.report (.scheduled signature.name)
  return some flow.functions.length

/-- The function at an index; an index below zero counts from the last. -/
def functionAt (index : Int) : Gen Signature := do Step.element (← get).flow.functions index

/-- The body of the function at an index is complete; an index below zero counts from the last. -/
def builtAt (index : Int) : Gen Bool := do Step.element (← get).flow.built index

/-- Gives the function at an index its definition; an index below zero counts from the last. -/
def define (index : Int) (definition : Definition) : Gen Unit := do
  let definitions ← Step.replace (← get).flow.definitions index (some definition)
  Gen.changeFlow fun flow => { flow with definitions }
  let built ← Step.replace (← get).flow.built index true
  Gen.changeFlow fun flow => { flow with built }

end RandomC
