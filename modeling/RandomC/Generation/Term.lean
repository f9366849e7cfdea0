import RandomC.Generation.State

/-!
# Choosing a term

A term is chosen by weight. There are two ways to choose: by redrawing until the term is allowed, and by a
single draw that may come to nothing. The second way also limits how many terms a whole expression uses.
-/

namespace RandomC

/-- The kinds of terms. -/
inductive Term where
  | call
  | read
  | constant
  | assign
  | comma
  deriving DecidableEq, Repr

/-- The name of a kind of term. -/
def Term.name : Term → String
  | call => "function"
  | read => "variable"
  | constant => "constant"
  | assign => "assign"
  | comma => "comma"

/-- The terms of one choice with their weights. An argument of a call is never a constant. -/
def termWeights (argument : Bool) (settings : Settings) : List (Term × Int) :=
  (if argument then [(.call, 40), (.read, 40), (.constant, 0)]
   else [(.call, 70), (.read, 20), (.constant, 10)]) ++
  (if settings.embeddedAssigns then [(.assign, 10)] else []) ++
  (if settings.commaOperators then [(.comma, 10)] else [])

/-- The entry into whose share of the total weight a value falls, or the fallback beyond the total. -/
def decodeWeighted {α : Type} (fallback : α) : List (α × Int) → Int → α
  | [], _ => fallback
  | (entry, weight) :: rest, value =>
    if weight ≤ 0 then decodeWeighted fallback rest value
    else if value < weight then entry
    else decodeWeighted fallback rest (value - weight)

/-- The total of the weights. -/
def totalWeight {α : Type} (entries : List (α × Int)) : Int :=
  entries.foldr (fun entry total => entry.2 + total) 0

/-- Chooses a term by redrawing until one is allowed; nothing is drawn when none is. -/
def chooseAllowed (entries : List (Term × Int)) (barred : Term → Bool) : Gen (Option Term) := do
  if entries.all fun (term, weight) => decide (weight ≤ 0) || barred term then
    return none
  let decode (value : Nat) := decodeWeighted .read entries value
  let value ← Step.belowUnless (totalWeight entries) fun value => barred (decode value)
  return some (decode value)

/-- Chooses a term by one draw, which comes to nothing when the term is barred. -/
def chooseOnce (entries : List (Term × Int)) (barred : Term → Bool) : Gen (Option Term) := do
  let term := decodeWeighted .read entries (← Step.below (totalWeight entries))
  return if barred term then none else some term

/-- Chooses a term in the way that the settings ask for. -/
def chooseTerm (settings : Settings) (entries : List (Term × Int)) (barred : Term → Bool) :
    Gen (Option Term) :=
  if settings.exactReplay then chooseAllowed entries barred else chooseOnce entries barred

/-- The number of terms that one whole expression may use where it is limited. -/
def termBudget (settings : Settings) : Int := 16 + 12 * max 1 settings.maxExprComplexity

namespace World

/-- Opens a term budget for a whole expression where terms are limited, and gives the budget before. -/
def openTerms (settings : Settings) (world : World) : Option Int × World :=
  if settings.exactReplay then (none, world)
  else (some world.remaining, { world with remaining := termBudget settings })

/-- Closes a term budget: the one before is in force again. -/
def closeTerms (saved : Option Int) (world : World) : World :=
  match saved with
  | some remaining => { world with remaining }
  | none => world

end World

/-- Runs a step with a term budget of its own. The budget before is in force again afterwards, also when
the step fails. -/
def withTerms {α : Type} (settings : Settings) (step : Gen α) : Gen α := fun world =>
  let (saved, opened) := world.openTerms settings
  let (result, after) := step opened
  (result, after.closeTerms saved)

/-- Charges terms to the budget of the expression in progress. -/
def spendTerms (settings : Settings) (count : Int) : Gen Unit :=
  if settings.exactReplay then return
  else modify fun world => { world with remaining := world.remaining - count }

/-- The budget of the expression in progress is used up. -/
def termsExhausted (settings : Settings) : Gen Bool := do
  return ! settings.exactReplay && decide ((← get).remaining ≤ 0)

end RandomC
