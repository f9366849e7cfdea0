/-!
# The random source

Every random decision of a generated program is drawn from one source: a linear congruential
generator on 48-bit words whose raw values are the upper 31 bits of the state. A program is a function
of the seed and of the order of the draws, so the source also counts them and, on request, records the
decisions made with them.

Four primitives draw: `next`, `below`, `coin` and `belowUnless`. Nothing here gives a draw back.
-/

namespace RandomC

namespace Random

/-- A decision that was made with drawn values. -/
inductive Decision where
  /-- A value below `bound`, settled after `tries` redraws, the last of them `raw`. -/
  | bounded (bound : Int) (value tries raw : Nat)
  /-- A coin that falls heads with `percent` chances in a hundred. -/
  | coin (percent : Nat) (heads : Bool) (raw : Nat)
  deriving DecidableEq, Repr

/-- The multiplier of the recurrence. -/
def multiplier : BitVec 48 := 0x5DEECE66D

/-- The increment of the recurrence. -/
def increment : BitVec 48 := 0xB

/-- One step of the recurrence, in words of 48 bits. -/
def advance (state : BitVec 48) : BitVec 48 := multiplier * state + increment

/-- The raw value that a state shows: its upper 31 bits. -/
def output (state : BitVec 48) : Nat := (state >>> 17).toNat

/-- The first state of a seed: the seed's low 32 bits above a fixed word of 16 bits. -/
def seedState (seed : Int) : BitVec 48 := BitVec.ofInt 48 (seed * 0x10000 + 0x330E)

/-- A value is redrawn at most this often before the draw is given up. -/
def maxRedraws : Nat := 0x10000

/-- A random source: the state, the number of values drawn since it was seeded, and the decisions
recorded since then, which stay empty unless `tracing`. -/
structure Source where
  seed : Int
  state : BitVec 48
  drawn : Nat
  tracing : Bool
  decisions : Array Decision
  deriving Repr

/-- A source at the start of the stream of a seed. -/
def Source.ofSeed (seed : Int) (tracing : Bool) : Source :=
  ⟨seed, seedState seed, 0, tracing, #[]⟩

namespace Source

/-- Starts the stream of another seed; what was drawn or recorded before is forgotten. -/
def reseed (seed : Int) (source : Source) : Source := ofSeed seed source.tracing

/-- Adds a decision to the record of a tracing source. -/
def record (decision : Decision) (source : Source) : Source :=
  if source.tracing then { source with decisions := source.decisions.push decision } else source

/-- Draws one raw value. -/
def next : StateM Source Nat := fun source =>
  let state := advance source.state
  (output state, { source with state, drawn := source.drawn + 1 })

/-- Draws a value below `bound`; it is 0, without a draw, when the bound is not positive. -/
def below (bound : Int) : StateM Source Nat := do
  if bound ≤ 0 then
    return 0
  let raw ← next
  let value := raw % bound.toNat
  modify (record (.bounded bound value 0 raw))
  return value

/-- Flips a coin that falls heads with `percent` chances in a hundred, clamped to 0..100. -/
def coin (percent : Int) : StateM Source Bool := do
  let percent := min percent.toNat 100
  let raw ← next
  let heads := decide (raw % 100 < percent)
  modify (record (.coin percent heads raw))
  return heads

/-- Draws again as long as the last raw value is rejected and a redraw is left. The answer holds the
last raw value and the number of redraws made. -/
def redraw (reject : Nat → Bool) : (left : Nat) → (raw : Nat) → (tries : Nat) → StateM Source (Nat × Nat)
  | 0, raw, tries => return (raw, tries)
  | left + 1, raw, tries => do
    if reject raw then
      let raw ← next
      redraw reject left raw (tries + 1)
    else
      return (raw, tries)

/-- Draws values below `bound` until one is not rejected. After `maxRedraws` redraws the draw is given
up, and the answer is the number of redraws made. -/
def belowUnless (bound : Int) (reject : Nat → Bool) : StateM Source (Except Nat Nat) := do
  if bound ≤ 0 then
    return .ok 0
  let first ← next
  let (raw, tries) ← redraw (fun raw => reject (raw % bound.toNat)) maxRedraws first 0
  let value := raw % bound.toNat
  if reject value then
    return .error tries
  modify (record (.bounded bound value tries raw))
  return .ok value

end Source

end Random

end RandomC
