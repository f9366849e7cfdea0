import RandomC.Random.Source

/-!
# Streams

A stream is a source together with a record of where each draw from it started and stopped.  The record
is there for statements about all draws of a run: nothing that is drawn depends on it.
-/

namespace RandomC.Random

/-- How far a source has come since it was seeded. -/
structure Position where
  drawn : Nat
  state : BitVec 48
  deriving DecidableEq, Repr

/-- How far the source has come. -/
def Source.position (source : Source) : Position := ⟨source.drawn, source.state⟩

/-- Where a draw started and where it stopped. -/
structure Reading where
  start : Position
  stop : Position
  deriving DecidableEq, Repr

/-- A source with the readings that were taken from it, the last one first. -/
structure Stream where
  source : Source
  readings : List Reading
  deriving Repr

/-- A source from which nothing was read yet. -/
instance : Coe Source Stream := ⟨fun source => ⟨source, []⟩⟩

/-- Draws from the source, and records it. -/
def Stream.draw {α : Type} (action : StateM Source α) (stream : Stream) : α × Stream :=
  let drawn := action stream.source
  (drawn.1, ⟨drawn.2, ⟨stream.source.position, drawn.2.position⟩ :: stream.readings⟩)

end RandomC.Random
