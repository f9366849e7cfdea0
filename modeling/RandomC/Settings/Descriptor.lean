import RandomC.Text.Integer

/-!
# Target descriptors

A descriptor is a text that tells the sizes of a target. A line `integer size = N` or `pointer size = N`
gives a size in bytes; other lines have no meaning. Of several lines for one size the last one counts.
-/

namespace RandomC

/-- The sizes that depend on the target. -/
inductive SizeKind where
  | integer
  | pointer
  deriving DecidableEq, Repr

/-- The name of a size. -/
def SizeKind.name : SizeKind → String
  | integer => "integer"
  | pointer => "pointer"

/-- How a line begins that gives the size. -/
def SizeKind.lineStart (kind : SizeKind) : String := kind.name ++ " size ="

/-- The sizes of a target, as far as they are known. -/
structure Descriptor where
  integer : Option Int
  pointer : Option Int
  deriving DecidableEq, Repr

namespace Descriptor

/-- Nothing is known. -/
def empty : Descriptor := ⟨none, none⟩

/-- Puts in a size. -/
def set (kind : SizeKind) (value : Int) (descriptor : Descriptor) : Descriptor :=
  match kind with
  | .integer => { descriptor with integer := some value }
  | .pointer => { descriptor with pointer := some value }

/-- The text behind the beginning of a line, if the line begins so. -/
def rest? (start line : String) : Option String :=
  if line.startsWith start then some (String.ofList (line.toList.drop start.length)) else none

/-- The size that a line is about, and its value as it is written. -/
def readLine (line : String) : Option (SizeKind × String) :=
  let line := Text.strip line
  match rest? SizeKind.integer.lineStart line with
  | some value => some (.integer, value)
  | none => (rest? SizeKind.pointer.lineStart line).map (SizeKind.pointer, ·)

/-- Puts in what the lines tell. The error is the first size that is not an integer. -/
def readLines (descriptor : Descriptor) : List String → Except SizeKind Descriptor
  | [] => .ok descriptor
  | line :: rest =>
    match readLine line with
    | none => descriptor.readLines rest
    | some (kind, value) =>
      match Text.readInteger 10 (Text.strip value) with
      | .ok value => (descriptor.set kind value).readLines rest
      | .error _ => .error kind

/-- Reads a descriptor. -/
def read (text : String) : Except SizeKind Descriptor := empty.readLines (Text.splitLines text)

end Descriptor

end RandomC
