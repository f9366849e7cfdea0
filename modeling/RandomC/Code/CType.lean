/-!
# C types

A type of the generated program as far as generation needs it: the name it is written with, and the
sign and width by which values are chosen.
-/

namespace RandomC

/-- A C type. -/
structure CType where
  name : String
  signed : Bool
  bits : Int
  deriving DecidableEq, Repr, Inhabited

namespace CType

def int8 : CType := ⟨"int8_t", true, 8⟩
def uint8 : CType := ⟨"uint8_t", false, 8⟩
def int16 : CType := ⟨"int16_t", true, 16⟩
def uint16 : CType := ⟨"uint16_t", false, 16⟩
def int32 : CType := ⟨"int32_t", true, 32⟩
def uint32 : CType := ⟨"uint32_t", false, 32⟩
def int64 : CType := ⟨"int64_t", true, 64⟩
def uint64 : CType := ⟨"uint64_t", false, 64⟩
def int128 : CType := ⟨"__int128", true, 128⟩
def uint128 : CType := ⟨"unsigned __int128", false, 128⟩

/-- The standard types, each under its own name. -/
def standard : List CType :=
  [int8, uint8, int16, uint16, int32, uint32, int64, uint64, int128, uint128]

/-- The `index`-th struct of a program. A composite type counts as an unsigned word of 32 bits. -/
def struct (index : Int) : CType := ⟨s!"struct S{index}", false, 32⟩

/-- The `index`-th union of a program. -/
def union (index : Int) : CType := ⟨s!"union U{index}", false, 32⟩

/-- The signed type of a target whose `int` has the given number of bytes. -/
def hostInt (intSize : Int) : CType :=
  if intSize = 1 then int8 else if intSize = 2 then int16 else if intSize = 8 then int64 else int32

/-- The unsigned type of a width, which is 32 bits for a width without a type of its own. -/
def unsignedOf (bits : Int) : CType :=
  if bits = 8 then uint8 else if bits = 16 then uint16 else if bits = 64 then uint64 else uint32

/-- The scalar types that draws select from: `char` with and without a sign, `short`, `int`, `long`,
possibly `long long`, and the 128-bit integers. Types that coincide on the target stay in the list, so
that its length, and with it every draw over it, depends on `longLong` alone. -/
def scalars (intSize : Int) (longLong : Bool) : List CType :=
  let host := hostInt intSize
  [int8, int8, uint8, int16, uint16, host, unsignedOf host.bits, int64, uint64] ++
    (if longLong then [int64, uint64] else []) ++ [int128, uint128]

/-- The types have the same sign and width. -/
def sameBase (a b : CType) : Bool := a.bits = b.bits && a.signed = b.signed

/-- The text of an expression that is cast to the type. -/
def castText (type : CType) (text : String) : String := s!"(({type.name})({text}))"

end CType

end RandomC
