import Mathlib.Tactic.Ring
import RandomC.Proofs.Numerals
import RandomC.Proofs.Redraws

/-!
# Constants

A constant is written in as many hexadecimal digits as its width asks for, zeros in front included, so that wide ones
keep the digits of both values that are drawn for them.  Read back, the digits give the number that was drawn.  The
values of the source have 31 bits, which is why a constant of 32 bits or more fits into the signed type of its width,
and into the type that its suffix names.
-/

namespace RandomC

/-! ## Reading digits back -/

namespace Text

/-- The upper-case hexadecimal digits. -/
def hexAlphabet : List Char := "0123456789ABCDEF".toList

theorem hexDigit_mem {value : Nat} (bound : value < 16) : hexDigit value ∈ hexAlphabet := by
  revert value
  decide

theorem digitValue?_hexDigit {value : Nat} (bound : value < 16) :
    (digitValue? (hexDigit value)).filter (· < 16) = some value := by
  revert value
  decide

theorem mem_hexDigits {width value : Nat} {c : Char} (member : c ∈ hexDigits width value) : c ∈ hexAlphabet := by
  induction width generalizing value with
  | zero => cases member
  | succ width ih =>
      rw [hexDigits, List.mem_append, List.mem_singleton] at member
      rcases member with earlier | rfl
      · exact ih earlier
      · exact hexDigit_mem (Nat.mod_lt _ (by decide))

/-- One digit is read, whether or not a digit stands before it. -/
theorem readDigits_hexDigit {digit : Nat} (bound : digit < 16) (afterDigit : Bool) (value count : Nat)
    (rest : List Char) : readDigits 16 afterDigit value count (hexDigit digit :: rest) =
      readDigits 16 true (value * 16 + digit) (count + 1) rest := by
  have noUnderscore : hexDigit digit ≠ '_' := by
    intro same
    have member : '_' ∈ hexAlphabet := same ▸ hexDigit_mem bound
    revert member
    decide
  rw [readDigits.eq_def]
  split
  · next same => cases same
  · next same => exact absurd (List.cons.inj same).1 noUnderscore
  · next same =>
      obtain ⟨rfl, rfl⟩ := List.cons.inj same
      rw [digitValue?_hexDigit bound]

/-- The digits of a number are read as the number, behind what was read before them. -/
theorem readDigits_hexDigits (afterDigit : Bool) (width number value count : Nat) (rest : List Char) :
    readDigits 16 afterDigit value count (hexDigits (width + 1) number ++ rest) =
      readDigits 16 true (value * 16 ^ (width + 1) + number % 16 ^ (width + 1)) (count + width + 1) rest := by
  induction width generalizing number rest with
  | zero => exact readDigits_hexDigit (Nat.mod_lt _ (by decide)) _ _ _ _
  | succ width ih =>
      rw [hexDigits, List.append_assoc, ih, List.singleton_append, readDigits_hexDigit (Nat.mod_lt _ (by decide))]
      have digits : (value * 16 ^ (width + 1) + number / 16 % 16 ^ (width + 1)) * 16 + number % 16 =
          value * 16 ^ (width + 1 + 1) + number % 16 ^ (width + 1 + 1) := by
        rw [Nat.pow_succ' (n := width + 1), Nat.mod_mul]
        ring
      rw [digits, Nat.add_assoc count]

/-- A hexadecimal digit is a character of ASCII, and no underscore. -/
theorem plain_of_mem_hexAlphabet {c : Char} (member : c ∈ hexAlphabet) : c.toNat < 0x80 ∧ c ≠ '_' := by
  have plain : hexAlphabet.all fun c => decide (c.toNat < 0x80 ∧ c ≠ '_') := by decide
  exact of_decide_eq_true (List.all_eq_true.mp plain c member)

/-- Behind the mark of base 16, the digits remain. -/
theorem dropMark_hexDigits (width number : Nat) :
    dropMark 16 ('0' :: 'x' :: hexDigits width number) = hexDigits width number := by
  rw [dropMark, if_pos (by decide)]
  intro digits same
  have member : '_' ∈ hexDigits width number := same ▸ List.mem_cons_self
  exact (plain_of_mem_hexAlphabet (mem_hexDigits member)).2 rfl

/-- The digits of a number that are marked as hexadecimal are read as the number. -/
theorem readInteger_hexDigits {width number : Nat} (bound : number < 16 ^ (width + 1)) :
    readInteger 16 ("0x" ++ String.ofList (hexDigits (width + 1) number)) = .ok number := by
  have marked : ("0x" ++ String.ofList (hexDigits (width + 1) number)).toList =
      '0' :: 'x' :: hexDigits (width + 1) number := by simp
  have plain : ('0' :: 'x' :: hexDigits (width + 1) number).all (·.toNat < 0x80) := by
    refine List.all_eq_true.mpr fun c member => decide_eq_true ?_
    rcases List.mem_cons.mp member with rfl | member
    · decide
    · rcases List.mem_cons.mp member with rfl | member
      · decide
      · exact (plain_of_mem_hexAlphabet (mem_hexDigits member)).1
  have digits : readDigits 16 false 0 0 (hexDigits (width + 1) number) = some (number, 0 + width + 1, []) := by
    have read := readDigits_hexDigits false width number 0 0 []
    rwa [List.append_nil, Nat.zero_mul, Nat.zero_add, Nat.mod_eq_of_lt bound] at read
  have unsigned : readSign (('0' :: 'x' :: hexDigits (width + 1) number).dropWhile isPlainBlank) =
      (false, '0' :: 'x' :: hexDigits (width + 1) number) := rfl
  simp only [readInteger, marked, plain, if_true, unsigned, dropMark_hexDigits, digits]
  rfl

end Text

/-! ## Constants of a type -/

namespace Literal

open RandomC.Random

/-- What a constant of a type is made from, given the values of the stream: with so many digits and so many values it
is this number, below this suffix. -/
inductive Drawn (type : CType) (longLong : Bool) (value : Nat → Nat) :
    (digits draws number : Nat) → (suffix : String) → Prop where
  | byte (width : type.bits = 8) : Drawn type longLong value 2 1 (value 0 % 2 ^ 8) ""
  | short (width : type.bits = 16) : Drawn type longLong value 4 1 (value 0 % 2 ^ 16) ""
  | word (width : type.bits = 32) : Drawn type longLong value 8 1 (value 0) (if type.signed then "L" else "U")
  | wide (width : type.bits = 64 ∨ type.bits = 128) :
      Drawn type longLong value 16 2 (value 0 * 2 ^ 32 + value 1)
        (if longLong then (if type.signed then "LL" else "ULL") else "")

/-- The bits of a value that a suffix leaves room for on every target.  Without a suffix a constant has the first type
that it fits into, and `long long` is among these. -/
def suffixBits (suffix : String) : Nat :=
  if suffix = "L" then 31 else if suffix = "U" then 32 else if suffix = "ULL" then 64 else 63

variable {type : CType} {longLong : Bool} {value : Nat → Nat} {digits draws number : Nat} {suffix : String}

/-- A constant has digits for its number. -/
theorem Drawn.lt_pow (drawn : Drawn type longLong value digits draws number suffix)
    (small : ∀ index, value index < 2 ^ 31) : ∃ more, digits = more + 1 ∧ number < 16 ^ (more + 1) := by
  have first := small 0
  have second := small 1
  cases drawn
  · exact ⟨1, rfl, by omega⟩
  · exact ⟨3, rfl, by omega⟩
  · exact ⟨7, rfl, by omega⟩
  · exact ⟨15, rfl, by omega⟩

/-- A constant of 32 bits or more fits into the signed type of its width, beyond 64 bits even of half its width. -/
theorem Drawn.lt_signed (drawn : Drawn type longLong value digits draws number suffix)
    (small : ∀ index, value index < 2 ^ 31) :
    (type.bits = 32 → number < 2 ^ 31) ∧ (type.bits = 64 ∨ type.bits = 128 → number < 2 ^ 63) := by
  have first := small 0
  have second := small 1
  cases drawn <;> exact ⟨by omega, by omega⟩

/-- A constant fits into the type of its suffix. -/
theorem Drawn.lt_suffix (drawn : Drawn type longLong value digits draws number suffix)
    (small : ∀ index, value index < 2 ^ 31) : number < 2 ^ suffixBits suffix := by
  have first := small 0
  have second := small 1
  cases drawn with
  | byte | short => exact Nat.lt_trans (Nat.mod_lt _ (by decide)) (by decide)
  | word =>
      have least : 2 ^ 31 ≤ 2 ^ suffixBits (if type.signed then "L" else "U") := by
        cases type.signed <;> decide
      omega
  | wide =>
      have least : 2 ^ 63 ≤ 2 ^ suffixBits (if longLong then (if type.signed then "LL" else "ULL") else "") := by
        cases longLong <;> cases type.signed <;> decide
      omega

/-- What is drawn for a constant. -/
theorem exists_drawn (standard : type.bits ∈ ([8, 16, 32, 64, 128] : List Int)) (longLong : Bool) (source : Source) :
    ∃ digits draws number suffix, Drawn type longLong source.valueAfter digits draws number suffix ∧
      draw type longLong source = (⟨digits, number, suffix⟩, source.skip draws) := by
  obtain ⟨name, signed, bits⟩ := type
  simp only [List.mem_cons, List.not_mem_nil, or_false] at standard
  rcases standard with rfl | rfl | rfl | rfl | rfl
  · exact ⟨2, 1, _, _, .byte rfl, rfl⟩
  · exact ⟨4, 1, _, _, .short rfl, rfl⟩
  · exact ⟨8, 1, _, _, .word rfl, rfl⟩
  · exact ⟨16, 2, _, _, .wide (.inl rfl), rfl⟩
  · exact ⟨16, 2, _, _, .wide (.inr rfl), rfl⟩

end Literal

open RandomC.Random in
/-- A constant of a standard width is its type's cast of the digits that stand for the drawn number.  They are as many
as the width asks for and read back as the number, one value is drawn up to 32 bits and two beyond, and from 32 bits
on the number fits into the signed type of the width and into what its suffix leaves room for. -/
theorem constant_denotes_drawn_value (type : CType) (standard : type.bits ∈ ([8, 16, 32, 64, 128] : List Int))
    (longLong : Bool) (source : Source) :
    ∃ digits draws number suffix, Literal.Drawn type longLong source.valueAfter digits draws number suffix ∧
      (Literal.draw type longLong source).2 = source.skip draws ∧
      ∃ written : List Char,
        (Expr.literal type (Literal.draw type longLong source).1).text =
          s!"(({type.name})(0x{String.ofList written}{suffix}))" ∧
        written.length = digits ∧ (∀ digit ∈ written, digit ∈ Text.hexAlphabet) ∧
        Text.readInteger 16 ("0x" ++ String.ofList written) = .ok number ∧
        (type.bits = 32 → number < 2 ^ 31) ∧ (type.bits = 64 ∨ type.bits = 128 → number < 2 ^ 63) ∧
        number < 2 ^ Literal.suffixBits suffix := by
  obtain ⟨digits, draws, number, suffix, drawn, result⟩ := Literal.exists_drawn standard longLong source
  have small (index : Nat) : source.valueAfter index < 2 ^ 31 := source.valueAfter_lt index
  obtain ⟨more, rfl, bound⟩ := drawn.lt_pow small
  refine ⟨more + 1, draws, number, suffix, drawn, congrArg Prod.snd result, Text.hexDigits (more + 1) number, ?_,
    Text.length_hexDigits _ _, fun _ => Text.mem_hexDigits, Text.readInteger_hexDigits bound,
    (drawn.lt_signed small).1, (drawn.lt_signed small).2, drawn.lt_suffix small⟩
  rw [result, Expr.text, Literal.text, Text.hex, CType.castText]
  exact String.toList_inj.mp (by simp [toString])

open RandomC.Random in
/-- A wide constant whose lower half begins with zeros. -/
theorem constant_denotes_drawn_value_wide :
    (Literal.draw .int64 true (.ofSeed 33 false)).1 = ⟨16, 0x74228B74002D7585, "LL"⟩ ∧
      (∃ digits draws number suffix,
        Literal.Drawn .int64 true (Source.ofSeed 33 false).valueAfter digits draws number suffix ∧
        (Literal.draw .int64 true (.ofSeed 33 false)).2 = (Source.ofSeed 33 false).skip draws ∧
        ∃ written : List Char,
          (Expr.literal .int64 (Literal.draw .int64 true (.ofSeed 33 false)).1).text =
            s!"((int64_t)(0x{String.ofList written}{suffix}))" ∧
          written.length = digits ∧ (∀ digit ∈ written, digit ∈ Text.hexAlphabet) ∧
          Text.readInteger 16 ("0x" ++ String.ofList written) = .ok number ∧
          (CType.int64.bits = 32 → number < 2 ^ 31) ∧
          (CType.int64.bits = 64 ∨ CType.int64.bits = 128 → number < 2 ^ 63) ∧
          number < 2 ^ Literal.suffixBits suffix) :=
  ⟨by decide, constant_denotes_drawn_value .int64 (by decide) true (.ofSeed 33 false)⟩

end RandomC
