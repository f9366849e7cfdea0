import RandomC.Text.Blank
import RandomC.Text.Digit

/-!
# Written integers

An integer is written with digits of any script, an optional sign in front and white space around it.
One underscore may stand between two digits. In base 2, 8 or 16 a mark such as `0x` may precede the
digits, and an underscore may follow it. Base 10 allows at most 4300 digits, in reading and in writing.
-/

namespace RandomC.Text

/-- Why a text is not read as an integer. -/
inductive IntegerError where
  /-- The text is not a number of the base. -/
  | malformed
  /-- The number has more decimal digits than are read. -/
  | tooLong (digits : Nat)
  deriving DecidableEq, Repr

/-- The number of decimal digits that are read at most. -/
def maxDecimalDigits : Nat := 4300

/-- A blank of ASCII that may stand around a number. -/
def isPlainBlank (c : Char) : Bool := c == ' ' || (0x9 ≤ c.toNat && c.toNat ≤ 0xD)

/-- In a text that is not all ASCII, white space becomes blanks and digits of other scripts become ASCII
digits. Anything else beyond ASCII cannot be part of a number and becomes a question mark. -/
def plainChar (c : Char) : Char :=
  if c.toNat < 0x7F then c
  else if isBlank c then ' '
  else match decimalValue? c with
    | some value => Char.ofNat ('0'.toNat + value)
    | none => '?'

/-- The value of an ASCII digit or letter as a digit of a base up to 36. -/
def digitValue? (c : Char) : Option Nat :=
  if c.isDigit then some (c.toNat - '0'.toNat)
  else if c.isLower then some (c.toNat - 'a'.toNat + 10)
  else if c.isUpper then some (c.toNat - 'A'.toNat + 10)
  else none

/-- The digits with which the characters begin: their value, their number, and what follows them.
`afterDigit` tells whether the last character was a digit, as it has to be before an underscore and at the
end. -/
def readDigits (base : Nat) : (afterDigit : Bool) → (value count : Nat) → List Char →
    Option (Nat × Nat × List Char)
  | afterDigit, value, count, [] => if afterDigit then some (value, count, []) else none
  | afterDigit, value, count, '_' :: rest =>
    if afterDigit then readDigits base false value count rest else none
  | afterDigit, value, count, c :: rest =>
    match (digitValue? c).filter (· < base) with
    | some digit => readDigits base true (value * base + digit) (count + 1) rest
    | none => if afterDigit then some (value, count, c :: rest) else none

/-- The letter that follows the zero in the mark of a base. -/
def baseMark (base : Nat) : Option Char :=
  match base with
  | 2 => some 'b'
  | 8 => some 'o'
  | 16 => some 'x'
  | _ => none

/-- The digits behind the mark of the base, if the mark is there, and behind the underscore that may
follow it. -/
def dropMark (base : Nat) (cs : List Char) : List Char :=
  match cs with
  | '0' :: c :: rest =>
    if baseMark base = some c.toLower then
      match rest with
      | '_' :: digits => digits
      | digits => digits
    else cs
  | _ => cs

/-- Splits off the sign. -/
def readSign : List Char → Bool × List Char
  | '-' :: rest => (true, rest)
  | '+' :: rest => (false, rest)
  | cs => (false, cs)

/-- Reads a text as an integer of a base. Of a text that begins with too many digits and goes on with
something else, the digits are reported. -/
def readInteger (base : Nat) (text : String) : Except IntegerError Int := do
  let cs := text.toList
  let plain := if cs.all (·.toNat < 0x80) then cs else cs.map plainChar
  let (negative, digits) := readSign (plain.dropWhile isPlainBlank)
  match readDigits base false 0 0 (dropMark base digits) with
  | none => throw .malformed
  | some (value, count, rest) =>
    if base = 10 && count > maxDecimalDigits then throw (.tooLong count)
    if ! rest.all isPlainBlank then throw .malformed
    return if negative then -value else value

/-- What is reported about a text that is not a decimal integer. The text is quoted, and cut off after
200 characters. -/
def IntegerError.message (quotedText : String) : IntegerError → String
  | .malformed => "invalid literal for int() with base 10: " ++ String.ofList (quotedText.toList.take 200)
  | .tooLong digits =>
    s!"Exceeds the limit ({maxDecimalDigits} digits) for integer string conversion: value has {digits} " ++
    "digits; use sys.set_int_max_str_digits() to increase the limit"

/-- The least number that has too many digits to be written. -/
def decimalLimit : Nat := Nat.pow 10 maxDecimalDigits

/-- A number can be written. -/
def hasDecimalText (value : Int) : Bool := decide (value.natAbs < decimalLimit)

/-- What is reported about a number that cannot be written. -/
def unwritableMessage : String :=
  s!"Exceeds the limit ({maxDecimalDigits} digits) for integer string conversion; " ++
  "use sys.set_int_max_str_digits() to increase the limit"

end RandomC.Text
