/-!
# Hexadecimal numbers of a fixed width

Digits are upper case and a number is padded with zeros to the width it is written in.
-/

namespace RandomC.Text

/-- The upper-case hexadecimal digit of a value below 16. -/
def hexDigit (value : Nat) : Char :=
  if value < 10 then Char.ofNat ('0'.toNat + value) else Char.ofNat ('A'.toNat + (value - 10))

/-- The last `width` hexadecimal digits of a number, most significant first. -/
def hexDigits : (width : Nat) → (value : Nat) → List Char
  | 0, _ => []
  | width + 1, value => hexDigits width (value / 16) ++ [hexDigit (value % 16)]

/-- A number in exactly `width` hexadecimal digits. -/
def hex (width value : Nat) : String := String.ofList (hexDigits width value)

@[simp] theorem length_hexDigits (width value : Nat) : (hexDigits width value).length = width := by
  induction width generalizing value with
  | zero => rfl
  | succ width ih => simp [hexDigits, ih]

end RandomC.Text
