import RandomC.Text.Quoted

/-!
# UTF-8

Bytes are decoded by a machine that knows how many more bytes the character in progress needs and which
values the next one may have. Where the bytes form no character, the error names those at fault: a byte
that starts no character, the beginning of a character that goes on with a wrong byte, or the beginning
of a character at the end of the bytes.
-/

namespace RandomC.Text

/-- What is wrong with bytes that are no UTF-8. -/
inductive Utf8Fault where
  | badStart
  | badContinuation
  | truncated
  deriving DecidableEq, Repr

/-- The bytes that could not be decoded, and the position of the first. -/
structure Utf8Error where
  fault : Utf8Fault
  position : Nat
  bytes : List Nat
  deriving DecidableEq, Repr

/-- The number of bytes that follow a first byte, the value bits of that byte, and the least and the
greatest value of the byte after it. -/
def firstByte (byte : Nat) : Option (Nat × Nat × Nat × Nat) :=
  if byte < 0x80 then some (0, byte, 0x80, 0xBF)
  else if byte < 0xC2 then none
  else if byte < 0xE0 then some (1, byte % 0x20, 0x80, 0xBF)
  else if byte < 0xF0 then
    some (2, byte % 0x10, if byte = 0xE0 then 0xA0 else 0x80, if byte = 0xED then 0x9F else 0xBF)
  else if byte < 0xF5 then
    some (3, byte % 0x08, if byte = 0xF0 then 0x90 else 0x80, if byte = 0xF4 then 0x8F else 0xBF)
  else none

/-- The character in progress: its bytes so far, last byte first, the value of their bits, the number of
bytes it needs, and the least and the greatest value of the next. -/
structure Partial where
  bytes : List Nat
  value : Nat
  owed : Nat
  low : Nat
  high : Nat

/-- Between two characters. -/
def Partial.none : Partial := ⟨[], 0, 0, 0, 0⟩

/-- Decoded characters, last character first, and what stopped the decoder. -/
structure Decoded where
  reversed : List Char
  error : Option Utf8Error

/-- The characters as a text. -/
def Decoded.text (decoded : Decoded) : String := String.ofList decoded.reversed.reverse

/-- Goes on decoding at a position. -/
def decodeFrom (position : Nat) (state : Partial) (reversed : List Char) : List UInt8 → Decoded
  | [] =>
    if state.owed = 0 then ⟨reversed, none⟩
    else ⟨reversed, some ⟨.truncated, position - state.bytes.length, state.bytes.reverse⟩⟩
  | byte :: rest =>
    let byte := byte.toNat
    if state.owed = 0 then
      match firstByte byte with
      | none => ⟨reversed, some ⟨.badStart, position, [byte]⟩⟩
      | some (0, value, _, _) => decodeFrom (position + 1) .none (Char.ofNat value :: reversed) rest
      | some (owed, value, low, high) => decodeFrom (position + 1) ⟨[byte], value, owed, low, high⟩ reversed rest
    else if state.low ≤ byte ∧ byte ≤ state.high then
      let value := state.value * 0x40 + byte % 0x40
      if state.owed = 1 then decodeFrom (position + 1) .none (Char.ofNat value :: reversed) rest
      else
        decodeFrom (position + 1) ⟨byte :: state.bytes, value, state.owed - 1, 0x80, 0xBF⟩ reversed rest
    else
      ⟨reversed, some ⟨.badContinuation, position - state.bytes.length, state.bytes.reverse⟩⟩

/-- Decodes bytes as far as they are UTF-8. -/
def decodeUtf8 (bytes : List UInt8) : Decoded := decodeFrom 0 .none [] bytes

/-- The decoded characters of pieces that have been dealt with, and the bytes at their end that may begin a
character. -/
structure Decoding where
  reversed : List Char
  pending : List UInt8

/-- What stops the decoder is only that the last two bytes begin what would be a surrogate. -/
def endsInSurrogate (bytes : List UInt8) (error : Utf8Error) : Bool :=
  error.fault = .badContinuation &&
    match bytes.drop error.position with
    | [first, second] => first.toNat = 0xED && 0xA0 ≤ second.toNat && second.toNat ≤ 0xBF
    | _ => false

/-- Decodes one more piece. Bytes at its end that may begin a character are left pending. A position in an
error is counted from the bytes that were pending before. -/
def Decoding.add (decoding : Decoding) (piece : List UInt8) : Except Utf8Error Decoding :=
  let bytes := decoding.pending ++ piece
  let decoded := decodeFrom 0 .none decoding.reversed bytes
  match decoded.error with
  | none => .ok ⟨decoded.reversed, []⟩
  | some error =>
    if error.fault = .truncated || endsInSurrogate bytes error then
      .ok ⟨decoded.reversed, bytes.drop error.position⟩
    else .error error

/-- Decodes bytes in pieces of a size, as far as whole pieces can be decoded; `left` bounds the number of
pieces. -/
def decodePieces (size : Nat) : (left : Nat) → Decoding → List UInt8 → Decoded
  | 0, decoding, _ => ⟨decoding.reversed, none⟩
  | left + 1, decoding, bytes =>
    if bytes.isEmpty then
      ⟨decoding.reversed, (decodeFrom 0 .none [] decoding.pending).error⟩
    else
      match decoding.add (bytes.take size) with
      | .error error => ⟨decoding.reversed, some error⟩
      | .ok more => decodePieces size left more (bytes.drop size)

/-- What is wrong, in words. -/
def Utf8Fault.message : Utf8Fault → String
  | badStart => "invalid start byte"
  | badContinuation => "invalid continuation byte"
  | truncated => "unexpected end of data"

/-- What is reported about bytes that are no UTF-8. -/
def Utf8Error.message (error : Utf8Error) : String :=
  let place := match error.bytes with
    | [byte] => s!"byte 0x{String.ofList (lowerHex 2 byte)} in position {error.position}"
    | bytes => s!"bytes in position {error.position}-{error.position + bytes.length - 1}"
  s!"'utf-8' codec can't decode {place}: {error.fault.message}"

end RandomC.Text
