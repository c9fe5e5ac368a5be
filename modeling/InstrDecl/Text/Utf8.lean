import InstrDecl.Text.Literal

namespace InstrDecl.Utf8

/-- Why bytes are not UTF-8. -/
inductive Fault
  /-- No character starts with this byte. -/
  | invalidStart
  /-- A character was begun, and the next byte cannot continue it. -/
  | invalidContinuation
  /-- A character was begun, and the bytes end. -/
  | unexpectedEnd
  deriving DecidableEq, Repr

/-- The wording of a fault. -/
def Fault.reason : Fault → Text
  | .invalidStart => "invalid start byte"
  | .invalidContinuation => "invalid continuation byte"
  | .unexpectedEnd => "unexpected end of data"

/-- The first fault of a byte string: `length` bytes from `position` on begin a character that is
    not completed. -/
structure DecodeError where
  position : Nat
  length : Nat
  first : UInt8
  fault : Fault
  deriving DecidableEq, Repr

/-- The message names the byte if it is a single one, and else the place of the first and the last. -/
def DecodeError.message (e : DecodeError) : Text :=
  "'utf-8' codec can't decode " ++
    (if e.length ≤ 1 then
      "byte 0x" ++ Text.hexByte e.first ++ " in position " ++ Text.ofNat e.position
    else
      "bytes in position " ++ Text.ofNat e.position ++ "-" ++ Text.ofNat (e.position + e.length - 1)) ++
    ": " ++ e.fault.reason

/-- A character that has been begun: where and with which byte it starts, how many bytes were read
    and are still needed, the bounds of the next byte, and the bits so far. -/
structure Begun where
  start : Nat
  first : UInt8
  read : Nat
  needed : Nat
  low : UInt8
  high : UInt8
  bits : Nat
  deriving DecidableEq, Repr

/-- The characters of more than one byte, by their first byte. The bounds of the second byte rule
    out overlong forms, surrogates and values beyond the last code point. -/
def begin? (position : Nat) (b : UInt8) : Option Begun :=
  let begun (needed : Nat) (low high : UInt8) (bits : Nat) : Option Begun :=
    some ⟨position, b, 1, needed, low, high, bits⟩
  if 0xc2 ≤ b && b ≤ 0xdf then begun 1 0x80 0xbf (b.toNat - 0xc0)
  else if b = 0xe0 then begun 2 0xa0 0xbf 0
  else if b = 0xed then begun 2 0x80 0x9f 0xd
  else if 0xe1 ≤ b && b ≤ 0xef then begun 2 0x80 0xbf (b.toNat - 0xe0)
  else if b = 0xf0 then begun 3 0x90 0xbf 0
  else if 0xf1 ≤ b && b ≤ 0xf3 then begun 3 0x80 0xbf (b.toNat - 0xf0)
  else if b = 0xf4 then begun 3 0x80 0x8f 4
  else none

/-- The error of a character that cannot be completed. -/
def Begun.error (begun : Begun) (fault : Fault) : DecodeError :=
  ⟨begun.start, begun.read, begun.first, fault⟩

/-- Decodes the bytes from `position` on, inside the character `pending` if one has been begun. -/
def decodeFrom (position : Nat) (pending : Option Begun) : Bytes → Except DecodeError Text
  | [] =>
    match pending with
    | none => .ok []
    | some begun => .error (begun.error .unexpectedEnd)
  | b :: rest =>
    match pending with
    | none =>
      if b < 0x80 then (decodeFrom (position + 1) none rest).map (Char.ofNat b.toNat :: ·)
      else match begin? position b with
        | none => .error ⟨position, 1, b, .invalidStart⟩
        | some begun => decodeFrom (position + 1) (some begun) rest
    | some begun =>
      if begun.low ≤ b && b ≤ begun.high then
        let bits := begun.bits * 64 + (b.toNat - 0x80)
        if begun.needed ≤ 1 then (decodeFrom (position + 1) none rest).map (Char.ofNat bits :: ·)
        else
          decodeFrom (position + 1)
            (some { begun with
              read := begun.read + 1, needed := begun.needed - 1, low := 0x80, high := 0xbf, bits }) rest
      else .error (begun.error .invalidContinuation)

/-- The text that the bytes encode, or the first fault with its place, its length and its cause. -/
def decode (bytes : Bytes) : Except DecodeError Text :=
  decodeFrom 0 none bytes

/-- The bytes of a text. -/
def encode (text : Text) : Bytes :=
  text.flatMap String.utf8EncodeChar

end InstrDecl.Utf8
