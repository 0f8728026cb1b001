import SexprCall.Text.Basic

/-! UTF-8. Decoding is strict: shortest forms only, no surrogates, nothing above U+10FFFF. A fault
names the bytes of the character that could not be completed. -/
namespace SexprCall.Text.Utf8

abbrev Bytes := List UInt8

inductive Reason where
  | invalidStart
  | invalidContinuation
  | unexpectedEnd
  deriving DecidableEq, Repr

/-- The bytes from offset `first` to offset `last` make no character. The one at `first` is
`lead`. -/
structure Fault where
  first : Nat
  last : Nat
  lead : UInt8
  reason : Reason
  deriving DecidableEq, Repr

structure ByteRange where
  low : UInt8
  high : UInt8

def ByteRange.contains (range : ByteRange) (byte : UInt8) : Bool :=
  range.low ≤ byte && byte ≤ range.high

/-- What a continuation byte may be where nothing narrower is demanded. -/
def continuation : ByteRange := ⟨0x80, 0xBF⟩

/-- The byte after a lead byte. Its range is narrower where forms longer than needed, surrogates or
codes above U+10FFFF would fit. -/
def second (lead : UInt8) : ByteRange :=
  if lead = 0xE0 then ⟨0xA0, 0xBF⟩
  else if lead = 0xED then ⟨0x80, 0x9F⟩
  else if lead = 0xF0 then ⟨0x90, 0xBF⟩
  else if lead = 0xF4 then ⟨0x80, 0x8F⟩
  else continuation

/-- What a byte begins: its own bits of the code point, and the bytes that must follow. -/
def lead? (byte : UInt8) : Option (Nat × List ByteRange) :=
  if byte < 0x80 then some (byte.toNat, [])
  else if byte < 0xC2 then none
  else if byte < 0xE0 then some (byte.toNat - 0xC0, [second byte])
  else if byte < 0xF0 then some (byte.toNat - 0xE0, [second byte, continuation])
  else if byte < 0xF5 then some (byte.toNat - 0xF0, [second byte, continuation, continuation])
  else none

structure Begun where
  first : Nat
  lead : UInt8
  bits : Nat
  next : ByteRange
  later : List ByteRange

/-- Reads on from the byte at `offset`, inside a character or between two. -/
def decodeFrom : (offset : Nat) → Option Begun → Bytes → Except Fault Text
  | _, none, [] => .ok []
  | offset, some begun, [] => .error ⟨begun.first, offset - 1, begun.lead, .unexpectedEnd⟩
  | offset, none, byte :: rest =>
    match lead? byte with
    | none => .error ⟨offset, offset, byte, .invalidStart⟩
    | some (bits, []) => (Char.ofNat bits :: ·) <$> decodeFrom (offset + 1) none rest
    | some (bits, next :: later) =>
      decodeFrom (offset + 1) (some ⟨offset, byte, bits, next, later⟩) rest
  | offset, some begun, byte :: rest =>
    if begun.next.contains byte then
      let bits := begun.bits * 0x40 + (byte.toNat - 0x80)
      match begun.later with
      | [] => (Char.ofNat bits :: ·) <$> decodeFrom (offset + 1) none rest
      | next :: later => decodeFrom (offset + 1) (some { begun with bits, next, later }) rest
    else .error ⟨begun.first, offset - 1, begun.lead, .invalidContinuation⟩

def decode (bytes : Bytes) : Except Fault Text := decodeFrom 0 none bytes

def encode (text : Text) : Bytes := text.flatMap String.utf8EncodeChar

def Reason.message : Reason → Text
  | .invalidStart => "invalid start byte".toList
  | .invalidContinuation => "invalid continuation byte".toList
  | .unexpectedEnd => "unexpected end of data".toList

end SexprCall.Text.Utf8
