import LineLint.Json.Read
import LineLint.Text.Utf8

namespace LineLint.Json

inductive ByteOrder
  | big
  | little
  deriving Repr, DecidableEq

inductive Encoding
  | utf8
  | utf16 (order : ByteOrder)
  | utf32 (order : ByteOrder)
  deriving Repr, DecidableEq

def ByteOrder.value (order : ByteOrder) (bytes : List UInt8) : Nat :=
  let ordered := match order with
    | big => bytes
    | little => bytes.reverse
  ordered.foldl (fun value byte => value * 256 + byte.toNat) 0

/-- The numbers of two bytes each; no byte may be left over. -/
def pairs? (order : ByteOrder) : List UInt8 → Option (List Nat)
  | [] => some []
  | a :: b :: rest => (pairs? order rest).map (order.value [a, b] :: ·)
  | [_] => none

/-- The numbers of four bytes each; no byte may be left over. -/
def quads? (order : ByteOrder) : List UInt8 → Option (List Nat)
  | [] => some []
  | a :: b :: c :: d :: rest => (quads? order rest).map (order.value [a, b, c, d] :: ·)
  | _ => none

/-- Decodes UTF-8 in which surrogates are written as if they were characters, after an unfinished
code point or after whole ones. -/
def decodeUtf8From? : Option Utf8.Pending → List UInt8 → Option (List CodePoint)
  | none, [] => some []
  | some _, [] => none
  | some pending, byte :: rest =>
      if pending.accepts byte.toNat then
        if pending.missing ≤ 1 then
          (decodeUtf8From? none rest).map (.ofNat (pending.extend byte.toNat) :: ·)
        else
          decodeUtf8From? (some ⟨pending.extend byte.toNat, pending.missing - 1, 0x80, 0xBF⟩) rest
      else none
  | none, byte :: rest =>
      match Utf8.lead byte.toNat with
      | .whole c => (decodeUtf8From? none rest).map (.char c :: ·)
      | .first next =>
          decodeUtf8From? (some (if byte = 0xED then { next with greatest := 0xBF } else next)) rest
      | .broken => none

namespace Encoding

/-- The marks, a longer one before one that it starts with. -/
def marks : List (List UInt8 × Encoding) :=
  [([0, 0, 0xFE, 0xFF], utf32 .big), ([0xFF, 0xFE, 0, 0], utf32 .little),
    ([0xFE, 0xFF], utf16 .big), ([0xFF, 0xFE], utf16 .little), ([0xEF, 0xBB, 0xBF], utf8)]

/-- The encoding of bytes without a mark, as the zeros among them tell it: the first characters of
such a text are ASCII. One or three bytes are always read as UTF-8. -/
def ofZeros : List UInt8 → Encoding
  | [0, _] => utf16 .big
  | [_, 0] => utf16 .little
  | 0 :: b :: _ :: _ :: _ => if b = 0 then utf32 .big else utf16 .big
  | _ :: 0 :: c :: d :: _ => if c = 0 && d = 0 then utf32 .little else utf16 .little
  | _ => utf8

def detect (bytes : List UInt8) : Encoding × List UInt8 :=
  match marks.find? fun entry => entry.1.isPrefixOf bytes with
  | some (mark, encoding) => (encoding, bytes.drop mark.length)
  | none => (ofZeros bytes, bytes)

def decode? : Encoding → List UInt8 → Option (List CodePoint)
  | utf8, bytes => decodeUtf8From? none bytes
  | utf16 order, bytes => (pairs? order bytes).map fun units => joinPieces (units.map .unit)
  | utf32 order, bytes => do
      let codes ← quads? order bytes
      if codes.all (· < 0x110000) then some (codes.map .ofNat) else none

end Encoding

def decodeBytes? (bytes : List UInt8) : Option (List CodePoint) :=
  let (encoding, content) := Encoding.detect bytes
  encoding.decode? content

end LineLint.Json
