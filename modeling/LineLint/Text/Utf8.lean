namespace LineLint.Utf8

def encode (text : List Char) : List UInt8 := text.flatMap String.utf8EncodeChar

def size (text : List Char) : Nat := (encode text).length

def replacement : Char := '\uFFFD'

/-- A character whose first bytes have been read: their bits, how many bytes are to come, and
the range of the next. -/
structure Pending where
  bits : Nat
  missing : Nat
  least : Nat
  greatest : Nat
  deriving Repr, DecidableEq

/-- What a byte begins. The ranges leave out longer forms of shorter characters, surrogates and
numbers past the last character. -/
inductive Lead
  | whole (c : Char)
  | first (pending : Pending)
  | broken
  deriving Repr, DecidableEq

def lead (byte : Nat) : Lead :=
  if byte < 0x80 then .whole (Char.ofNat byte)
  else if byte < 0xC2 then .broken
  else if byte < 0xE0 then .first ⟨byte - 0xC0, 1, 0x80, 0xBF⟩
  else if byte = 0xE0 then .first ⟨0, 2, 0xA0, 0xBF⟩
  else if byte = 0xED then .first ⟨0xD, 2, 0x80, 0x9F⟩
  else if byte < 0xF0 then .first ⟨byte - 0xE0, 2, 0x80, 0xBF⟩
  else if byte = 0xF0 then .first ⟨0, 3, 0x90, 0xBF⟩
  else if byte < 0xF4 then .first ⟨byte - 0xF0, 3, 0x80, 0xBF⟩
  else if byte = 0xF4 then .first ⟨4, 3, 0x80, 0x8F⟩
  else .broken

namespace Pending

def accepts (pending : Pending) (byte : Nat) : Bool :=
  pending.least ≤ byte && byte ≤ pending.greatest

def extend (pending : Pending) (byte : Nat) : Nat := pending.bits * 64 + (byte - 0x80)

end Pending

/-- Decodes bytes after an unfinished character, or after whole ones. -/
def decodeFrom : Option Pending → List UInt8 → List Char
  | none, [] => []
  | some _, [] => [replacement]
  | some pending, byte :: rest =>
      if pending.accepts byte.toNat then
        if pending.missing ≤ 1 then
          Char.ofNat (pending.extend byte.toNat) :: decodeFrom none rest
        else
          decodeFrom (some ⟨pending.extend byte.toNat, pending.missing - 1, 0x80, 0xBF⟩) rest
      else
        match lead byte.toNat with
        | .whole c => replacement :: c :: decodeFrom none rest
        | .first next => replacement :: decodeFrom (some next) rest
        | .broken => replacement :: replacement :: decodeFrom none rest
  | none, byte :: rest =>
      match lead byte.toNat with
      | .whole c => c :: decodeFrom none rest
      | .first next => decodeFrom (some next) rest
      | .broken => replacement :: decodeFrom none rest

/-- Decoding never fails: each longest piece that cannot be part of a character is one replacement
character. -/
def decode (bytes : List UInt8) : List Char := decodeFrom none bytes

end LineLint.Utf8
