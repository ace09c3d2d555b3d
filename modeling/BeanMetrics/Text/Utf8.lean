/-!
UTF-8. Encoding is the usual one; decoding puts U+FFFD in place of every longest run of bytes that
begins a character but does not complete it, and of every byte that begins none.
-/

namespace BeanMetrics
namespace Text

def encodeChar (c : Char) : List UInt8 :=
  let n := c.toNat
  let tail (shift : Nat) : UInt8 := UInt8.ofNat (0x80 + n / Nat.pow 2 shift % 64)
  if n < 0x80 then [UInt8.ofNat n]
  else if n < 0x800 then [UInt8.ofNat (0xC0 + n / 64), tail 0]
  else if n < 0x10000 then [UInt8.ofNat (0xE0 + n / 4096), tail 6, tail 0]
  else [UInt8.ofNat (0xF0 + n / 262144), tail 12, tail 6, tail 0]

def encodeUtf8 (s : List Char) : List UInt8 := s.flatMap encodeChar

/-- The number of bytes to come behind a first byte, the bits it contributes, and the range of the
second byte; surrogates, overlong forms and numbers that are no code points are shut out by that
range. -/
def leadByte? (b : UInt8) : Option (Nat × Nat × Nat × Nat) :=
  let n := b.toNat
  if 0xC2 ≤ n ∧ n ≤ 0xDF then some (1, n - 0xC0, 0x80, 0xBF)
  else if n = 0xE0 then some (2, 0, 0xA0, 0xBF)
  else if n = 0xED then some (2, 0xD, 0x80, 0x9F)
  else if 0xE1 ≤ n ∧ n ≤ 0xEF then some (2, n - 0xE0, 0x80, 0xBF)
  else if n = 0xF0 then some (3, 0, 0x90, 0xBF)
  else if 0xF1 ≤ n ∧ n ≤ 0xF3 then some (3, n - 0xF0, 0x80, 0xBF)
  else if n = 0xF4 then some (3, 4, 0x80, 0x8F)
  else none

/-- A character whose first byte has been read: how many bytes are to come, the bits so far, and the
range of the next byte. -/
structure Partial where
  missing : Nat
  bits : Nat
  low : Nat
  high : Nat

/-- The characters that follow, given the character that has been begun. -/
def decodeFrom : Option Partial → List UInt8 → List Char
  | none, [] => []
  | some _, [] => ['\ufffd']
  | begun, b :: rest =>
    let fresh : List Char :=
      if b.toNat < 0x80 then Char.ofNat b.toNat :: decodeFrom none rest
      else match leadByte? b with
        | some (missing, bits, low, high) => decodeFrom (some ⟨missing, bits, low, high⟩) rest
        | none => '\ufffd' :: decodeFrom none rest
    match begun with
    | none => fresh
    | some p =>
      if p.low ≤ b.toNat ∧ b.toNat ≤ p.high then
        let bits := p.bits * 64 + (b.toNat - 0x80)
        if p.missing ≤ 1 then Char.ofNat bits :: decodeFrom none rest
        else decodeFrom (some ⟨p.missing - 1, bits, 0x80, 0xBF⟩) rest
      else '\ufffd' :: fresh

def decodeUtf8 (bytes : List UInt8) : List Char := decodeFrom none bytes

end Text
end BeanMetrics
