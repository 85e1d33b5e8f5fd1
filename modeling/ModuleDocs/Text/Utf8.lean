import ModuleDocs.Text.Basic

/-! Texts as bytes in UTF-8. Reading divides any bytes into characters and faults; a fault is a
byte that begins no character, or the longest beginning of one that breaks off. -/
namespace ModuleDocs

abbrev Bytes := List UInt8

namespace Utf8

def byte (n : Nat) : UInt8 := UInt8.ofNat n

def encodeChar (c : Char) : Bytes :=
  let n := c.toNat
  if n < 0x80 then [byte n]
  else if n < 0x800 then [byte (0xC0 + n / 64), byte (0x80 + n % 64)]
  else if n < 0x10000 then
    [byte (0xE0 + n / 4096), byte (0x80 + n / 64 % 64), byte (0x80 + n % 64)]
  else
    [byte (0xF0 + n / 262144), byte (0x80 + n / 4096 % 64), byte (0x80 + n / 64 % 64),
      byte (0x80 + n % 64)]

def encode (s : Text) : Bytes := s.flatMap encodeChar

/-- A character that is begun: how many bytes are to come, the bits so far, and the range of the
next byte. After a first byte the range leaves out overlong forms and surrogates. -/
structure Pending where
  more : Nat
  bits : Nat
  low : Nat
  high : Nat

def lead? (b : UInt8) : Option Pending :=
  let n := b.toNat
  if n < 0xC2 then none
  else if n < 0xE0 then some ⟨1, n - 0xC0, 0x80, 0xBF⟩
  else if n < 0xF0 then
    some ⟨2, n - 0xE0, if n = 0xE0 then 0xA0 else 0x80, if n = 0xED then 0x9F else 0xBF⟩
  else if n < 0xF5 then
    some ⟨3, n - 0xF0, if n = 0xF0 then 0x90 else 0x80, if n = 0xF4 then 0x8F else 0xBF⟩
  else none

def first (b : UInt8) : List (Option Char) × Option Pending :=
  if b.toNat < 0x80 then ([some (Char.ofNat b.toNat)], none)
  else match lead? b with
    | none => ([none], none)
    | some p => ([], some p)

/-- Reads one more byte. One out of range breaks the character off and is read anew. -/
def next : Option Pending → UInt8 → List (Option Char) × Option Pending
  | none, b => first b
  | some p, b =>
    if p.low ≤ b.toNat ∧ b.toNat ≤ p.high then
      let bits := p.bits * 64 + b.toNat % 64
      if p.more ≤ 1 then ([some (Char.ofNat bits)], none)
      else ([], some ⟨p.more - 1, bits, 0x80, 0xBF⟩)
    else (none :: (first b).1, (first b).2)

def decodeFrom (pending : Option Pending) : Bytes → List (Option Char)
  | [] => if pending.isSome then [none] else []
  | b :: rest => (next pending b).1 ++ decodeFrom (next pending b).2 rest

def decode (bs : Bytes) : List (Option Char) := decodeFrom none bs

def decode? (bs : Bytes) : Option Text := (decode bs).mapM id

def decodeLossy (bs : Bytes) : Text := (decode bs).map (·.getD '\ufffd')

end Utf8
end ModuleDocs
