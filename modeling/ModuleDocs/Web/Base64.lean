import ModuleDocs.Text.Utf8

namespace ModuleDocs.Web.Base64

def symbol (n : Nat) : Char :=
  Char.ofNat <|
    if n < 26 then 65 + n else if n < 52 then 71 + n else if n < 62 then n - 4
    else if n = 62 then 43 else 47

def value? (b : UInt8) : Option Nat :=
  let n := b.toNat
  if 65 ≤ n ∧ n ≤ 90 then some (n - 65)
  else if 97 ≤ n ∧ n ≤ 122 then some (n - 71)
  else if 48 ≤ n ∧ n ≤ 57 then some (n + 4)
  else if n = 43 then some 62
  else if n = 47 then some 63
  else none

def encode : Bytes → Text
  | [] => []
  | [a] =>
    let n := a.toNat * 16
    [symbol (n / 64), symbol (n % 64), '=', '=']
  | [a, b] =>
    let n := (a.toNat * 256 + b.toNat) * 4
    [symbol (n / 4096), symbol (n / 64 % 64), symbol (n % 64), '=']
  | a :: b :: c :: rest =>
    let n := (a.toNat * 256 + b.toNat) * 256 + c.toNat
    symbol (n / 262144) :: symbol (n / 4096 % 64) :: symbol (n / 64 % 64) :: symbol (n % 64) ::
      encode rest

inductive Error where
  | symbol (byte : UInt8) (offset : Nat)
  | length (n : Nat)
  | lastSymbol (byte : UInt8) (offset : Nat)
  | padding
  deriving DecidableEq, Repr

def Error.message : Error → Text
  | symbol b at_ => "Invalid symbol ".toList ++ Text.ofNat b.toNat ++ ", offset ".toList ++
      Text.ofNat at_ ++ ['.']
  | length n => "Invalid input length: ".toList ++ Text.ofNat n
  | lastSymbol b at_ => "Invalid last symbol ".toList ++ Text.ofNat b.toNat ++ ", offset ".toList ++
      Text.ofNat at_ ++ ['.']
  | padding => "Invalid padding"

def pad : UInt8 := 61

/-- The values of the symbols before the padding of the last group, and the number of padding
bytes. At least two symbols come before padding, and none after it. -/
def lastGroup (offset : Nat) : Nat → List Nat → Option Nat → Bytes → Except Error (List Nat × Nat)
  | i, values, padAt, [] => .ok (values, (padAt.map (i - ·)).getD 0)
  | i, values, padAt, b :: rest =>
    if b = pad then
      if i < 2 then .error (.symbol b (offset + i))
      else lastGroup offset (i + 1) values (some (padAt.getD i)) rest
    else match padAt with
      | some at_ => .error (.symbol pad (offset + at_))
      | none =>
        match value? b with
        | none => .error (.symbol b (offset + i))
        | some v => lastGroup offset (i + 1) (values ++ [v]) none rest

def decodeLast (offset : Nat) (group : Bytes) : Except Error Bytes :=
  if group.isEmpty then .ok []
  else match lastGroup offset 0 [] none group with
    | .error e => .error e
    | .ok (values, padding) =>
      if values.length < 2 then .error (.length (offset + values.length))
      else if (values.length + padding) % 4 ≠ 0 then .error .padding
      else
        let loose := .lastSymbol (group.getD (values.length - 1) 0) (offset + values.length - 1)
        match values with
        | [a, b] =>
          if b % 16 ≠ 0 then .error loose else .ok [UInt8.ofNat (a * 4 + b / 16)]
        | [a, b, c] =>
          if c % 4 ≠ 0 then .error loose
          else .ok [UInt8.ofNat (a * 4 + b / 16), UInt8.ofNat (b % 16 * 16 + c / 4)]
        | [a, b, c, d] =>
          .ok [UInt8.ofNat (a * 4 + b / 16), UInt8.ofNat (b % 16 * 16 + c / 4),
            UInt8.ofNat (c % 4 * 64 + d)]
        | _ => .ok []

def badSymbol? (offset : Nat) : Bytes → Option Error
  | [] => none
  | b :: rest =>
    match value? b with
    | some _ => badSymbol? (offset + 1) rest
    | none => some (.symbol b offset)

def decodeFrom (offset : Nat) : Bytes → Except Error Bytes
  | a :: b :: c :: d :: rest =>
    if rest.isEmpty then decodeLast offset [a, b, c, d]
    else match value? a, value? b, value? c, value? d with
      | some w, some x, some y, some z =>
        (decodeFrom (offset + 4) rest).map fun bytes =>
          UInt8.ofNat (w * 4 + x / 16) :: UInt8.ofNat (x % 16 * 16 + y / 4) ::
            UInt8.ofNat (y % 4 * 64 + z) :: bytes
      | _, _, _, _ => .error ((badSymbol? offset [a, b, c, d]).getD .padding)
  | group => decodeLast offset group

/-- The bytes that a text of symbols stands for. A single symbol too many is reported first if it
is outside the alphabet. -/
def decode (s : Bytes) : Except Error Bytes :=
  match s.getLast? with
  | some b =>
    if s.length % 4 = 1 ∧ b ≠ pad ∧ value? b = none then .error (.symbol b (s.length - 1))
    else decodeFrom 0 s
  | none => .ok []

end ModuleDocs.Web.Base64
