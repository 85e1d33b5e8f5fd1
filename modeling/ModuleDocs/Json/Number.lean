import ModuleDocs.Json.Basic
import ModuleDocs.Text.Digits

namespace ModuleDocs
namespace Number
open Text

/-- A floating-point number is written in positional form when the exponent of its first digit lies
between -5 and 15, with at least one digit after the point, and otherwise with a signed exponent. -/
def decimalText (d : Decimal) : Text :=
  let ds := Nat.toDigits 10 d.digits
  let lead : Int := d.exponent + ds.length - 1
  let body :=
    if d.digits = 0 then "0.0".toList
    else if -5 ≤ lead ∧ lead ≤ 15 then
      if lead < 0 then "0.".toList ++ List.replicate (-lead - 1).toNat '0' ++ ds
      else
        let whole := ds.take (lead.toNat + 1)
        let fraction := ds.drop (lead.toNat + 1)
        whole ++ List.replicate (lead.toNat + 1 - whole.length) '0' ++ ['.'] ++
          (if fraction.isEmpty then ['0'] else fraction)
    else
      let sign := if lead < 0 then '-' else '+'
      ds.take 1 ++ (if ds.length ≤ 1 then [] else '.' :: ds.drop 1) ++ ['e', sign] ++
        Text.ofNat lead.natAbs
  if d.negative then '-' :: body else body

def toText : Number → Text
  | int n => if n < 0 then '-' :: Text.ofNat n.natAbs else Text.ofNat n.natAbs
  | real d => decimalText d

structure Literal where
  negative : Bool
  whole : List Nat
  fraction : Option (List Nat)
  exponent : Option Int

def digitsOf (s : Text) : List Nat := s.map fun c => c.toNat - 48

def valueOf (ds : List Nat) : Nat := ds.foldl (fun n d => 10 * n + d) 0

/-- Reads a whole text as a number: no leading zeros, a digit on both sides of the point, and a
digit in the exponent. -/
def Literal.ofText? (s : Text) : Option Literal := do
  let (negative, s) := match s with
    | '-' :: rest => (true, rest)
    | _ => (false, s)
  let whole := s.takeWhile Char.isDigit
  guard (!whole.isEmpty && (whole.length == 1 || whole.head? != some '0'))
  let s := s.drop whole.length
  let (fraction, s) ← match s with
    | '.' :: rest =>
      let ds := rest.takeWhile Char.isDigit
      if ds.isEmpty then none else some (some (digitsOf ds), rest.drop ds.length)
    | _ => some (none, s)
  let exponent ← match s with
    | [] => some none
    | e :: rest => do
      guard (e == 'e' || e == 'E')
      let (sign, ds) : Int × Text := match rest with
        | '-' :: ds => (-1, ds)
        | '+' :: ds => (1, ds)
        | ds => (1, ds)
      guard (!ds.isEmpty && ds.all Char.isDigit)
      some (some (sign * valueOf (digitsOf ds)))
  some ⟨negative, digitsOf whole, fraction, exponent⟩

def maxWord : Nat := 18446744073709551615

def fitWord (acc : Nat) : List Nat → Nat × Nat
  | [] => (acc, 0)
  | d :: ds => if acc * 10 + d ≤ maxWord then fitWord (acc * 10 + d) ds else (acc, ds.length + 1)

def pow10 (n : Nat) : Float := Float.ofScientific 1 false n

/-- The significand times the power of ten, rounded after every step: one multiplication or
division by a power up to `10 ^ 308`, and for smaller numbers first divisions by that one. -/
def scale (steps : Nat) (x : Float) (e : Int) : Option Float :=
  if e.natAbs ≤ 308 then
    let y := if 0 ≤ e then x * pow10 e.natAbs else x / pow10 e.natAbs
    if y.isInf then none else some y
  else if x == 0 then some x
  else if 0 ≤ e then none
  else match steps with
    | 0 => some 0
    | k + 1 => scale k (x / pow10 308) (e + 308)

def maxExponent : Int := 2147483647

/-- The floating-point number of a literal. Digits beyond those that fit a 64-bit word only
count for their place. Four divisions bring every 64-bit word below the least positive number. -/
def Literal.toFloat? (l : Literal) : Option Float :=
  let (w, beyond) := fitWord 0 l.whole
  let fraction := l.fraction.getD []
  let (sig, unread) := fitWord w fraction
  let e := l.exponent.getD 0
  if maxExponent < e ∧ sig ≠ 0 then none
  else
    let value := if maxExponent < e.natAbs then some 0 else
      scale 4 (Float.ofScientific sig false 0) (e + beyond - (fraction.length - unread : Nat))
    value.map fun x => if l.negative then -x else x

def Literal.number? (l : Literal) : Option Number :=
  let n := valueOf l.whole
  let fits := if l.negative then 1 ≤ n && n ≤ 9223372036854775808 else n ≤ maxWord
  if l.fraction.isNone && l.exponent.isNone && fits then
    some (int (if l.negative then -(n : Int) else n))
  else l.toFloat?.bind fun x => (Decimal.ofFloat? x).map real

def ofText? (s : Text) : Option Number := (Literal.ofText? s).bind Literal.number?

end Number
end ModuleDocs
