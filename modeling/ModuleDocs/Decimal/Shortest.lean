/-! The shortest decimal of a floating-point value. A finite value stands for the interval of
reals that round to it; among the decimals in this interval those with the fewest digits are taken,
and of these the one nearest the value. All comparisons are exact, on natural numbers. -/
namespace ModuleDocs

/-- A decimal number: digits times a power of ten, with a sign that zero keeps. -/
structure Decimal where
  negative : Bool
  digits : Nat
  exponent : Int
  deriving DecidableEq, Repr

namespace Decimal

def digitCount (n : Nat) : Nat := (Nat.toDigits 10 n).length

/-- A positive value as a fraction, with the distances to the ends of its interval in the same
denominator. -/
structure Rounding where
  num : Nat
  below : Nat
  above : Nat
  den : Nat
  closed : Bool

def Rounding.ofBits (bits : UInt64) : Rounding :=
  let field := (bits >>> 52 &&& 0x7FF).toNat
  let fraction := (bits &&& 0xFFFFFFFFFFFFF).toNat
  let m := if field = 0 then fraction else 0x10000000000000 + fraction
  let q : Int := if field = 0 then -1074 else (field : Int) - 1075
  let unit := Nat.pow 2 q.toNat
  ⟨4 * m * unit, if fraction = 0 ∧ 1 < field then unit else 2 * unit, 2 * unit,
    4 * Nat.pow 2 (-q).toNat, m % 2 = 0⟩

def Rounding.leading (r : Rounding) : Int :=
  if r.den ≤ r.num then (digitCount (r.num / r.den) : Int) - 1
  else -(digitCount ((r.den + r.num - 1) / r.num - 1) : Int)

def Rounding.admits (r : Rounding) (e : Int) (n : Nat) : Bool :=
  let scale := Nat.pow 10 (-e).toNat
  let point := n * Nat.pow 10 e.toNat * r.den
  let low := (r.num - r.below) * scale
  let high := (r.num + r.above) * scale
  if r.closed then low ≤ point && point ≤ high else low < point && point < high

/-- The nearer of the value's two neighbours on the grid that lie in the interval; of two equally
near ones the even one. -/
def Rounding.onGrid (r : Rounding) (e : Int) : Option Nat :=
  let a := r.num * Nat.pow 10 (-e).toNat
  let b := r.den * Nat.pow 10 e.toNat
  let n := a / b
  let rest := 2 * (a % b)
  let upFirst := b < rest || (rest == b && n % 2 == 1)
  (if upFirst then [n + 1, n] else [n, n + 1]).find? (r.admits e)

def strip (digits : Nat) (exponent : Int) : Nat × Int :=
  if h : digits ≠ 0 ∧ digits % 10 = 0 then strip (digits / 10) (exponent + 1)
  else (digits, exponent)
termination_by digits
decreasing_by omega

def Rounding.shortest (r : Rounding) : Nat × Int :=
  let lead := r.leading
  let found := (List.range 17).findSome? fun k : Nat =>
    (r.onGrid (lead - k)).map fun n => strip n (lead - k)
  -- Seventeen digits always suffice, so this only closes the search.
  found.getD (strip (r.num / r.den) 0)

/-- The shortest decimal of a finite value; none for the infinities and for what is no number. -/
def ofFloat? (x : Float) : Option Decimal :=
  let bits := x.toBits
  let size := bits &&& 0x7FFFFFFFFFFFFFFF
  let negative := size != bits
  if 0x7FF0000000000000 ≤ size then none
  else if size = 0 then some ⟨negative, 0, 0⟩
  else
    let (digits, exponent) := (Rounding.ofBits size).shortest
    some ⟨negative, digits, exponent⟩

end Decimal
end ModuleDocs
