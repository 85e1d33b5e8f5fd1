import ModuleDocs.Text.Basic

namespace ModuleDocs.Text

def hexDigit? (c : Char) : Option Nat :=
  if c.isDigit then some (c.toNat - 48)
  else if 'a' ≤ c ∧ c ≤ 'f' then some (c.toNat - 87)
  else if 'A' ≤ c ∧ c ≤ 'F' then some (c.toNat - 55)
  else none

def isHexDigit (c : Char) : Bool := (hexDigit? c).isSome

def numberIn (base : Nat) (ds : Text) : Nat :=
  ds.foldl (fun n c => base * n + (hexDigit? c).getD 0) 0

def hexLower (n : Nat) : Char := Char.ofNat (if n < 10 then 48 + n else 87 + n)

def hexUpper (n : Nat) : Char := Char.ofNat (if n < 10 then 48 + n else 55 + n)

theorem hexDigit_hexLower : ∀ d, d < 16 → hexDigit? (hexLower d) = some d := by decide

end ModuleDocs.Text
