import ModuleDocs.Json.Basic
import ModuleDocs.Text.Digits

namespace ModuleDocs.Toml

def digits? (p : Char → Bool) (s : Text) : Option Text :=
  let parts := Text.splitOn '_' s
  if parts.all fun part => !part.isEmpty && part.all p then some parts.flatten else none

def signed (s : Text) : Bool × Text :=
  match s with
  | '-' :: rest => (true, rest)
  | '+' :: rest => (false, rest)
  | _ => (false, s)

def fitting? (n : Int) : Option Int :=
  if -9223372036854775808 ≤ n ∧ n < 9223372036854775808 then some n else none

def wholeDigits? (s : Text) : Option Text :=
  (digits? Char.isDigit s).filter fun ds => ds.length = 1 || ds.head? != some '0'

def integer? (s : Text) : Option Int :=
  match s with
  | '0' :: 'x' :: rest => do fitting? (Text.numberIn 16 (← digits? Text.isHexDigit rest))
  | '0' :: 'o' :: rest => do fitting? (Text.numberIn 8 (← digits? (fun c => '0' ≤ c && c ≤ '7') rest))
  | '0' :: 'b' :: rest => do fitting? (Text.numberIn 2 (← digits? (fun c => c == '0' || c == '1') rest))
  | _ => do
    let (negative, rest) := signed s
    let n := Text.numberIn 10 (← wholeDigits? rest)
    fitting? (if negative then -(n : Int) else n)

def tooLarge (d : Decimal) : Bool :=
  let size := (Nat.toDigits 10 d.digits).length + d.exponent
  let bound := Nat.pow 2 1024 - Nat.pow 2 970
  d.digits != 0 && (decide (309 < size) || (decide (300 < size) &&
    decide (bound * Nat.pow 10 (-d.exponent).toNat ≤ d.digits * Nat.pow 10 d.exponent.toNat)))

/-- A fraction or an exponent makes a number floating-point. Infinity and what is no number are
read as zero: no field takes either. -/
def real? (s : Text) : Option Decimal := do
  let (negative, body) := signed s
  if body = "inf".toList ∨ body = "nan".toList then pure ⟨negative, 0, 0⟩
  else
    let (mantissa, power) := ((Text.splitFirst (fun c => c == 'e' || c == 'E') body).map
      fun (m, e) => (m, some e)).getD (body, none)
    let (whole, fraction) := ((Text.splitFirst (· == '.') mantissa).map
      fun (w, f) => (w, some f)).getD (mantissa, none)
    if power.isNone ∧ fraction.isNone then none
    else
      let w ← wholeDigits? whole
      let f ← match fraction with
        | some f => digits? Char.isDigit f
        | none => some []
      let e ← match power with
        | some p => do
          let (below, ds) := signed p
          let n := Text.numberIn 10 (← digits? Char.isDigit ds)
          pure (if below then -(n : Int) else n)
        | none => some 0
      let d : Decimal := ⟨negative, Text.numberIn 10 (w ++ f), e - f.length⟩
      if !negative && tooLarge d then none else some d

def field? (count low high : Nat) (s : Text) : Option (Nat × Text) :=
  let ds := s.take count
  let n := Text.numberIn 10 ds
  if ds.length = count ∧ ds.all Char.isDigit ∧ low ≤ n ∧ n ≤ high then some (n, s.drop count)
  else none

def expect? (c : Char) : Text → Option Text
  | d :: rest => if d = c then some rest else none
  | [] => none

def daysIn (year month : Nat) : Nat :=
  if month = 2 then (if year % 4 = 0 ∧ (year % 100 ≠ 0 ∨ year % 400 = 0) then 29 else 28)
  else if month = 4 ∨ month = 6 ∨ month = 9 ∨ month = 11 then 30 else 31

def day? (s : Text) : Option Text := do
  let (year, s) ← field? 4 0 9999 s
  let (month, s) ← field? 2 1 12 (← expect? '-' s)
  let (_, s) ← field? 2 1 (daysIn year month) (← expect? '-' s)
  pure s

def fractionText (ds : Text) : Text :=
  match dropEndWhile (· == '0') (ds.take 9) with
  | [] => []
  | kept => '.' :: kept

def clock? (s : Text) : Option (Text × Text) := do
  let (_, rest) ← field? 2 0 23 s
  let (_, rest) ← field? 2 0 59 (← expect? ':' rest)
  let (_, rest) ← field? 2 0 60 (← expect? ':' rest)
  match rest with
  | '.' :: rest =>
    let ds := rest.takeWhile Char.isDigit
    if ds.isEmpty then none else some (s.take 8 ++ fractionText ds, rest.drop ds.length)
  | _ => some (s.take 8, rest)

def offset? (s : Text) : Option Text :=
  match s with
  | [] => some []
  | ['Z'] => some ['Z']
  | ['z'] => some ['Z']
  | sign :: rest =>
    if sign = '+' ∨ sign = '-' then do
      let (hours, rest) ← field? 2 0 23 rest
      let (minutes, rest) ← field? 2 0 59 (← expect? ':' rest)
      if !rest.isEmpty then none
      else some (if hours = 0 ∧ minutes = 0 then "+00:00" else s)
    else none

def date? (s : Text) : Option Text :=
  match day? s with
  | some [] => some s
  | some (c :: rest) =>
    if c = 'T' ∨ c = 't' ∨ c = ' ' then do
      let (time, rest) ← clock? rest
      pure (s.take 10 ++ 'T' :: time ++ (← offset? rest))
    else none
  | none =>
    match clock? s with
    | some (time, []) => some time
    | _ => none

def scalar? (s : Text) : Option Json :=
  if s = "true".toList then some (.bool true)
  else if s = "false".toList then some (.bool false)
  else match integer? s with
  | some n => some (.num (.int n))
  | none =>
    match real? s with
    | some d => some (.num (.real d))
    | none => (date? s).map fun t => .obj [("$__toml_private_datetime", .str t)]

def isScalarChar (c : Char) : Bool := c.isAlphanum || "+-.:_".toList.any (· == c)

def scalarText (s : Text) : Text × Text :=
  let word := s.takeWhile isScalarChar
  let rest := s.drop word.length
  match rest with
  | ' ' :: c :: _ =>
    if c.isDigit ∧ (day? word).any List.isEmpty then
      let time := (rest.drop 1).takeWhile isScalarChar
      (word ++ ' ' :: time, rest.drop (time.length + 1))
    else (word, rest)
  | _ => (word, rest)

end ModuleDocs.Toml
