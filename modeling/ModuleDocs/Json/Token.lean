import ModuleDocs.Json.Number

namespace ModuleDocs.Json
open Text

inductive Token where
  | openArray
  | closeArray
  | openObject
  | closeObject
  | comma
  | colon
  | scalar (value : Json)

def hex4? (a b c d : Char) : Option Nat := do
  pure ((← hexDigit? a) * 4096 + (← hexDigit? b) * 256 + (← hexDigit? c) * 16 + (← hexDigit? d))

def escaped? : Char → Option Char
  | '"' => some '"'
  | '\\' => some '\\'
  | '/' => some '/'
  | 'b' => some '\x08'
  | 'f' => some '\x0c'
  | 'n' => some '\n'
  | 'r' => some '\r'
  | 't' => some '\t'
  | _ => none

def pairChar? (high low : Nat) : Option Char :=
  if 0xDC00 ≤ low ∧ low < 0xE000 then
    some (Char.ofNat (0x10000 + (high - 0xD800) * 0x400 + (low - 0xDC00)))
  else none

/-- The character that the front of a string's content denotes, and what follows. Control characters
have to be escaped, and escaped surrogate halves have to come in pairs. -/
def stringChar? : Text → Option (Char × Text)
  | '\\' :: 'u' :: a :: b :: c :: d :: rest =>
    match hex4? a b c d, rest with
    | none, _ => none
    | some n, '\\' :: 'u' :: a' :: b' :: c' :: d' :: rest' =>
      if 0xD800 ≤ n ∧ n < 0xDC00 then
        ((hex4? a' b' c' d').bind (pairChar? n)).map (·, rest')
      else if 0xDC00 ≤ n ∧ n < 0xE000 then none
      else some (Char.ofNat n, rest)
    | some n, _ => if 0xD800 ≤ n ∧ n < 0xE000 then none else some (Char.ofNat n, rest)
  | '\\' :: e :: rest => (escaped? e).map (·, rest)
  | c :: rest => if c.toNat < 32 ∨ c = '\\' ∨ c = '"' then none else some (c, rest)
  | [] => none

theorem length_stringChar {s rest : Text} {c : Char} (h : stringChar? s = some (c, rest)) :
    rest.length < s.length := by
  unfold stringChar? at h
  split at h
  · split at h
    · contradiction
    · split at h
      · obtain ⟨_, _, he⟩ := Option.map_eq_some_iff.mp h
        cases he
        simp only [List.length_cons]
        omega
      · split at h <;> cases h
        simp
    · split at h <;> cases h
      simp only [List.length_cons]
      omega
  · obtain ⟨_, _, he⟩ := Option.map_eq_some_iff.mp h
    cases he
    simp only [List.length_cons]
    omega
  · split at h <;> cases h
    simp
  · contradiction

def stringBody (s : Text) : Option (Text × Text) :=
  match s with
  | '"' :: rest => some ([], rest)
  | s =>
    match h : stringChar? s with
    | none => none
    | some (c, rest) =>
      have := length_stringChar h
      (stringBody rest).map fun (body, after) => (c :: body, after)
termination_by s.length

theorem length_stringBody {s body rest : Text} (h : stringBody s = some (body, rest)) :
    rest.length < s.length := by
  fun_induction stringBody s generalizing body with
  | case1 rest' => grind
  | case2 => contradiction
  | case3 s _ c after hc _ ih =>
    obtain ⟨⟨b, r⟩, hb, he⟩ := Option.map_eq_some_iff.mp h
    cases he
    have := length_stringChar hc
    have := ih hb
    omega

def isSpace (c : Char) : Bool := c == ' ' || c == '\n' || c == '\r' || c == '\t'

def isNumberChar (c : Char) : Bool :=
  c.isDigit || c == '-' || c == '+' || c == '.' || c == 'e' || c == 'E'

def tokens (s : Text) : Option (List Token) :=
  match s with
  | [] => some []
  | '[' :: rest => (tokens rest).map (.openArray :: ·)
  | ']' :: rest => (tokens rest).map (.closeArray :: ·)
  | '\x7b' :: rest => (tokens rest).map (.openObject :: ·)
  | '\x7d' :: rest => (tokens rest).map (.closeObject :: ·)
  | ',' :: rest => (tokens rest).map (.comma :: ·)
  | ':' :: rest => (tokens rest).map (.colon :: ·)
  | 't' :: 'r' :: 'u' :: 'e' :: rest => (tokens rest).map (.scalar (.bool true) :: ·)
  | 'f' :: 'a' :: 'l' :: 's' :: 'e' :: rest => (tokens rest).map (.scalar (.bool false) :: ·)
  | 'n' :: 'u' :: 'l' :: 'l' :: rest => (tokens rest).map (.scalar .null :: ·)
  | '"' :: rest =>
    match h : stringBody rest with
    | none => none
    | some (body, after) =>
      have := length_stringBody h
      (tokens after).map (.scalar (.str body) :: ·)
  | c :: rest =>
    if isSpace c then tokens rest
    else if isNumberChar c then
      match Number.ofText? (c :: rest.takeWhile isNumberChar) with
      | none => none
      | some n =>
        have : (rest.dropWhile isNumberChar).length ≤ rest.length :=
          (List.dropWhile_suffix isNumberChar).length_le
        (tokens (rest.dropWhile isNumberChar)).map (.scalar (.num n) :: ·)
    else none
termination_by s.length
decreasing_by all_goals (simp only [List.length_cons] at *; omega)

end ModuleDocs.Json
