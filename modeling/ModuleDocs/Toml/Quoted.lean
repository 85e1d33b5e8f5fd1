import ModuleDocs.Text.Digits

namespace ModuleDocs.Toml

def isControl (c : Char) : Bool := (c.toNat < 32 && c != '\t' && c != '\n') || c.toNat == 127

def hasThree (q : Char) (s : Text) : Bool := Text.contains s [q, q, q]

inductive Form where
  | basic
  | literal
  | basicBlock
  | literalBlock
  | escaped
  | escapedBlock
  deriving DecidableEq, Repr

def formOf (s : Text) : Form :=
  let has := fun c => s.any (· == c)
  if s.any isControl then (if has '\n' then .escapedBlock else .escaped)
  else if !has '\\' && !has '"' && !has '\n' then .basic
  else if !has '\'' && !has '\n' then .literal
  else if !has '\\' && !hasThree '"' s then .basicBlock
  else if !hasThree '\'' s then .literalBlock
  else if has '\n' then .escapedBlock
  else .escaped

def escape (c : Char) : Text :=
  match c with
  | '\x08' => ['\\', 'b']
  | '\t' => ['\\', 't']
  | '\n' => ['\\', 'n']
  | '\x0c' => ['\\', 'f']
  | '\r' => ['\\', 'r']
  | '"' => ['\\', '"']
  | '\\' => ['\\', '\\']
  | c =>
    if isControl c then ['\\', 'u', '0', '0', Text.hexUpper (c.toNat / 16), Text.hexUpper (c.toNat % 16)]
    else [c]

/-- The text within three double quotes: newlines are plain, and so are the first two of three
quotes in a row. `quotes` counts the plain ones just before. -/
def escapeBlock (quotes : Nat) : Text → Text
  | [] => []
  | '\n' :: rest => '\n' :: escapeBlock 0 rest
  | '"' :: rest =>
    if 2 ≤ quotes then '\\' :: '"' :: escapeBlock 0 rest else '"' :: escapeBlock (quotes + 1) rest
  | c :: rest => escape c ++ escapeBlock 0 rest

def tripled (q : Char) : Text := [q, q, q]

def blockStart (s : Text) : Text := if s.any (· == '\n') then ['\n'] else []

def quote (s : Text) : Text :=
  match formOf s with
  | .basic | .escaped => '"' :: s.flatMap escape ++ ['"']
  | .literal => '\'' :: s ++ ['\'']
  | .basicBlock | .escapedBlock => tripled '"' ++ blockStart s ++ escapeBlock 0 s ++ tripled '"'
  | .literalBlock => tripled '\'' ++ blockStart s ++ s ++ tripled '\''

def basicBody? : Text → Option (Text × Text)
  | '"' :: rest => some ([], rest)
  | '\n' :: _ => none
  | '\\' :: c :: rest => (basicBody? rest).map fun (s, after) => ('\\' :: c :: s, after)
  | c :: rest => (basicBody? rest).map fun (s, after) => (c :: s, after)
  | [] => none

def literalBody? : Text → Option (Text × Text)
  | '\'' :: rest => some ([], rest)
  | '\n' :: _ => none
  | c :: rest => (literalBody? rest).map fun (s, after) => (c :: s, after)
  | [] => none

def blockEnd (q : Char) (rest : Text) : Text × Text :=
  let more := min 2 (rest.takeWhile (· == q)).length
  (List.replicate more q, rest.drop more)

def basicBlockBody? : Text → Option (Text × Text)
  | '"' :: '"' :: '"' :: rest => some (blockEnd '"' rest)
  | '\\' :: c :: rest => (basicBlockBody? rest).map fun (s, after) => ('\\' :: c :: s, after)
  | c :: rest => (basicBlockBody? rest).map fun (s, after) => (c :: s, after)
  | [] => none

def literalBlockBody? : Text → Option (Text × Text)
  | '\'' :: '\'' :: '\'' :: rest => some (blockEnd '\'' rest)
  | c :: rest => (literalBlockBody? rest).map fun (s, after) => (c :: s, after)
  | [] => none

def numbered? (digits : Text) : Option Char := do
  let n := (← digits.mapM Text.hexDigit?).foldl (fun n d => 16 * n + d) 0
  if n.isValidChar then some (Char.ofNat n) else none

def named? : Char → Option Char
  | 'b' => some '\x08'
  | 't' => some '\t'
  | 'n' => some '\n'
  | 'f' => some '\x0c'
  | 'r' => some '\r'
  | '"' => some '"'
  | '\\' => some '\\'
  | _ => none

def unescape? : Text → Option Text
  | [] => some []
  | '\\' :: 'u' :: a :: b :: c :: d :: rest => do
    let x ← numbered? [a, b, c, d]
    pure (x :: (← unescape? rest))
  | '\\' :: 'U' :: a :: b :: c :: d :: e :: f :: g :: h :: rest => do
    let x ← numbered? [a, b, c, d, e, f, g, h]
    pure (x :: (← unescape? rest))
  | '\\' :: c :: rest => do
    let x ← named? c
    pure (x :: (← unescape? rest))
  | c :: rest => if isControl c || c == '\\' then none else (unescape? rest).map (c :: ·)

def isBlank (c : Char) : Bool := c == ' ' || c == '\t'

/-- Removes every backslash at the end of a line together with the blanks and line ends behind it.
`skipping` holds while these are passed over. -/
def joinLines? (skipping : Bool) : Text → Option Text
  | [] => some []
  | '\\' :: c :: rest =>
    if isBlank c || c == '\n' then
      if (c :: rest).dropWhile isBlank |>.head? |>.any (· == '\n') then joinLines? true rest else none
    else (joinLines? false rest).map fun s => '\\' :: c :: s
  | c :: rest =>
    if skipping && (isBlank c || c == '\n') then joinLines? true rest
    else (joinLines? false rest).map (c :: ·)

/-- A carriage return may stand before a newline only, and is dropped there. -/
def unixLines? : Text → Option Text
  | [] => some []
  | '\r' :: '\n' :: rest => (unixLines? rest).map ('\n' :: ·)
  | c :: rest => if c = '\r' then none else (unixLines? rest).map (c :: ·)

def dropBlockStart : Text → Text
  | '\n' :: rest => rest
  | '\r' :: '\n' :: rest => rest
  | s => s

def plain? (s : Text) : Option Text := if s.any isControl then none else some s

def line? : Text → Option (Text × Text)
  | '"' :: rest => do
    let (raw, after) ← basicBody? rest
    pure (← unescape? raw, after)
  | '\'' :: rest => do
    let (raw, after) ← literalBody? rest
    pure (← plain? raw, after)
  | _ => none

def string? : Text → Option (Text × Text)
  | '"' :: '"' :: '"' :: rest => do
    let (raw, after) ← basicBlockBody? (dropBlockStart rest)
    pure (← (unixLines? raw).bind fun s => (joinLines? false s).bind unescape?, after)
  | '\'' :: '\'' :: '\'' :: rest => do
    let (raw, after) ← literalBlockBody? (dropBlockStart rest)
    pure (← (unixLines? raw).bind plain?, after)
  | s => line? s

end ModuleDocs.Toml
