import ModuleDocs.Markdown.Entity
import ModuleDocs.Markdown.Line
import ModuleDocs.Text.Fold

/-! The parts of links: labels, destinations and titles. Where a line ends within one, a function
that the caller gives answers at which place of the next line the part goes on. -/
namespace ModuleDocs.Markdown

def asciiPunctuation : Text := "!\"#$%&'()*+,-./:;<=>?@[\\]^_\x60\x7b|\x7d~"

def isAsciiPunctuation (c : Char) : Bool := asciiPunctuation.any (· == c)

def labelGap? (further? : Text → Option Text) (s : Text) : Option (Nat × Text) :=
  let blanks := s.takeWhile isInnerBlank
  let behind := s.drop blanks.length
  if behind.head?.any endsLine then do
    let behind := (← further? (← lineEnd? behind)).dropWhile isInnerBlank
    if behind.head?.any endsLine then none else some (s.length - behind.length, behind)
  else some (blanks.length, behind)

def maxLabel : Nat := 1000

/-- Up to the closing bracket of a label, where no bracket stands without a backslash: the label
with each run of white space as one space, and what follows. The fuel bounds its length; `size` is
what counts so far, and `solid` tells if there is anything but white space. -/
def labelFrom? (further? : Text → Option Text) : Nat → Nat → Bool → Text → Option (Text × Text)
  | 0, _, _, _ => none
  | fuel + 1, size, solid, s =>
    if maxLabel ≤ size then none
    else match s with
    | [] => none
    | '[' :: _ => none
    | ']' :: rest => if solid then some ([], rest) else none
    | ['\\'] => none
    | '\\' :: c :: rest => do
      let (l, after) ← labelFrom? further? fuel (size + 1 + c.utf8Size) true rest
      pure ('\\' :: c :: l, after)
    | c :: rest =>
      if isGap c then do
        let (length, behind) ← labelGap? further? s
        let (l, after) ← labelFrom? further? fuel (size + length) solid behind
        pure (' ' :: l, after)
      else do
        let weight := if c.toNat < 128 then 0 else c.utf8Size
        let (l, after) ← labelFrom? further? fuel (size + weight) true rest
        pure (c :: l, after)

def label? (further? : Text → Option Text) (s : Text) : Option (Text × Text) :=
  (labelFrom? further? (s.length + 1) 0 false s).map fun (l, after) =>
    (Text.foldCase (Text.trimBy isGap l), after)

def angled? : Text → Option (Text × Text)
  | [] => none
  | '>' :: rest => some ([], rest)
  | '\\' :: c :: rest =>
    if isAsciiPunctuation c then (angled? rest).map fun (d, after) => ('\\' :: c :: d, after)
    else if endsLine c then none
    else (angled? rest).map fun (d, after) => ('\\' :: c :: d, after)
  | c :: rest =>
    if c = '<' ∨ endsLine c then none else (angled? rest).map fun (d, after) => (c :: d, after)

def maxParentheses : Nat := 33

/-- A destination without angle brackets. Parentheses in it are balanced or escaped. -/
def bare? (depth : Nat) (s : Text) : Option (Text × Text) :=
  let stop := if depth = 0 then some ([], s) else none
  match s with
  | [] => stop
  | ['\\'] => if depth = 0 then some (['\\'], []) else none
  | '\\' :: c :: rest =>
    if isAsciiPunctuation c then (bare? depth rest).map fun (d, after) => ('\\' :: c :: d, after)
    else (bare? depth (c :: rest)).map fun (d, after) => ('\\' :: d, after)
  | c :: rest =>
    if c.toNat ≤ 32 then stop
    else if c = '(' ∧ maxParentheses ≤ depth then none
    else if c = ')' ∧ depth = 0 then stop
    else
      let depth := if c = '(' then depth + 1 else if c = ')' then depth - 1 else depth
      (bare? depth rest).map fun (d, after) => (c :: d, after)
termination_by s.length

def destination? (s : Text) : Option (Text × Text) :=
  match s with
  | '<' :: rest => angled? rest
  | _ => bare? 0 s

/-- Up to the closing mark of a title, which stands in it only behind a backslash; in parentheses,
neither does an opening one. `further?` is asked at a line end. The fuel bounds the length. -/
def titleFrom? (further? : Text → Option Text) (stop : Char) : Nat → Text → Option (Text × Text)
  | 0, _ => none
  | fuel + 1, s =>
    match s with
    | [] => none
    | ['\\'] => none
    | '\\' :: c :: rest =>
      if endsLine c then
        (titleFrom? further? stop fuel (c :: rest)).map fun (t, after) => ('\\' :: t, after)
      else (titleFrom? further? stop fuel rest).map fun (t, after) => ('\\' :: c :: t, after)
    | c :: rest =>
      if c = stop then some ([], rest)
      else if c = '(' ∧ stop = ')' then none
      else if endsLine c then do
        let (t, after) ← titleFrom? further? stop fuel (← further? s)
        pure ('\n' :: t, after)
      else (titleFrom? further? stop fuel rest).map fun (t, after) => (c :: t, after)

def title? (further? : Text → Option Text) (s : Text) : Option (Text × Text) :=
  match s with
  | [] => none
  | c :: rest =>
    if c = '"' ∨ c = '\'' then titleFrom? further? c (rest.length + 1) rest
    else if c = '(' then titleFrom? further? ')' (rest.length + 1) rest
    else none

def resolvedLength : Nat → Text → Nat
  | 0, _ => 0
  | _, [] => 0
  | fuel + 1, c :: rest =>
    if c = '\\' then
      match rest with
      | d :: after =>
        if isAsciiPunctuation d then 1 + resolvedLength fuel after else 1 + resolvedLength fuel rest
      | [] => 1
    else if c = '&' then
      match reference? rest with
      | some (s, after) => Text.byteLength s + resolvedLength fuel after
      | none => 1 + resolvedLength fuel rest
    else if c = '\r' then resolvedLength fuel rest
    else c.utf8Size + resolvedLength fuel rest

end ModuleDocs.Markdown
