import ModuleDocs.Toml.Quoted
import ModuleDocs.Toml.Scalar
import ModuleDocs.Toml.Table

namespace ModuleDocs.Toml

def skipBlanks (s : Text) : Text := s.dropWhile isBlank

def lineEnd? : Text → Option Text
  | '\n' :: rest => some rest
  | '\r' :: '\n' :: rest => some rest
  | _ => none

def skipComment? (s : Text) : Option Text :=
  match s with
  | '#' :: rest =>
    let body := rest.takeWhile fun c => c != '\n' && c != '\r'
    if body.any isControl then none else some (rest.drop body.length)
  | _ => some s

def finishLine? (s : Text) : Option Text := do
  let s ← skipComment? (skipBlanks s)
  if s.isEmpty then some [] else lineEnd? s

def skipLines? : Nat → Text → Option Text
  | 0, s => some s
  | fuel + 1, s => do
    let s ← skipComment? (skipBlanks s)
    match lineEnd? s with
    | some rest => skipLines? fuel rest
    | none => some s

def isBareKeyChar (c : Char) : Bool := c.isAlphanum || c == '_' || c == '-'

def keyPart? (s : Text) : Option (Text × Text) :=
  match s with
  | '"' :: _ => line? s
  | '\'' :: _ => line? s
  | _ =>
    let k := s.takeWhile isBareKeyChar
    if k.isEmpty then none else some (k, s.drop k.length)

def maxDepth : Nat := 79

def key? : Nat → Text → Option (List Text × Text)
  | 0, _ => none
  | depth + 1, s => do
    let (k, rest) ← keyPart? (skipBlanks s)
    match skipBlanks rest with
    | '.' :: rest => (key? depth rest).map fun (ks, after) => (k :: ks, after)
    | after => some ([k], after)

def items? (read : Text → Option (Json × Text)) : Nat → Text → Option (List Json × Text)
  | 0, _ => none
  | fuel + 1, s => do
    match ← skipLines? s.length s with
    | ']' :: after => some ([], after)
    | s => do
      let (v, rest) ← read s
      match ← skipLines? rest.length rest with
      | ',' :: rest => (items? read fuel rest).map fun (vs, after) => (v :: vs, after)
      | ']' :: after => some ([v], after)
      | _ => none

def pair? (read : Text → Option (Json × Text)) (s : Text) : Option ((List Text × Json) × Text) := do
  let (k, rest) ← key? maxDepth s
  let (v, after) ← read (skipBlanks (← expect? '=' rest))
  pure ((k, v), after)

def members? (read : Text → Option (Json × Text)) :
    Nat → Text → Members → Option (Members × Text)
  | 0, _, _ => none
  | fuel + 1, s, ms => do
    let ((k, v), rest) ← pair? read s
    let ms ← insertValue k v .stated ms
    match skipBlanks rest with
    | ',' :: rest => members? read fuel rest ms
    | '\x7d' :: after => some (ms, after)
    | _ => none

def value? : Nat → Text → Option (Json × Text)
  | depth, s =>
    match s with
    | '"' :: _ => (string? s).map fun (t, after) => (.str t, after)
    | '\'' :: _ => (string? s).map fun (t, after) => (.str t, after)
    | '[' :: rest =>
      match depth with
      | 0 => none
      | depth + 1 => (items? (value? depth) (rest.length + 1) rest).map fun (vs, after) =>
        (.arr vs, after)
    | '\x7b' :: rest =>
      match depth with
      | 0 => none
      | depth + 1 =>
        match skipBlanks rest with
        | '\x7d' :: after => some (.obj [], after)
        | rest => (members? (value? depth) (rest.length + 1) rest []).map fun (ms, after) =>
          (.obj (Node.membersJson ms), after)
    | _ =>
      let (word, after) := scalarText s
      (scalar? word).map fun v => (v, after)

structure Progress where
  root : Members
  path : List Text

def statement? (p : Progress) (s : Text) : Option (Progress × Text) :=
  match s with
  | '[' :: '[' :: rest => do
    let (path, rest) ← key? maxDepth rest
    let after ← expect? ']' (← expect? ']' rest)
    pure (⟨← openItem path p.root, path⟩, after)
  | '[' :: rest => do
    let (path, rest) ← key? maxDepth rest
    pure (⟨← openTable path p.root, path⟩, ← expect? ']' rest)
  | _ => do
    let ((k, v), after) ← pair? (value? maxDepth) s
    let root ← update .implied (insertValue k v) p.path .stated p.root
    pure (⟨root, p.path⟩, after)

def statements? : Nat → Progress → Text → Option Members
  | 0, _, _ => none
  | fuel + 1, p, s => do
    match ← skipLines? s.length s with
    | [] => some p.root
    | s => do
      let (p, rest) ← statement? p s
      statements? fuel p (← finishLine? rest)

def dropByteOrderMark : Text → Text
  | '\ufeff' :: rest => rest
  | s => s

def parse? (s : Text) : Option Json :=
  (statements? (s.length + 1) ⟨[], []⟩ (dropByteOrderMark s)).map fun ms =>
    .obj (Node.membersJson ms)

/-- A key stands bare if it can, and else in the first single-line form that holds it. -/
def writeKey (k : Text) : Text :=
  if !k.isEmpty && k.all isBareKeyChar then k
  else match formOf k with
    | .literal => '\'' :: k ++ ['\'']
    | _ => '"' :: k.flatMap escape ++ ['"']

def writeInteger? (n : Int) : Option Text :=
  (fitting? n).map fun n => if n < 0 then '-' :: Text.ofNat n.natAbs else Text.ofNat n.natAbs

def writeItem (t : Text) : Text := "    ".toList ++ quote t ++ ",\n".toList

def writeTexts (ts : List Text) : Text :=
  match ts with
  | [] => ['[', ']']
  | [t] => '[' :: quote t ++ [']']
  | _ => "[\n".toList ++ ts.flatMap writeItem ++ [']']

inductive Value where
  | text (t : Text)
  | texts (ts : List Text)
  | flag (b : Bool)
  | count (n : Nat)

def writeValue? : Value → Option Text
  | .text t => some (quote t)
  | .texts ts => some (writeTexts ts)
  | .flag b => some (if b then "true" else "false")
  | .count n => writeInteger? n

def memberLine (k value : Text) : Text := writeKey k ++ " = ".toList ++ value

def writeMembers? (ms : List (Text × Value)) : Option Text :=
  (ms.mapM fun (k, v) => (writeValue? v).map fun value => memberLine k value ++ ['\n']).map
    List.flatten

def header (name : Text) : Text := '[' :: writeKey name ++ [']']

def writeTable? (t : Text × List (Text × Value)) : Option Text :=
  (writeMembers? t.2).map fun lines => header t.1 ++ '\n' :: lines

/-- A document: the members outside any table, then each table under its header, with a blank line
before every table but one that comes first. None if an integer does not fit. -/
def write? (root : List (Text × Value)) (tables : List (Text × List (Text × Value))) :
    Option Text := do
  let first ← writeMembers? root
  let rest ← tables.mapM writeTable?
  pure (List.intercalate ['\n'] (if first.isEmpty then rest else first :: rest))

end ModuleDocs.Toml
