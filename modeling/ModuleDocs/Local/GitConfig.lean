import ModuleDocs.Text.Digits
import ModuleDocs.Text.Utf8

/-! The configuration of a git checkout: sections with an optional quoted part, and variables whose
values may be quoted, escaped and continued on the next line. Names do not depend on letter case,
the quoted part of a section does. The file is read byte by byte, so each character of a name or a
value is one byte, and a value need not be text. -/
namespace ModuleDocs.Local.GitConfig

def ofBytes (bs : Bytes) : Text := bs.map fun b => Char.ofNat b.toNat

def text? (value : Text) : Option Text := Utf8.decode? (value.map fun c => UInt8.ofNat c.toNat)

def byteOrderMark : Text := ['\xef', '\xbb', '\xbf']

def isBlank (c : Char) : Bool := c == ' ' || (9 ≤ c.toNat && c.toNat ≤ 13)

def isNameChar (c : Char) : Bool := c.isAlphanum || c == '-'

/-- The variables in the order of the lines. A variable is named by its section and its own name;
one without an equals sign has no value. -/
abbrev Variables := List (Text × Option Text)

def cutComment (quotes : Nat) (before : Char) (escaped : Bool) : Text → Text × Nat
  | [] => ([], quotes)
  | c :: rest =>
    let quotes := if c = '"' ∧ before ≠ '\\' then quotes + 1 else quotes
    if (c = ';' ∨ c = '#') ∧ quotes % 2 = 0 ∧ escaped = false then ([], quotes)
    else
      let (s, n) := cutComment quotes c (c == '\\' && !escaped) rest
      (c :: s, n)

def stripComment (quotes : Nat) (line : Text) : Text × Nat :=
  let (s, n) := cutComment quotes ' ' false line
  (dropEndWhile isBlank s, n)

def escaped? : Char → Option Char
  | 'n' => some '\n'
  | 't' => some '\t'
  | 'b' => some '\x08'
  | '"' => some '"'
  | '\\' => some '\\'
  | _ => none

def unescape? : Text → Option (Text × Bool)
  | [] => some ([], false)
  | ['\\'] => some ([], true)
  | '\\' :: c :: rest => do
    let d ← escaped? c
    let (s, more) ← unescape? rest
    pure (d :: s, more)
  | c :: rest => do
    let (s, more) ← unescape? rest
    pure (if c = '"' then s else c :: s, more)

def quotedPart? : Text → Option (Text × Text)
  | '"' :: ']' :: rest => some ([], rest)
  | '"' :: _ => none
  | '\\' :: c :: rest => (quotedPart? rest).map fun (s, after) => (c :: s, after)
  | c :: rest => (quotedPart? rest).map fun (s, after) => (c :: s, after)
  | [] => none

def header? (s : Text) : Option (Text × Text) :=
  let name := s.takeWhile fun c => isNameChar c || c == '.'
  if name.isEmpty then none
  else match s.drop name.length with
    | ']' :: rest => some (Text.lowerAscii name, rest)
    | c :: rest =>
      if isBlank c then
        match rest.dropWhile isBlank with
        | '"' :: rest => (quotedPart? rest).map fun (part, after) =>
          (Text.lowerAscii name ++ '.' :: part, after)
        | _ => none
      else none
    | [] => none

structure Pending where
  name : Text
  value : Text
  quotes : Nat

structure Progress where
  header : Option Text := none
  pending : Option Pending := none
  settings : Variables := []

namespace Progress

def add (p : Progress) (name : Text) (value : Option Text) : Progress :=
  { p with pending := none, settings := p.settings ++ [(name, value)] }

def value (p : Progress) (name v : Text) (more : Bool) (quotes : Nat) : Progress :=
  if more then { p with pending := some ⟨name, v, quotes % 2⟩ } else p.add name (some v)

def assignment? (p : Progress) (s : Text) : Option Progress :=
  let (line, quotes) := stripComment 0 s
  let name := line.takeWhile isNameChar
  if name.isEmpty then none
  else
    let full := ((p.header.map fun n => n ++ ['.']).getD []) ++ Text.lowerAscii name
    match (line.drop name.length).dropWhile isBlank with
    | [] => some (p.add full none)
    | '=' :: rest => (unescape? (rest.dropWhile isBlank)).map fun (v, more) => p.value full v more quotes
    | _ => none

def line? : Nat → Progress → Text → Option Progress
  | 0, p, _ => some p
  | fuel + 1, p, s =>
    match s.dropWhile isBlank with
    | [] => some p
    | '#' :: _ => some p
    | ';' :: _ => some p
    | '[' :: rest => (header? rest).bind fun (name, after) =>
      line? fuel { p with header := some name } after
    | s => p.assignment? s

def step? (p : Progress) (line : Text) : Option Progress :=
  match p.pending with
  | none => line? (line.length + 1) p line
  | some old =>
    let (s, quotes) := stripComment old.quotes line
    if s.isEmpty then some { p with pending := some { old with quotes := quotes % 2 } }
    else (unescape? s).map fun (v, more) => p.value old.name (old.value ++ v) more quotes

end Progress

/-- All variables of a file; none if a line is malformed. A value that the end cuts off is kept. -/
def parse? (bs : Bytes) : Option Variables :=
  let s := ofBytes bs
  let s := (Text.stripPrefix? s byteOrderMark).getD s
  ((Text.splitOn '\n' s).foldlM Progress.step? {}).map fun p =>
    match p.pending with
    | some v => (p.add v.name (some v.value)).settings
    | none => p.settings

def last? (vs : Variables) (name : Text) : Option (Option Text) := vs.reverse.lookup name

def digits? (base : Nat) (s : Text) : Option (Nat × Text) :=
  let ds := s.takeWhile fun c => (Text.hexDigit? c).any (· < base)
  if ds.isEmpty then none else some (Text.numberIn base ds, s.drop ds.length)

/-- A number in base sixteen behind `0x`, in base eight behind `0`, else in base ten. -/
def natural? : Text → Option (Nat × Text)
  | '0' :: 'x' :: c :: rest => digits? 16 (c :: rest)
  | '0' :: 'X' :: c :: rest => digits? 16 (c :: rest)
  | '0' :: rest => digits? 8 ('0' :: rest)
  | s => digits? 10 s

def factor? : Text → Option Nat
  | [] => some 1
  | [c] =>
    if c = 'k' ∨ c = 'K' then some 1024
    else if c = 'm' ∨ c = 'M' then some 1048576
    else if c = 'g' ∨ c = 'G' then some 1073741824
    else none
  | _ => none

def integer? (s : Text) : Option Int := do
  let (sign, s) : Int × Text := match s.dropWhile isBlank with
    | '-' :: rest => (-1, rest)
    | '+' :: rest => (1, rest)
    | s => (1, s)
  let (n, rest) ← natural? s
  let n := sign * n * (← factor? rest)
  if -2147483648 ≤ n ∧ n ≤ 2147483647 then some n else none

/-- A truth value; a variable without a value is true, and so is every integer but zero. -/
def truth? : Option Text → Option Bool
  | none => some true
  | some s =>
    let name := Text.lowerAscii s
    if name ∈ ["true".toList, "yes".toList, "on".toList] then some true
    else if name ∈ ["false".toList, "no".toList, "off".toList, []] then some false
    else (integer? s).map (· != 0)

/-- The longest replacement that a section of addresses states for the beginning of an address. -/
def redirect (vs : Variables) (address : Text) : Text :=
  let rules := vs.filterMap fun v => do
    let base ← (Text.stripPrefix? v.1 "url.").bind fun n => Text.stripSuffix? n ".insteadof"
    let old ← v.2
    if old.isPrefixOf address && !old.isEmpty then pure (base, old) else none
  let best := rules.foldl (fun (b : Option (Text × Text)) r =>
    match b with
    | some c => if c.2.length < r.2.length then some r else b
    | none => some r) none
  match best with
  | some (base, old) => base ++ address.drop old.length
  | none => address

def origin? (vs : Variables) : Option Text :=
  ((last? vs "remote.origin.url").bind id |>.filter (!·.isEmpty)).bind fun address =>
    text? (redirect vs address)

def bare? (vs : Variables) : Option Bool :=
  match last? vs "core.bare" with
  | none => some false
  | some v => truth? v

def isUnderstood (vs : Variables) : Bool :=
  match last? vs "core.repositoryformatversion" with
  | none => true
  | some v => ((v.bind integer?).filter fun n => 0 ≤ n ∧ n ≤ 1).isSome

end ModuleDocs.Local.GitConfig
