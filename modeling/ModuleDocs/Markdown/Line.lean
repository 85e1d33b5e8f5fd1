import ModuleDocs.Text.Basic

namespace ModuleDocs.Markdown

def isInnerBlank (c : Char) : Bool := c == ' ' || c == '\t' || c == '\x0b' || c == '\x0c'

def endsLine (c : Char) : Bool := c == '\n' || c == '\r'

def isGap (c : Char) : Bool := isInnerBlank c || endsLine c

def lineEnd? : Text → Option Text
  | [] => some []
  | '\n' :: rest => some rest
  | '\r' :: '\n' :: rest => some rest
  | '\r' :: rest => some rest
  | _ => none

def blankLine? (s : Text) : Option Text := lineEnd? (s.dropWhile isInnerBlank)

def skipBlankLine (s : Text) : Text := (blankLine? s).getD s

def takeLine (s : Text) : Text × Text :=
  let line := s.takeWhile fun c => !endsLine c
  match s.drop line.length with
  | '\r' :: '\n' :: rest => (line ++ ['\r', '\n'], rest)
  | c :: rest => (line ++ [c], rest)
  | [] => (line, [])

def takeToNewline (s : Text) : Text × Text :=
  let line := s.takeWhile (· != '\n')
  let behind := s.drop line.length
  (line ++ behind.take 1, behind.drop 1)

structure Cursor where
  rest : Text
  before : Char
  passed : Nat
  tabStop : Nat
  /-- Columns of that tab that are not taken yet. -/
  spare : Nat

namespace Cursor

def ofLine (s : Text) : Cursor := ⟨s, '\n', 0, 0, 0⟩

def takeBlanks : Nat → Char → Nat → Nat → Text → Nat × Cursor
  | 0, before, passed, tabStop, s => (0, ⟨s, before, passed, tabStop, 0⟩)
  | n + 1, before, passed, tabStop, s =>
    match s with
    | ' ' :: rest => takeBlanks n ' ' (passed + 1) tabStop rest
    | '\t' :: rest =>
      let width := 4 - (passed - tabStop) % 4
      if width ≤ n + 1 then takeBlanks (n + 1 - width) '\t' (passed + 1) (passed + 1) rest
      else (0, ⟨rest, '\t', passed + 1, passed + 1, width - (n + 1)⟩)
    | _ => (n + 1, ⟨s, before, passed, tabStop, 0⟩)
termination_by n => n
decreasing_by all_goals omega

/-- Moves over at most `n` columns of blank space, and answers how many of them are missing. -/
def take (n : Nat) (c : Cursor) : Nat × Cursor :=
  if n ≤ c.spare then (0, { c with spare := c.spare - n })
  else takeBlanks (n - c.spare) c.before c.passed c.tabStop c.rest

def advance (n : Nat) (c : Cursor) : Cursor :=
  { c with
    rest := c.rest.drop n
    before := (c.rest.take n).getLast?.getD c.before
    passed := c.passed + n }

def skipIndent (c : Cursor) : Cursor :=
  { c.advance (c.rest.takeWhile fun d => d == ' ' || d == '\t').length with spare := 0 }

def atEnd (c : Cursor) : Bool := (c.rest.head?.map endsLine).getD true

end Cursor
end ModuleDocs.Markdown
