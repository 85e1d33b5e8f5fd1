import ModuleDocs.Markdown.Line
import ModuleDocs.Text.Digits

namespace ModuleDocs.Markdown

inductive Container where
  | quote
  | item (indent : Nat)
  deriving DecidableEq, Repr

namespace Cursor

def quoteMark? (c : Cursor) : Option Cursor :=
  match c.rest with
  | '>' :: _ => some ((c.advance 1).take 1).2
  | _ => none

end Cursor

namespace Container

/-- Moves over the mark of a container, if the line continues it. A line that ends before the
indentation of an item is complete continues the item. -/
def continue? (c : Cursor) : Container → Option Cursor
  | .quote => (c.take 3).2.quoteMark?
  | .item indent =>
    let (missing, next) := c.take indent
    if missing = 0 ∨ next.atEnd then some next else none

def continueAll (c : Cursor) : List Container → List Container × Cursor × Bool
  | [] => ([], c, true)
  | k :: ks =>
    match k.continue? c with
    | none => ([], c, false)
    | some next =>
      let (kept, inner, all) := continueAll next ks
      (k :: kept, inner, all)

def skipMarks (ks : List Container) (line : Text) : Text := (continueAll (.ofLine line) ks).2.1.rest

end Container

def isRule (s : Text) : Bool :=
  match s.takeWhile fun c => !endsLine c with
  | [] => false
  | c :: line =>
    (c == '*' || c == '-' || c == '_') && line.all (fun d => d == c || d == ' ' || d == '\t') &&
      decide (2 ≤ line.count c)

/-- A list marker, which is a bullet, or at most nine digits with a point or a parenthesis: its
width, and whether it can be the first of its list. -/
def marker? (s : Text) : Option (Nat × Bool) :=
  let digits := s.takeWhile Char.isDigit
  match s.drop digits.length with
  | c :: _ =>
    if digits.isEmpty then (if c = '-' ∨ c = '+' ∨ c = '*' then some (1, true) else none)
    else if (c = '.' ∨ c = ')') ∧ digits.length ≤ 9 then
      some (digits.length + 1, Text.numberIn 10 digits == 1)
    else none
  | [] => none

/-- The list item that begins at a place, with the indentation of its marker given, and the place
of its content. Blank space of five columns or more counts as one column and content. -/
def item? (outer : Nat) (c : Cursor) : Option (Container × Cursor) := do
  let (width, _) ← if isRule c.rest then none else marker? c.rest
  let (missing, inner) := (c.advance width).take 1
  if missing ≠ 0 ∧ ¬ inner.atEnd then none
  else
    let (missing, deep) := inner.take 4
    if (blankLine? inner.rest).isSome ∨ missing = 0 then
      some (.item (outer + width + 1), inner)
    else some (.item (outer + width + 1 + (4 - missing)), deep)

/-- Opens the containers whose marks follow one another at a place. Answers all containers, the
place behind the marks, and whether the last mark is one of an item without content. The fuel
bounds the number of marks. -/
def openContainers : Nat → List Container → Cursor → List Container × Cursor × Bool
  | 0, ks, c => (ks, c, false)
  | fuel + 1, ks, c =>
    let (missing, next) := c.take 4
    if missing = 0 then (ks, c, false)
    else match item? (4 - missing) next with
      | some (item, inner) =>
        if (blankLine? inner.rest).isSome then (ks ++ [item], inner, true)
        else openContainers fuel (ks ++ [item]) inner
      | none =>
        match next.quoteMark? with
        | some inner => openContainers fuel (ks ++ [.quote]) inner
        | none => (ks, c, false)

end ModuleDocs.Markdown
