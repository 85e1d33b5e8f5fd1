import ModuleDocs.Text.Basic

/-! Emphasis. The pieces of a text are kept on a stack with the last one on top. A run of marks that
closes emphasis pairs with runs below it; the marks that pair are gone, and the others stand for
themselves. -/
namespace ModuleDocs.Markdown

inductive Piece where
  | text (s : Text)
  | lineBreak (escaped : Bool)
  | run (mark : Char) (count left : Nat) (opens closes : Bool)
  | bracket (image active : Bool) (start : Nat) (tail : Text)

namespace Piece

def shown : Piece → Text
  | .text s => s
  | .lineBreak _ => []
  | .run mark _ left _ _ => List.replicate left mark
  | .bracket image _ _ _ => if image then ['!', '['] else ['[']

def isRun : Piece → Bool
  | .run .. => true
  | _ => false

def stackText (stack : List Piece) : Text := stack.reverse.flatMap shown

end Piece

structure Opener where
  above : List Piece
  count : Nat
  left : Nat
  closes : Bool
  below : List Piece

/-- The nearest run that the closing run can pair with. If one of the two could both open and
close, their lengths must not add up to a multiple of three, unless both are multiples. -/
def opener? (mark : Char) (count : Nat) (opensToo : Bool) : List Piece → Option Opener
  | [] => none
  | p :: below =>
    let next := fun (_ : Unit) => (opener? mark count opensToo below).map fun o =>
      { o with above := p :: o.above }
    match p with
    | .run m n left opens closes =>
      if m = mark ∧ opens = true ∧
          ¬ ((opensToo = true ∨ closes = true) ∧ count % 3 ≠ 0 ∧ (n + count) % 3 = 0) then
        some ⟨[], n, left, closes, below⟩
      else next ()
    | _ => next ()

def pairMarks (mark : Char) (count : Nat) (opensToo : Bool) : Nat → List Piece → Nat × List Piece
  | 0, stack => (0, stack)
  | n + 1, stack =>
    match opener? mark count opensToo stack with
    | none => (n + 1, stack)
    | some o =>
      let inner := .text (Piece.stackText o.above)
      let below := if o.left ≤ 1 then o.below else .run mark o.count (o.left - 1) true o.closes :: o.below
      pairMarks mark count opensToo n (inner :: below)

def pushPiece (stack : List Piece) : Piece → List Piece
  | .run mark count left opens closes =>
    if closes then
      match pairMarks mark count opens left stack with
      | (0, stack) => stack
      | (n + 1, stack) => .run mark count (n + 1) opens closes :: stack
    else .run mark count left opens closes :: stack
  | p => p :: stack

def keepBackslash (marked : Bool) (stack : List Piece) : List Piece :=
  match stack with
  | .lineBreak true :: below => if marked then .text ['\\'] :: below else stack
  | _ => stack

def resolve (marked : Bool) (stack : List Piece) : Text :=
  Piece.stackText ((keepBackslash marked stack).reverse.foldl pushPiece [])

end ModuleDocs.Markdown
