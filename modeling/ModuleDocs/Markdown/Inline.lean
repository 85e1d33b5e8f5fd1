import ModuleDocs.Markdown.Emphasis
import ModuleDocs.Markdown.Token

namespace ModuleDocs.Markdown

structure Setting where
  containers : List Container
  size : Nat
  definitions : List Definition

namespace Setting

def placeOf (g : Setting) (rest : Text) : Nat := g.size - rest.length

def further? (g : Setting) (line : Text) : Option Text :=
  some (Container.skipMarks g.containers line)

def find? (g : Setting) (label : Text) : Option Definition :=
  g.definitions.find? fun d => d.label == label

end Setting

def tokensAfter (place : Nat) (ts : List Token) : List Token :=
  match ts.dropWhile fun t => t.stop ≤ place with
  | [] => []
  | t :: rest => t.startingAt place :: rest

def joinLines (g : Setting) : Nat → Text → Text
  | 0, s => s
  | fuel + 1, s =>
    let line := s.takeWhile fun c => !endsLine c
    let behind := s.drop line.length
    if behind.isEmpty then line
    else line ++ ' ' :: joinLines g fuel (Container.skipMarks g.containers ((lineEnd? behind).getD []))

/-- The text of a code span. One space goes at both ends unless there is nothing else. -/
def codeText (g : Setting) (s : Text) : Text :=
  let flat := joinLines g (s.length + 1) s
  if flat.head? = some ' ' ∧ flat.getLast? = some ' ' ∧ ¬ flat.all (· == ' ') then
    flat.tail.dropLast
  else flat

def closingTicks? (count : Nat) (ts : List Token) : Option (Token × List Token) :=
  match ts.dropWhile fun t => match t.kind with
      | .ticks n _ => n != count
      | _ => true with
  | [] => none
  | t :: rest => some (t, rest)

/-- A code span that a run of backticks opens, and the tokens behind it. The first backtick of an
escaped run stands for itself. -/
def codeSpan? (g : Setting) (t : Token) (count : Nat) (escaped : Bool) (ahead : List Token) :
    Option (Text × List Token) := do
  let wanted := if escaped then count - 1 else count
  let (close, rest) ← if wanted = 0 then none else closingTicks? wanted ahead
  let inner := codeText g (t.behind.take (close.start - t.stop))
  pure (if escaped then '\x60' :: inner else inner, rest)

def angled (g : Setting) (ahead : List Token) : Option (Text × Text) :=
  match ahead with
  | [] => none
  | next :: _ =>
    ((autolink? next.tail).orElse fun _ => mailLink? next.tail).orElse fun _ =>
      (rawHtml? g.further? next.tail).map fun rest => ([], rest)

def skipSeparator (g : Setting) (s : Text) : Text :=
  let behind := s.dropWhile isInnerBlank
  ((lineEnd? behind).map (Container.skipMarks g.containers)).getD behind |>.dropWhile isInnerBlank

def titleLine (g : Setting) (ahead : List Token) (s : Text) : Text :=
  let place := g.placeOf s
  match ahead.dropWhile fun t => t.stop ≤ place + 1 with
  | [] => s.drop 1
  | t :: _ => if place < t.start then t.tail else s.drop 1

def target? (g : Setting) (ahead : List Token) (s : Text) : Option Text := do
  let inner ← Text.stripPrefix? s ['(']
  let (_, rest) ← destination? (skipSeparator g inner)
  let rest := skipSeparator g rest
  let behind := match title? (fun s => some (titleLine g ahead s)) rest with
    | some (_, after) => skipSeparator g after
    | none => rest
  Text.stripPrefix? behind [')']

/-- How a link text names its definition: by a label of its own in brackets, which ends at a place,
or by itself, with empty brackets behind it or without. -/
inductive Naming where
  | full (label : Text) (stop : Nat)
  | collapsed
  | shortcut

def naming (g : Setting) (ahead : List Token) : Naming :=
  match ahead with
  | [] => .shortcut
  | next :: _ =>
    match next.tail with
    | '[' :: ']' :: _ => .collapsed
    | '[' :: inner =>
      match label? g.further? inner with
      | some (label, rest) => .full label (g.placeOf rest)
      | none => .shortcut
    | _ => .shortcut

def ownLabel? (g : Setting) (start stop : Nat) (tail : Text) : Option Text :=
  match (tail.take (stop - start)) with
  | '[' :: inner =>
    match label? g.further? inner with
    | some (label, []) => some label
    | _ => none
  | _ => none

def spoil (stop : Nat) (ts : List Token) : List Token :=
  let skipped := ts.takeWhile fun t => t.stop < stop
  match ts.drop skipped.length with
  | [] => ts
  | t :: rest => skipped ++ { t with kind := .closing false } :: rest

structure Bracket where
  above : List Piece
  image : Bool
  active : Bool
  start : Nat
  tail : Text
  below : List Piece

def bracket? : List Piece → Option Bracket
  | [] => none
  | .bracket image active start tail :: below => some ⟨[], image, active, start, tail, below⟩
  | p :: below => (bracket? below).map fun b => { b with above := p :: b.above }

def retire : Piece → Piece
  | .bracket false _ start tail => .bracket false false start tail
  | p => p

namespace Bracket

def link (b : Bracket) : List Piece :=
  .text (resolve (b.above.any Piece.isRun) b.above) ::
    (if b.image then b.below else b.below.map retire)

def plain (b : Bracket) (closing : Text) : List Piece :=
  .text closing :: b.above ++
    .text (Piece.bracket b.image b.active b.start b.tail).shown :: b.below

end Bracket

/-- What has been read of a leaf, and what has not. The allowance is what the definitions that
links name may still add up to in length. -/
structure Reading where
  stack : List Piece
  ahead : List Token
  allowance : Nat

def nameLink? (g : Setting) (b : Bracket) (label : Text) (behind : List Token) (allowance : Nat) :
    Option Reading := do
  let d ← if allowance = 0 then none else g.find? label
  pure ⟨b.link, behind, allowance - d.length⟩

def closeBracket (g : Setting) (t : Token) (viable : Bool) (r : Reading) : Reading :=
  match bracket? r.stack with
  | none => { r with stack := .text t.written :: r.stack }
  | some b =>
    let failed := { r with stack := b.plain t.written }
    if !b.active then failed
    else match target? g r.ahead t.behind with
    | some rest => { r with stack := b.link, ahead := tokensAfter (g.placeOf rest) r.ahead }
    | none =>
      match naming g r.ahead with
      | .full label stop =>
        match r.ahead.dropWhile fun t => t.stop < stop with
        | [] => failed
        | _ :: behind =>
          (nameLink? g b label behind r.allowance).getD
            { failed with ahead := spoil stop r.ahead }
      | form =>
        let behind := match form with
          | .collapsed => r.ahead.drop 2
          | _ => r.ahead
        ((if viable then ownLabel? g b.start t.stop b.tail else none).bind fun label =>
          nameLink? g b label behind r.allowance).getD failed

def readToken (g : Setting) (t : Token) (r : Reading) : Reading :=
  let push := fun p => { r with stack := p :: r.stack }
  match t.kind with
  | .text => push (.text t.written)
  | .reference s => push (.text s)
  | .lineBreak escaped => push (.lineBreak escaped)
  | .run mark count opens closes => push (.run mark count count opens closes)
  | .opening image =>
    push (.bracket image true (if image then t.start + 1 else t.start)
      (if image then t.tail.drop 1 else t.tail))
  | .closing viable => closeBracket g t viable r
  | .angle =>
    match angled g r.ahead with
    | some (s, rest) =>
      { r with stack := .text s :: r.stack, ahead := tokensAfter (g.placeOf rest) r.ahead }
    | none => push (.text t.written)
  | .ticks count escaped =>
    match codeSpan? g t count escaped r.ahead with
    | some (s, rest) => { r with stack := .text s :: r.stack, ahead := rest }
    | none => push (.text t.written)

def readTokens (g : Setting) : Nat → Reading → Reading
  | 0, r => r
  | fuel + 1, r =>
    match r.ahead with
    | [] => r
    | t :: rest => readTokens g fuel (readToken g t { r with ahead := rest })

def Leaf.read (l : Leaf) (definitions : List Definition) (allowance : Nat) : Text × Nat :=
  let ts := l.tokens
  let r := readTokens ⟨l.containers, l.source.length, definitions⟩ ts.length ⟨[], ts, allowance⟩
  (resolve (ts.any fun t => t.kind.isMark) r.stack, r.allowance)

end ModuleDocs.Markdown
