import ModuleDocs.Markdown.Definition

/-! Block structure. A document is read block by block: each line is first read through the
containers that are open, may open further ones, and then begins a leaf, which takes as many lines
as belong to it. Of the leaves only headings and paragraphs are kept. -/
namespace ModuleDocs.Markdown

inductive LeafKind where
  | paragraph
  | signed (level : Nat)
  | underlined (level : Nat) (line : Text)
  deriving DecidableEq, Repr

/-- A leaf with text: its lines as they stand, but from its first character on, and with the marks
of the containers on further lines. -/
structure Leaf where
  kind : LeafKind
  containers : List Container
  before : Char
  text : Text

def Leaf.level? (l : Leaf) : Option Nat :=
  match l.kind with
  | .paragraph => none
  | .signed level => some level
  | .underlined level _ => some level

def Leaf.source (l : Leaf) : Text :=
  match l.kind with
  | .underlined _ line => l.text ++ line
  | _ => l.text

structure Outline where
  containers : List Container := []
  fresh : Bool := false
  leaves : List Leaf := []
  definitions : List Definition := []

def afterIndented (ks : List Container) : Nat → Text → Text
  | 0, s => s
  | fuel + 1, s =>
    let line := (takeToNewline s).2
    let (_, c, all) := Container.continueAll (.ofLine line) ks
    let (missing, inner) := c.take 4
    if all ∧ (missing = 0 ∨ inner.atEnd) ∧ ¬ inner.rest.isEmpty then afterIndented ks fuel inner.rest
    else line

/-- The fence that ends a code block: at least as long as the first one, with nothing but spaces
behind it. The end of the text will do. -/
def closesFence (mark : Char) (count : Nat) (s : Text) : Bool :=
  let run := s.takeWhile (· == mark)
  s.isEmpty ||
    (decide (count ≤ run.length) &&
      (lineEnd? ((s.drop run.length).dropWhile (· == ' '))).isSome)

def afterFenced (ks : List Container) (mark : Char) (count indent : Nat) : Nat → Text → Text
  | 0, s => s
  | fuel + 1, s =>
    let (_, c, all) := Container.continueAll (.ofLine s) ks
    if !all then skipBlankLine s
    else
      let inner := (c.take indent).2
      let (missing, next) := inner.take (4 - indent)
      if missing ≠ 0 ∧ closesFence mark count next.rest then
        skipBlankLine (next.rest.dropWhile (· == mark))
      else afterFenced ks mark count indent fuel (takeToNewline inner.rest).2

def afterHtml (ks : List Container) (stop : HtmlEnd) : Nat → Text → Text
  | 0, s => s
  | fuel + 1, s =>
    let (line, next) := takeToNewline s
    let (_, c, all) := Container.continueAll (.ofLine next) ks
    let finished := match stop with
      | .text t => Text.contains line t
      | .blankLine => (blankLine? c.rest).isSome
    if !all || finished || c.rest.isEmpty then next else afterHtml ks stop fuel c.rest

/-- The lines of a paragraph, the heading that an underline makes of it, and what follows. A line that
is indented by four columns or more continues the paragraph. -/
def paragraphLines (ks : List Container) : Nat → Text → Text × LeafKind × Text
  | 0, s => ([], .paragraph, s)
  | fuel + 1, s =>
    let (line, next) := takeLine s
    let (_, c, all) := Container.continueAll (.ofLine next) ks
    let (missing, inner) := c.take 4
    match if missing ≠ 0 ∧ all then underline? inner.rest else none with
    | some (level, after) => (line, .underlined level (takeLine next).1, after)
    | none =>
      let content := inner.skipIndent
      if (missing ≠ 0 ∧ interrupts all inner.rest) ∨ content.atEnd then
        (line, .paragraph, next)
      else
        let (lines, kind, after) := paragraphLines ks fuel content.rest
        (line ++ next.take content.passed ++ lines, kind, after)

namespace Outline

def addLeaf (o : Outline) (kind : LeafKind) (before : Char) (text : Text) : Outline :=
  { o with leaves := ⟨kind, o.containers, before, text⟩ :: o.leaves }

def define (o : Outline) (d : Definition) : Outline :=
  if o.definitions.any (·.label == d.label) then o
  else { o with definitions := d :: o.definitions }

def readParagraph (fuel : Nat) (o : Outline) (c : Cursor) : Outline × Text :=
  let (text, kind, rest) := paragraphLines o.containers fuel c.rest
  (o.addLeaf kind c.before text, rest)

/-- Reads definitions, and the paragraph behind them. A line that could continue a paragraph does
not start another block behind a definition either. -/
def readDefinitions : Nat → Outline → Cursor → Outline × Text
  | 0, o, c => (o, c.rest)
  | fuel + 1, o, c =>
    match definition? o.containers c.rest with
    | none => o.readParagraph (fuel + 1) c
    | some (d, rest) =>
      let o := o.define d
      match blankLine? rest with
      | none => (o, rest)
      | some line =>
        let (_, inner, all) := Container.continueAll (.ofLine line) o.containers
        let (missing, next) := inner.take 4
        if missing ≠ 0 ∧ interrupts all next.rest then (o, line)
        else readDefinitions fuel o next.skipIndent

def readLeaf (fuel : Nat) (o : Outline) (c : Cursor) : Outline × Text :=
  let (missing, c) := c.take 4
  let s := c.rest
  if missing = 0 then (o, afterIndented o.containers fuel s)
  else match htmlEnd? s with
  | some stop => (o, afterHtml o.containers stop fuel s)
  | none =>
  if isTagLine s then (o, afterHtml o.containers .blankLine fuel s)
  else if isRule s then (o, (takeLine s).2)
  else match signs? s with
  | some (level, behind) =>
    let title := c.advance level
    let content := title.advance (behind.takeWhile isInnerBlank).length
    let (text, rest) := takeLine content.rest
    (o.addLeaf (.signed level) content.before text, rest)
  | none =>
  match fence? s with
  | some (mark, count) =>
    (o, afterFenced o.containers mark count (4 - missing) fuel (takeToNewline s).2)
  | none => o.readDefinitions fuel c

/-- Reads the block at the start of a line, and answers what follows it. A list item that begins
with two lines without content is over. -/
def readBlock (fuel : Nat) (o : Outline) (s : Text) : Outline × Text :=
  let (kept, c, all) := Container.continueAll (.ofLine s) o.containers
  let (ks, c, empty) := openContainers fuel kept c
  match blankLine? c.rest with
  | some rest =>
    let finished := o.fresh && all && decide (ks.length = kept.length)
    ({ o with containers := if finished then ks.dropLast else ks, fresh := empty }, rest)
  | none => readLeaf fuel { o with containers := ks, fresh := false } c

/-- Reads blocks up to the end of the text. The fuel is at least its length; each block takes one
character or more, and no part of a block has more steps than characters. -/
def readBlocks : Nat → Outline → Text → Outline
  | 0, o, _ => o
  | fuel + 1, o, s =>
    if s.isEmpty then o
    else
      let (o, rest) := o.readBlock fuel s
      readBlocks fuel o rest

end Outline

def outline (s : Text) : Outline := Outline.readBlocks (s.length + 2) {} s

end ModuleDocs.Markdown
