import ModuleDocs.Markdown.Label
import ModuleDocs.Markdown.Opening

namespace ModuleDocs.Markdown

structure Definition where
  label : Text
  length : Nat
  deriving DecidableEq, Repr

/-- The place at which a definition goes on in a further line. An indentation of four columns is
passed over; the line may otherwise neither start a block nor underline a heading. -/
def Cursor.further? (ks : List Container) (line : Text) : Option Cursor :=
  let (_, c, all) := Container.continueAll (.ofLine line) ks
  let (missing, next) := c.take 4
  if missing ≠ 0 ∧ (interrupts all next.rest ∨ (all ∧ (underline? next.rest).isSome)) then none
  else some next

def definitionGap? (ks : List Container) (s : Text) : Option (Bool × Text) :=
  let behind := s.dropWhile isInnerBlank
  match lineEnd? behind with
  | none => some (false, behind)
  | some line => do
    let next ← Cursor.further? ks line
    let behind := next.rest.dropWhile isInnerBlank
    if (lineEnd? behind).isSome then none else some (true, behind)

def definitionTitle? (ks : List Container) (s : Text) : Option (Text × Text) :=
  (title? (fun s => do
    let next ← Cursor.further? ks (← lineEnd? s)
    pure next.skipIndent.rest) s).filter fun (_, rest) => (blankLine? rest).isSome

/-- A definition at the front of a text, and what follows. What could be a title belongs to the
definition only if it is one; if it stands in the same line, it has to be one. -/
def definition? (ks : List Container) : Text → Option (Definition × Text)
  | '[' :: s => do
    let (label, rest) ← label? (fun line => (Cursor.further? ks line).map (·.rest)) s
    let (_, target) ← definitionGap? ks (← Text.stripPrefix? rest [':'])
    let (destination, rest) ← destination? target
    if destination.isEmpty ∧ target.head? ≠ some '<' then none
    else
      let length := resolvedLength destination.length destination
      let untitled := some (⟨label, length⟩, rest)
      match definitionGap? ks rest with
      | none => untitled
      | some (ended, behind) =>
        if !ended && !rest.head?.any isInnerBlank then none
        else match definitionTitle? ks behind with
          | some (title, after) =>
            some (⟨label, length + resolvedLength title.length title⟩, after)
          | none => if ended then untitled else none
  | _ => none

end ModuleDocs.Markdown
