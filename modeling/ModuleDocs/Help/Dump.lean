import ModuleDocs.Help.Marker

/-! Help captured as plain text: sections under canonical header lines. A section runs to the next
header of any kind, a header that occurs again continues its section, and an example banner outside
the examples opens them. -/
namespace ModuleDocs.Help
open Text

inductive Section where
  | name
  | synopsis
  | syntaxForms
  | description
  | parameters
  | examples
  | inputs
  | outputs
  | notes
  | relatedLinks
  deriving DecidableEq, Repr

namespace Section

def all : List Section :=
  [name, synopsis, syntaxForms, description, parameters, examples, inputs, outputs, notes,
   relatedLinks]

def header : Section → Text
  | name => "NAME"
  | synopsis => "SYNOPSIS"
  | syntaxForms => "SYNTAX"
  | description => "DESCRIPTION"
  | parameters => "PARAMETERS"
  | examples => "EXAMPLES"
  | inputs => "INPUTS"
  | outputs => "OUTPUTS"
  | notes => "NOTES"
  | relatedLinks => "RELATED LINKS"

/-- The section that a line opens: the whole line is its header, in any letter case. -/
def ofHeader? (line : Text) : Option Section := all.find? (fun s => sameName s.header (trim line))

end Section

def sectionAt (current : Option Section) (line : Text) : Option Section :=
  if current ≠ some .examples ∧ isBanner line then some .examples else current

/-- What the lines contribute: a header opens its section, and any other line joins the section open
there. Lines before the first opening contribute nothing. -/
def entries (current : Option Section) : List Text → List (Section × Option Text)
  | [] => []
  | line :: rest =>
    match Section.ofHeader? line with
    | some s => (s, none) :: entries (some s) rest
    | none =>
      match sectionAt current line with
      | some s => (s, some line) :: entries (some s) rest
      | none => entries none rest

structure Dump where
  body? : Section → Option Text

namespace Dump

def ofEntries (es : List (Section × Option Text)) : Dump where
  body? s :=
    let own := es.filter (fun e => e.1 = s)
    if own.isEmpty then none else some (unlines (own.filterMap (·.2)))

def parse (s : Text) : Dump := ofEntries (entries none s.lines)

def text? (d : Dump) (s : Section) : Option Text := (d.body? s).filter (fun b => !isBlank b)

def sections (d : Dump) : List Section := Section.all.filter (fun s => (d.body? s).isSome)

def isEmpty (d : Dump) : Bool := d.sections.isEmpty

def bodyOf (d : Dump) (s : Section) : Text := (d.body? s).getD []

end Dump
end ModuleDocs.Help
