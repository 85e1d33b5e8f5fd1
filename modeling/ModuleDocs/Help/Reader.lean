import ModuleDocs.Example.Segment
import ModuleDocs.Help.Blocks
import ModuleDocs.Help.Dump
import ModuleDocs.Help.HelpObject
import ModuleDocs.Help.Usage

/-! The reference page of a command from whatever was captured of its help. A structured object that
carries a name comes first, then the sections of a text dump, then the bare name. -/
namespace ModuleDocs.Help
open Text

structure Capture where
  structured : Option Json := none
  raw : Option Text := none
  nameHint : Option Text := none

def Capture.hint (c : Capture) : Option Text := (c.nameHint.map trim).bind nonEmpty

def entryOf (title : Text) (s : Example.Segmented) : ExampleEntry :=
  ⟨title, s.code, s.remarks, s.mode⟩

def dumpExamples (s : Text) : List ExampleEntry :=
  (examplesOf s).map fun (title, body) =>
    entryOf title (Example.classify Example.strictChain body)

def joinRemarks (found given : Text) : Text :=
  if given.isEmpty then found
  else if found.isEmpty then given
  else found ++ paragraphBreak ++ given

/-- An example from an object, whose own remarks follow those found in its body. -/
def objectExample (index : Nat) (e : HelpObject.RawExample) : ExampleEntry :=
  let s := Example.classify Example.defaultChain e.body
  { entryOf (cleanTitle e.title (index + 1)) s with remarks := joinRemarks s.remarks e.remarks }

/-- The examples of a dump replace those of the object, if the dump has a section with text. -/
def examplesFor (j : Json) (dump : Option Dump) : List ExampleEntry :=
  match dump.bind (·.text? .examples) with
  | some body => dumpExamples body
  | none => (HelpObject.examples j).mapIdx objectExample

def pageOfObject (j : Json) (dump : Option Dump) : Option Page :=
  (HelpObject.name j).map fun name =>
    let catalogue := HelpObject.parameters j
    { name
      synopsis := (HelpObject.synopsis j).getD []
      description := (HelpObject.description j).getD []
      usages := HelpObject.usages j catalogue
      parameters := catalogue
      examples := examplesFor j dump
      inputs := HelpObject.inputs j
      outputs := HelpObject.outputs j
      notes := (HelpObject.notes j).getD []
      links := HelpObject.links j }

def declaredName (d : Dump) : Option Text :=
  ((d.body? .name).bind fun b => (paragraph b).lines.head?).bind nonEmpty

/-- The page from a dump: the command is the declared name, else the first word of the usage lines,
else the name to fall back on. -/
def pageOfDump (d : Dump) (hint : Option Text) : Option Page :=
  let declared := declaredName d
  let forms := d.bodyOf .syntaxForms
  let name := (declared.or (words forms).head?).or hint
  name.map fun name =>
    { name
      synopsis := paragraph (d.bodyOf .synopsis)
      description := paragraph (d.bodyOf .description)
      usages := usages forms (declared.getD [])
      parameters := parametersOf (d.bodyOf .parameters)
      examples := dumpExamples (d.bodyOf .examples)
      inputs := typesOf (d.bodyOf .inputs)
      outputs := typesOf (d.bodyOf .outputs)
      notes := paragraph (d.bodyOf .notes)
      links := linksOf (d.bodyOf .relatedLinks) }

/-- The page of a command, if the capture holds at least a name for it. -/
def Capture.page? (c : Capture) : Option Page :=
  let dump := c.raw.map Dump.parse
  let fromObject := match c.structured with
    | some (.obj members) => pageOfObject (.obj members) dump
    | _ => none
  let fromDump := (dump.filter (fun d => !d.isEmpty)).bind (pageOfDump · c.hint)
  (fromObject.or fromDump).or (c.hint.map fun name => { name })

end ModuleDocs.Help
