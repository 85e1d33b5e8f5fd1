import ModuleDocs.Text.Basic

namespace ModuleDocs.Help
open Text

structure Parameter where
  name : Text := []
  typeName : Text := []
  description : Text := []
  position : Option Text := none
  required : Option Bool := none
  pipelineInput : Text := []
  supportsWildcards : Option Bool := none
  defaultValue : Option Text := none
  aliases : List Text := []
  deriving DecidableEq, Repr

structure SyntaxSet where
  name : Text
  parameters : List Parameter
  deriving DecidableEq, Repr

structure ExampleEntry where
  title : Text
  code : Text
  remarks : Text
  mode : Text
  deriving DecidableEq, Repr

structure TypeEntry where
  name : Text
  description : Text
  deriving DecidableEq, Repr

structure Link where
  text : Text
  uri : Option Text
  deriving DecidableEq, Repr

structure Page where
  name : Text
  synopsis : Text := []
  description : Text := []
  usages : List SyntaxSet := []
  parameters : List Parameter := []
  examples : List ExampleEntry := []
  inputs : List TypeEntry := []
  outputs : List TypeEntry := []
  notes : Text := []
  links : List Link := []
  deriving DecidableEq, Repr

/-- What the list has under a name, up to the case of ASCII letters; the first entry wins. -/
def findParameter (parameters : List Parameter) (name : Text) : Option Parameter :=
  parameters.find? (fun p => sameName p.name name)

/-- Keeps the first of several parameters with the same name. `seen` holds the names before. -/
def dropRepeats (seen : List Text) : List Parameter → List Parameter
  | [] => []
  | p :: rest =>
    if seen.any (sameName p.name) then dropRepeats seen rest
    else p :: dropRepeats (p.name :: seen) rest

def SyntaxSet.ofParameters (name : Text) (parameters : List Parameter) : SyntaxSet :=
  ⟨name, dropRepeats [] parameters⟩

def orText (own other : Text) : Text := if own.isEmpty then other else own

/-- Fills what a parameter leaves unsaid from another entry for it. -/
def Parameter.enrichedFrom (own entry : Parameter) : Parameter where
  name := own.name
  typeName := orText own.typeName entry.typeName
  description := orText own.description entry.description
  position := own.position.or entry.position
  required := own.required.or entry.required
  pipelineInput := orText own.pipelineInput entry.pipelineInput
  supportsWildcards := own.supportsWildcards.or entry.supportsWildcards
  defaultValue := own.defaultValue.or entry.defaultValue
  aliases := if own.aliases.isEmpty then entry.aliases else own.aliases

def Page.isNameOnly (p : Page) : Bool := decide (p = { name := p.name })

def ExampleEntry.codeLines (e : ExampleEntry) : Nat := e.code.lines.length
def ExampleEntry.remarksLines (e : ExampleEntry) : Nat := e.remarks.lines.length

def defaultSetName (index total : Nat) : Text :=
  if total ≤ 1 then "Default" else "Set ".toList ++ Text.ofNat (index + 1)

def flagOf (value : Text) : Option Bool :=
  let v := lowerAscii (trim value)
  if v == "true".toList || v == "yes".toList then some true
  else if v == "false".toList || v == "no".toList then some false
  else none

/-- The parts of a list written with commas; blank parts and the word none stand for nothing. -/
def aliasesOf (value : Text) : List Text :=
  ((splitOn ',' value).map trim).filter (fun a => !a.isEmpty && !sameName a "none")

def nonEmpty (s : Text) : Option Text := if s.isEmpty then none else some s

end ModuleDocs.Help
