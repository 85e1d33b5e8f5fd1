import ModuleDocs.Help.Layout
import ModuleDocs.Help.Marker
import ModuleDocs.Help.Page
import ModuleDocs.Text.Letter

namespace ModuleDocs.Help
open Text

def between? (left right : Char) (s : Text) : Option Text :=
  match s with
  | c :: rest => if c = left then stripSuffix? rest [right] else none
  | [] => none

/-- The header of a parameter block: a dash, a name of letters, digits and underscores, and a type in
angle brackets or nothing. The type may stand in square brackets. -/
def parameterHeader? (line : Text) : Option Parameter := do
  let rest ← line.stripPrefix? "-"
  let name := rest.takeWhile (fun c => !isWhite c)
  guard (!name.isEmpty && name.all (fun c => isAlphanumeric c || c == '_'))
  let remainder := trim (rest.drop name.length)
  let remainder := (between? '[' ']' remainder).getD remainder
  if remainder.isEmpty then pure { name }
  else
    let type ← between? '<' '>' remainder
    pure { name, typeName := trim type }

inductive Attribute where
  | required
  | position
  | defaultValue
  | pipelineInput
  | wildcards
  | aliases
  deriving DecidableEq, Repr

namespace Attribute

def all : List Attribute := [required, position, defaultValue, pipelineInput, wildcards, aliases]

def label : Attribute → Text
  | required => "required?"
  | position => "position?"
  | defaultValue => "default value"
  | pipelineInput => "accept pipeline input?"
  | wildcards => "accept wildcard characters?"
  | aliases => "aliases"

/-- The value on a line that begins with the label, in any letter case, and goes on with white space,
a colon or nothing. -/
def valueIn? (a : Attribute) (line : Text) : Option Text :=
  let rest := line.drop a.label.length
  if sameName (line.take a.label.length) a.label && rest.head?.all (fun c => isWhite c || c == ':')
  then some (trim (rest.dropWhile (· == ':')))
  else none

def ofLine? (line : Text) : Option (Attribute × Text) :=
  all.findSome? fun a => (a.valueIn? line).map (a, ·)

def apply (p : Parameter) : Attribute × Text → Parameter
  | (required, v) => { p with required := flagOf v }
  | (position, v) => { p with position := nonEmpty v }
  | (defaultValue, v) => { p with defaultValue := (nonEmpty v).filter (fun d => !sameName d "none") }
  | (pipelineInput, v) => { p with pipelineInput := v }
  | (wildcards, v) => { p with supportsWildcards := flagOf v }
  | (aliases, v) => { p with aliases := aliasesOf v }

end Attribute

def Parameter.withBlock (p : Parameter) (ls : List Text) : Parameter :=
  { (ls.filterMap Attribute.ofLine?).foldl Attribute.apply p with
    description := paragraphOf (ls.filter (fun l => (Attribute.ofLine? l).isNone)) }

def parameterBlocks : List Text → List Parameter
  | [] => []
  | line :: rest =>
    match parameterHeader? line with
    | some p =>
      p.withBlock (rest.takeWhile (fun l => (parameterHeader? l).isNone)) :: parameterBlocks rest
    | none => parameterBlocks rest

def parametersOf (s : Text) : List Parameter := parameterBlocks (s.lines.map trim)

def markedExamples (ordinal : Nat) : List Text → List (Text × Text)
  | [] => []
  | line :: rest =>
    match exampleMarker? line with
    | some after =>
      (exampleTitle after ordinal,
        dedentLines (rest.takeWhile (fun l => (exampleMarker? l).isNone))) ::
        markedExamples (ordinal + 1) rest
    | none => markedExamples ordinal rest

/-- The examples of a text. Text before the first marker is dropped; without any marker all of
the text is one example. -/
def examplesOf (s : Text) : List (Text × Text) :=
  let ls := s.lines
  if ls.any (fun l => (exampleMarker? l).isSome) then markedExamples 1 ls
  else
    let body := dedentLines ls
    if body.isEmpty then [] else [(numberedTitle 1, body)]

def groups : List Text → List (List Text)
  | [] => []
  | l :: rest =>
    if l.isEmpty then groups rest
    else match rest with
      | [] => [[l]]
      | next :: _ =>
        if next.isEmpty then [l] :: groups rest
        else match groups rest with
          | [] => [[l]]
          | g :: gs => (l :: g) :: gs

/-- One type for each block of lines: the first line names it, the others describe it. -/
def typesOf (s : Text) : List TypeEntry :=
  (groups (s.lines.map trim)).filterMap fun
    | [] => none
    | name :: rest => some ⟨name, paragraphOf rest⟩

def isUrl (s : Text) : Bool :=
  (lowerAscii s).startsWith "https://" || (lowerAscii s).startsWith "http://"

/-- A line that is an address, or ends in one after a label, or is a plain reference. -/
def linkOf (line : Text) : Link :=
  if isUrl line then ⟨line, some line⟩
  else
    match splitLast isWhite line with
    | some (label, uri) =>
      if isUrl uri then ⟨trim (dropEndWhile (· == ':') (trim label)), some uri⟩ else ⟨line, none⟩
    | none => ⟨line, none⟩

def linksOf (s : Text) : List Link :=
  ((s.lines.map trim).filter (fun l => !l.isEmpty)).map linkOf

end ModuleDocs.Help
