import ModuleDocs.Help.Page
import ModuleDocs.Json.Number

/-! Help captured as structured objects. Producers disagree on the shape: some nest most fields and
wrap paragraphs in objects, others write flat members. Each field is read by a chain of attempts, of
which the first that finds something counts. -/
namespace ModuleDocs.Help
open Text

/-- The member with exactly this name, or else the first whose name differs only in the case of
ASCII letters. -/
def findMember {α : Type} (members : List (Text × α)) (key : Text) : Option α :=
  (members.lookup key).or ((members.find? (fun m => sameName m.1 key)).map (·.2))

def wrapperKeys : List Text := ["Text", "#text", "value", "content"]

def paragraphBreak : Text := "\n\n"

mutual

/-- The readable text of a node, if it has any: strings are trimmed, the items of a list become
paragraphs, and an object stands for the text it wraps. -/
def textOf : Json → Option Text
  | .null => none
  | .bool b => some (if b then "true" else "false")
  | .num n => some n.toText
  | .str s => nonEmpty (trim s)
  | .arr items => nonEmpty (paragraphBreak.intercalate (textsOf items))
  | .obj members => wrapperKeys.findSome? fun key => (findMember (memberTexts members) key).join

def textsOf : List Json → List Text
  | [] => []
  | j :: rest => (textOf j).toList ++ textsOf rest

def memberTexts : List (Text × Json) → List (Text × Option Text)
  | [] => []
  | (k, j) :: rest => (k, textOf j) :: memberTexts rest

end

namespace HelpObject

def get (j : Json) (key : Text) : Option Json :=
  match j with
  | .obj members => findMember members key
  | _ => none

def follow (j : Json) (keys : List Text) : Option Json := keys.foldlM get j

def textAt (j : Json) (keys : List Text) : Option Text := (follow j keys).bind textOf

def textAmong (j : Json) (chains : List (List Text)) : Option Text :=
  chains.findSome? (textAt j)

def flagAt (j : Json) (keys : List Text) : Option Bool :=
  match follow j keys with
  | some (.bool b) => some b
  | some other => (textOf other).bind flagOf
  | none => none

def asList : Json → List Json
  | .arr items => items
  | .null => []
  | other => [other]

/-- The items of the first collection found. Behind a chain of members a single value counts as one
item; a flat member counts only if it is a list. -/
def collection (j : Json) (nested : List (List Text)) (flat : List Text) : List Json :=
  match nested.findSome? (follow j) with
  | some found => asList found
  | none =>
    match flat.findSome? fun key => (get j key).filter fun | .arr _ => true | _ => false with
    | some found => asList found
    | none => []

/-- The text of the first member whose name mentions the word and that carries text. -/
def looseText (j : Json) (word : Text) : Option Text :=
  match j with
  | .obj members =>
    (members.filter (fun m => (lowerAscii m.1).contains word)).findSome? (fun m => textOf m.2)
  | _ => none

def name (j : Json) : Option Text := textAmong j [["details", "name"], ["name"], ["commandName"]]

def synopsis (j : Json) : Option Text :=
  (textAmong j [["synopsis"], ["details", "description"], ["summary"]]).or
    (looseText j "synopsis")

def description (j : Json) : Option Text :=
  (textAmong j [["description"], ["details", "detailedDescription"]]).or
    (looseText j "description")

def notes (j : Json) : Option Text :=
  let alerts := ((follow j ["alertSet", "alert"]).map asList).getD []
  let texts := alerts.filterMap textOf
  if texts.isEmpty then (textAt j ["notes"]).or (looseText j "note")
  else some (paragraphBreak.intercalate texts)

def typeName (j : Json) : Text :=
  (textAmong j [["type", "name"], ["typeName"], ["type"], ["parameterValue"]]).getD []

def aliases (j : Json) : List Text :=
  match get j "aliases" with
  | some (.arr items) => (items.filterMap textOf).flatMap aliasesOf
  | some other => ((textOf other).map aliasesOf).getD []
  | none => []

def parameter? (j : Json) : Option Parameter := do
  let name ← textAt j ["name"]
  pure {
    name := name.dropWhile (· == '-')
    typeName := typeName j
    description := (textAt j ["description"]).getD []
    position := textAt j ["position"]
    required := (flagAt j ["required"]).or (flagAt j ["isMandatory"])
    pipelineInput := (textAmong j [["pipelineInput"], ["acceptPipelineInput"]]).getD []
    supportsWildcards := (flagAt j ["globbing"]).or (flagAt j ["supportsWildcards"])
    defaultValue := (textAt j ["defaultValue"]).filter (fun d => !sameName d "none")
    aliases := aliases j }

def parameters (j : Json) : List Parameter :=
  (collection j [["parameters", "parameter"]] ["parameters"]).filterMap parameter?

def enriched (catalogue : List Parameter) (p : Parameter) : Parameter :=
  match findParameter catalogue p.name with
  | some entry => p.enrichedFrom entry
  | none => p

def usages (j : Json) (catalogue : List Parameter) : List SyntaxSet :=
  let items := collection j [["syntax", "syntaxItem"]] ["syntax", "parameterSets"]
  items.mapIdx fun i item =>
    let name := (textAmong item [["parameterSetName"], ["setName"]]).getD
      (defaultSetName i items.length)
    let own := (collection item [["parameter"], ["parameters"]] []).filterMap parameter?
    .ofParameters name (own.map (enriched catalogue))

structure RawExample where
  title : Text
  body : Text
  remarks : Text

/-- A prompt and the code behind it stand on one line, any other introduction above the code. -/
def joinIntroduction (introduction code : Text) : Text :=
  if introduction.isEmpty then code
  else if introduction.endsWith ">" then introduction ++ ' ' :: code
  else introduction ++ '\n' :: code

def rawExample (j : Json) : RawExample where
  title := (textAt j ["title"]).getD []
  body := joinIntroduction ((textAt j ["introduction"]).getD []) ((textAt j ["code"]).getD [])
  remarks := (textAt j ["remarks"]).getD []

def examples (j : Json) : List RawExample :=
  (collection j [["examples", "example"]] ["examples"]).map rawExample

def labelOf (j : Json) (chains : List (List Text)) : Option Text :=
  match j with
  | .str _ => textOf j
  | _ => textAmong j chains

def typeEntry? (j : Json) : Option TypeEntry :=
  (labelOf j [["type", "name"], ["name"]]).map fun name =>
    ⟨name, (textAt j ["description"]).getD []⟩

def inputs (j : Json) : List TypeEntry :=
  (collection j [["inputTypes", "inputType"]] ["inputs"]).filterMap typeEntry?

def outputs (j : Json) : List TypeEntry :=
  (collection j [["returnValues", "returnValue"]] ["outputs"]).filterMap typeEntry?

/-- A link with a text, an address or both; the address also serves as the text. -/
def link? (j : Json) : Option Link :=
  let uri := textAmong j [["uri"], ["url"]]
  match labelOf j [["linkText"], ["text"]] with
  | some text => some ⟨text, uri⟩
  | none => uri.map fun u => ⟨u, some u⟩

def links (j : Json) : List Link :=
  (collection j [["relatedLinks", "navigationLink"]] ["relatedLinks", "links"]).filterMap link?

end HelpObject
end ModuleDocs.Help
