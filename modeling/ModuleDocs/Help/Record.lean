import ModuleDocs.Example.Segment
import ModuleDocs.Help.Reader
import ModuleDocs.Json.Record

namespace ModuleDocs
open Json

namespace Example

def Segmented.toJson (s : Segmented) : Json :=
  record [("code", .str s.code), ("remarks", .str s.remarks), ("mode", .str s.mode)]

def Segmented.ofJson? (j : Json) : Option Segmented := do
  let ms ← members? ["code", "remarks", "mode"] 3 j
  pure ⟨← field? ms "code" asText?, ← field? ms "remarks" asText?, ← field? ms "mode" asText?⟩

end Example

namespace Help

def Parameter.toJson (p : Parameter) : Json :=
  record [("name", .str p.name), ("type_name", .str p.typeName),
    ("description", .str p.description), ("position", ofOption .str p.position),
    ("required", ofOption .bool p.required), ("pipeline_input", .str p.pipelineInput),
    ("supports_wildcards", ofOption .bool p.supportsWildcards),
    ("default_value", ofOption .str p.defaultValue), ("aliases", ofTexts p.aliases)]

def Parameter.ofJson? (j : Json) : Option Parameter := do
  let ms ← members? ["name", "type_name", "description", "position", "required", "pipeline_input",
    "supports_wildcards", "default_value", "aliases"] 9 j
  pure {
    name := ← field? ms "name" asText?
    typeName := ← field? ms "type_name" asText?
    description := ← field? ms "description" asText?
    position := ← optional? ms "position" asText?
    required := ← optional? ms "required" asBool?
    pipelineInput := ← field? ms "pipeline_input" asText?
    supportsWildcards := ← optional? ms "supports_wildcards" asBool?
    defaultValue := ← optional? ms "default_value" asText?
    aliases := ← field? ms "aliases" (asList? asText?) }

def SyntaxSet.toJson (s : SyntaxSet) : Json :=
  record [("name", .str s.name), ("parameters", .arr (s.parameters.map Parameter.toJson))]

def SyntaxSet.ofJson? (j : Json) : Option SyntaxSet := do
  let ms ← members? ["name", "parameters"] 2 j
  pure ⟨← field? ms "name" asText?, ← field? ms "parameters" (asList? Parameter.ofJson?)⟩

def ExampleEntry.toJson (e : ExampleEntry) : Json :=
  record [("title", .str e.title), ("code", .str e.code), ("remarks", .str e.remarks),
    ("mode", .str e.mode)]

def ExampleEntry.ofJson? (j : Json) : Option ExampleEntry := do
  let ms ← members? ["title", "code", "remarks", "mode"] 4 j
  pure ⟨← field? ms "title" asText?, ← field? ms "code" asText?, ← field? ms "remarks" asText?,
    ← field? ms "mode" asText?⟩

def TypeEntry.toJson (t : TypeEntry) : Json :=
  record [("name", .str t.name), ("description", .str t.description)]

def TypeEntry.ofJson? (j : Json) : Option TypeEntry := do
  let ms ← members? ["name", "description"] 2 j
  pure ⟨← field? ms "name" asText?, ← field? ms "description" asText?⟩

def Link.toJson (l : Link) : Json := record [("text", .str l.text), ("uri", ofOption .str l.uri)]

def Link.ofJson? (j : Json) : Option Link := do
  let ms ← members? ["text", "uri"] 2 j
  pure ⟨← field? ms "text" asText?, ← optional? ms "uri" asText?⟩

def Page.toJson (p : Page) : Json :=
  record [("name", .str p.name), ("synopsis", .str p.synopsis),
    ("description", .str p.description), ("syntax", .arr (p.usages.map SyntaxSet.toJson)),
    ("parameters", .arr (p.parameters.map Parameter.toJson)),
    ("examples", .arr (p.examples.map ExampleEntry.toJson)),
    ("inputs", .arr (p.inputs.map TypeEntry.toJson)),
    ("outputs", .arr (p.outputs.map TypeEntry.toJson)), ("notes", .str p.notes),
    ("related_links", .arr (p.links.map Link.toJson))]

def Page.ofJson? (j : Json) : Option Page := do
  let ms ← members? ["name", "synopsis", "description", "syntax", "parameters", "examples",
    "inputs", "outputs", "notes", "related_links"] 10 j
  pure {
    name := ← field? ms "name" asText?
    synopsis := ← field? ms "synopsis" asText?
    description := ← field? ms "description" asText?
    usages := ← field? ms "syntax" (asList? SyntaxSet.ofJson?)
    parameters := ← field? ms "parameters" (asList? Parameter.ofJson?)
    examples := ← field? ms "examples" (asList? ExampleEntry.ofJson?)
    inputs := ← field? ms "inputs" (asList? TypeEntry.ofJson?)
    outputs := ← field? ms "outputs" (asList? TypeEntry.ofJson?)
    notes := ← field? ms "notes" asText?
    links := ← field? ms "related_links" (asList? Link.ofJson?) }

def Capture.toJson (c : Capture) : Json :=
  record [("structured", ofOption id c.structured), ("raw", ofOption .str c.raw),
    ("name_hint", ofOption .str c.nameHint)]

def Capture.ofJson? (j : Json) : Option Capture := do
  let ms ← members? ["structured", "raw", "name_hint"] 3 j
  pure {
    structured := ← optional? ms "structured" some
    raw := ← optional? ms "raw" asText?
    nameHint := ← optional? ms "name_hint" asText? }

end Help
end ModuleDocs
