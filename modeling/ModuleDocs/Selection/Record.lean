import ModuleDocs.Json.Record
import ModuleDocs.Selection.Request

namespace ModuleDocs
open Json

namespace Document

def Kind.toJson (k : Kind) : Json := .str k.name
def Kind.ofJson? : Json → Option Kind := asName? Kind.ofName?

def Item.toJson (i : Item) : Json :=
  record ([("title", .str i.title), ("kind", .str i.role.name), ("content", .str i.content),
    ("file_name", .str i.fileName), ("path", .str i.path), ("source", .str i.source.name)] ++
    (i.kind.map fun k => ("doc_kind", k.toJson)).toList)

def Item.ofJson? (j : Json) : Option Item := do
  let ms ← members? ["title", "kind", "content", "file_name", "path", "source", "doc_kind"] 7 j
  pure {
    title := ← field? ms "title" asText?
    role := ← field? ms "kind" (asName? Role.ofName?)
    content := ← field? ms "content" asText?
    fileName := ← field? ms "file_name" asText?
    path := ← field? ms "path" asText?
    source := ← field? ms "source" (asName? Source.ofName?)
    kind := ← optional? ms "doc_kind" Kind.ofJson? }

def itemsByKind? : Json → Option (List (Kind × List Item))
  | .obj members => members.mapM fun (name, j) => do
    pure (← Kind.ofName? name, ← asList? Item.ofJson? j)
  | _ => none

def Candidates.toJson (c : Candidates) : Json :=
  .obj <| Kind.all.filterMap fun k =>
    (c.entry? k).map fun items => (k.name, .arr (items.map Item.toJson))

def Candidates.ofList (found : List (Kind × List Item)) : Candidates where
  entry? k := found.lookup k

end Document

namespace Selection
open Document

def Mode.ofJson? : Json → Option Mode := asName? Mode.ofName?

def flagOrder : List Kind := [.readme, .changelog, .license, .upgrade, .introduction]

def Flags.toJson (flags : Flags) : Json :=
  .obj (flagOrder.map fun k => (k.name, ofOption .bool (flags k)))

def Flags.ofJson? (j : Json) : Option Flags := do
  let ms ← members? ["readme", "changelog", "license", "upgrade", "introduction"] 5 j
  let given ← flagOrder.mapM fun k => do
    pure (k, ← optional? ms (Text.toString k.name) asBool?)
  pure fun k => (given.lookup k).join

def Note.toJson (n : Note) : Json := record [("key", .str n.key), ("message", .str n.message)]

def Note.ofJson? (j : Json) : Option Note := do
  let ms ← members? ["key", "message"] 2 j
  pure ⟨← field? ms "key" asText?, ← field? ms "message" asText?⟩

def Result.toJson (r : Result) : Json :=
  record [("items", .arr (r.items.map Item.toJson)), ("used_remote", .bool r.usedRemote),
    ("notes", .arr (r.notes.map Note.toJson)), ("missing", .arr (r.missing.map Kind.toJson))]

def Result.ofJson? (j : Json) : Option Result := do
  let ms ← members? ["items", "used_remote", "notes", "missing"] 4 j
  pure {
    items := ← field? ms "items" (asList? Item.ofJson?)
    usedRemote := ← field? ms "used_remote" asBool?
    notes := ← field? ms "notes" (asList? Note.ofJson?)
    missing := ← field? ms "missing" (asList? Kind.ofJson?) }

end Selection
end ModuleDocs
