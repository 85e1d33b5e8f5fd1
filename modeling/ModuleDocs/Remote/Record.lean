import ModuleDocs.Json.Record
import ModuleDocs.Remote.Client

namespace ModuleDocs.Remote.Listed
open Json

def toJson (e : Listed) : Json := record [("name", .str e.name), ("path", .str e.path)]

def ofJson? (j : Json) : Option Listed := do
  let ms ← members? ["name", "path"] 2 j
  pure { name := ← field? ms "name" asText?, path := ← field? ms "path" asText? }

end ModuleDocs.Remote.Listed
