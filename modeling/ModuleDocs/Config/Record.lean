import ModuleDocs.Config.Basic
import ModuleDocs.Selection.Record
import ModuleDocs.Toml.Document

/-! Configurations as JSON records and as TOML documents. Every field may be missing, and then has
its value from the default configuration; an absent value is not written. -/
namespace ModuleDocs.Config
open Json Selection

def Remote.toJson (r : Remote) : Json :=
  record [("enabled", .bool r.enabled), ("repository", ofOption .str r.repository),
    ("branch", ofOption .str r.branch), ("api_base", .str r.apiBase),
    ("timeout_secs", .num (.int r.timeout))]

def Remote.ofJson? (j : Json) : Option Remote := do
  let ms ← members? ["enabled", "repository", "branch", "api_base", "timeout_secs"] 3 j
  pure {
    enabled := ← fieldOr? ms "enabled" false asBool?
    repository := ← optional? ms "repository" asText?
    branch := ← optional? ms "branch" asText?
    apiBase := ← fieldOr? ms "api_base" ({} : Remote).apiBase asText?
    timeout := ← fieldOr? ms "timeout_secs" ({} : Remote).timeout asNat? }

def Help.toJson (h : Help) : Json :=
  record [("program", .str h.program), ("args", ofTexts h.args),
    ("timeout_secs", .num (.int h.timeout))]

def Help.ofJson? (j : Json) : Option Help := do
  let ms ← members? ["program", "args", "timeout_secs"] 0 j
  pure {
    program := ← fieldOr? ms "program" ({} : Help).program asText?
    args := ← fieldOr? ms "args" ({} : Help).args (asList? asText?)
    timeout := ← fieldOr? ms "timeout_secs" ({} : Help).timeout asNat? }

def toJson (c : Config) : Json :=
  record [("mode", .str c.mode.name), ("show_duplicates", .bool c.showDuplicates),
    ("include_local", .bool c.includeLocal), ("secondary_dir", ofOption .str c.secondary),
    ("doc_folders", ofTexts c.docFolders), ("script_folders", ofTexts c.scriptFolders),
    ("introduction", ofOption .str c.introduction), ("remote", c.remote.toJson),
    ("help", c.help.toJson)]

def ofJson? (j : Json) : Option Config := do
  let ms ← members? ["mode", "show_duplicates", "include_local", "secondary_dir", "doc_folders",
    "script_folders", "introduction", "remote", "help"] 0 j
  pure {
    mode := ← fieldOr? ms "mode" ({} : Config).mode Mode.ofJson?
    showDuplicates := ← fieldOr? ms "show_duplicates" ({} : Config).showDuplicates asBool?
    includeLocal := ← fieldOr? ms "include_local" ({} : Config).includeLocal asBool?
    secondary := ← fieldOr? ms "secondary_dir" ({} : Config).secondary (asOption? asText?)
    docFolders := ← fieldOr? ms "doc_folders" ({} : Config).docFolders (asList? asText?)
    scriptFolders := ← fieldOr? ms "script_folders" ({} : Config).scriptFolders (asList? asText?)
    introduction := ← fieldOr? ms "introduction" ({} : Config).introduction (asOption? asText?)
    remote := ← fieldOr? ms "remote" {} Remote.ofJson?
    help := ← fieldOr? ms "help" {} Help.ofJson? }

def given (name : String) (t : Option Text) : List (Text × Toml.Value) :=
  (t.map fun t => (name.toList, Toml.Value.text t)).toList

def Remote.members (r : Remote) : List (Text × Toml.Value) :=
  [("enabled".toList, .flag r.enabled)] ++ given "repository" r.repository ++
    given "branch" r.branch ++
    [("api_base".toList, .text r.apiBase), ("timeout_secs".toList, .count r.timeout)]

def Help.members (h : Help) : List (Text × Toml.Value) :=
  [("program".toList, .text h.program), ("args".toList, .texts h.args),
    ("timeout_secs".toList, .count h.timeout)]

def members (c : Config) : List (Text × Toml.Value) :=
  [("mode".toList, .text c.mode.name), ("show_duplicates".toList, .flag c.showDuplicates),
    ("include_local".toList, .flag c.includeLocal)] ++ given "secondary_dir" c.secondary ++
    [("doc_folders".toList, .texts c.docFolders), ("script_folders".toList, .texts c.scriptFolders)] ++
    given "introduction" c.introduction

/-- The document of a configuration; none if a timeout is too large for one. -/
def write? (c : Config) : Option Text :=
  Toml.write? c.members [("remote".toList, c.remote.members), ("help".toList, c.help.members)]

/-- A document may give a name as the only key of a table, with an empty table or list behind it. -/
def nameOfKey : Json → Json
  | .obj [(name, .obj [])] => .str name
  | .obj [(name, .arr [])] => .str name
  | j => j

/-- A document may give a record as a list that goes on behind the last field. -/
def firstItems (count : Nat) : Json → Json
  | .arr items => .arr (items.take count)
  | j => j

def ofDocument (name : Text) (j : Json) : Json :=
  if name = "mode".toList then nameOfKey j
  else if name = "remote".toList then firstItems 5 j
  else if name = "help".toList then firstItems 3 j
  else j

def read? (s : Text) : Option Config :=
  match Toml.parse? s with
  | some (.obj members) => ofJson? (.obj (members.map fun m => (m.1, ofDocument m.1 m.2)))
  | _ => none

end ModuleDocs.Config
