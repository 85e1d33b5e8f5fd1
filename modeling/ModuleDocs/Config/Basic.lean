import ModuleDocs.Selection.Request
import ModuleDocs.Text.Digits
import ModuleDocs.Text.Quoted
import ModuleDocs.Tree.Path

namespace ModuleDocs
open Selection

namespace Config

structure Remote where
  enabled : Bool := false
  repository : Option Text := none
  branch : Option Text := none
  apiBase : Text := "https://api.github.com"
  timeout : Nat := 15
  deriving DecidableEq, Repr

structure Help where
  program : Text := "pwsh"
  args : List Text := ["-NoProfile".toList, "-NonInteractive".toList, "-Command".toList,
    "Get-Help \x7bcommand\x7d -Full | Out-String -Width 4096".toList]
  timeout : Nat := 30
  deriving DecidableEq, Repr

end Config

structure Config where
  mode : Mode := .preferLocal
  showDuplicates : Bool := false
  includeLocal : Bool := true
  secondary : Option Text := some "docs".toList
  docFolders : List Text := ["docs/articles".toList]
  scriptFolders : List Text := []
  introduction : Option Text := none
  remote : Config.Remote := {}
  help : Config.Help := {}
  deriving DecidableEq, Repr

namespace Config

inductive Key where
  | mode
  | showDuplicates
  | includeLocal
  | secondary
  | introduction
  | remoteEnabled
  | remoteRepository
  | remoteBranch
  | remoteApiBase
  | remoteTimeout
  | helpProgram
  | helpTimeout
  deriving DecidableEq, Repr

namespace Key

def all : List Key :=
  [mode, showDuplicates, includeLocal, secondary, introduction, remoteEnabled, remoteRepository,
   remoteBranch, remoteApiBase, remoteTimeout, helpProgram, helpTimeout]

def name : Key → Text
  | mode => "mode"
  | showDuplicates => "show_duplicates"
  | includeLocal => "include_local"
  | secondary => "secondary_dir"
  | introduction => "introduction"
  | remoteEnabled => "remote.enabled"
  | remoteRepository => "remote.repository"
  | remoteBranch => "remote.branch"
  | remoteApiBase => "remote.api_base"
  | remoteTimeout => "remote.timeout_secs"
  | helpProgram => "help.program"
  | helpTimeout => "help.timeout_secs"

def ofName? (name : Text) : Option Key := all.find? fun k => k.name == name

end Key

def flagText (b : Bool) : Text := if b then "true" else "false"

def get (c : Config) : Key → Text
  | .mode => c.mode.name
  | .showDuplicates => flagText c.showDuplicates
  | .includeLocal => flagText c.includeLocal
  | .secondary => c.secondary.getD []
  | .introduction => c.introduction.getD []
  | .remoteEnabled => flagText c.remote.enabled
  | .remoteRepository => c.remote.repository.getD []
  | .remoteBranch => c.remote.branch.getD []
  | .remoteApiBase => c.remote.apiBase
  | .remoteTimeout => Text.ofNat c.remote.timeout
  | .helpProgram => c.help.program
  | .helpTimeout => Text.ofNat c.help.timeout

def get? (c : Config) (name : Text) : Option Text := (Key.ofName? name).map c.get

inductive SetError where
  | unknownKey (name : Text)
  | notMode (value : Text)
  | notFlag (name value : Text)
  | notSeconds (name value : Text)
  deriving DecidableEq, Repr

def SetError.message : SetError → Text
  | unknownKey name => "Unknown config key: ".toList ++ name
  | notMode value =>
    "Invalid mode ".toList ++ Text.quoted value ++ ": invalid variant: ".toList ++ value
  | notFlag name value =>
    "Expected true or false for ".toList ++ name ++ ", got ".toList ++ Text.quoted value
  | notSeconds name value =>
    "Expected a number of seconds for ".toList ++ name ++ ", got ".toList ++ Text.quoted value

def flag? (s : Text) : Option Bool :=
  if s = "true".toList then some true else if s = "false".toList then some false else none

/-- Decimal digits, after a plus sign or none, of a number that fits 64 bits. -/
def seconds? (s : Text) : Option Nat :=
  let ds := (Text.stripPrefix? s ['+']).getD s
  let n := Text.numberIn 10 ds
  if ds ≠ [] ∧ ds.all Char.isDigit ∧ n < 18446744073709551616 then some n else none

def mode? (s : Text) : Option Mode := Mode.ofName? (Text.lowerAscii s)

def present? (s : Text) : Option Text := if s.isEmpty then none else some s

/-- The change that a trimmed value makes, none if it has not the form of the key. -/
def put? (c : Config) (value : Text) : Key → Option Config
  | .mode => (mode? value).map fun m => { c with mode := m }
  | .showDuplicates => (flag? value).map fun b => { c with showDuplicates := b }
  | .includeLocal => (flag? value).map fun b => { c with includeLocal := b }
  | .secondary => some { c with secondary := present? value }
  | .introduction => some { c with introduction := present? value }
  | .remoteEnabled => (flag? value).map fun b => { c with remote.enabled := b }
  | .remoteRepository => some { c with remote.repository := present? value }
  | .remoteBranch => some { c with remote.branch := present? value }
  | .remoteApiBase => some { c with remote.apiBase := value }
  | .remoteTimeout => (seconds? value).map fun n => { c with remote.timeout := n }
  | .helpProgram => some { c with help.program := value }
  | .helpTimeout => (seconds? value).map fun n => { c with help.timeout := n }

def misfit (value : Text) (k : Key) : SetError :=
  match k with
  | .mode => .notMode value
  | .remoteTimeout | .helpTimeout => .notSeconds k.name value
  | _ => .notFlag k.name value

/-- Sets the value under a name. White space around the value does not count. -/
def set (c : Config) (name value : Text) : Except SetError Config :=
  match Key.ofName? name with
  | none => .error (.unknownKey name)
  | some k =>
    match c.put? (Text.trim value) k with
    | some c => .ok c
    | none => .error (misfit (Text.trim value) k)

def folderName : Text := ".modoc"

def folderPath (root : Text) : Text := Path.join root folderName

def fileName : Text := "config.toml"

def filePath (root : Text) : Text := Path.join (folderPath root) fileName

/-- The folder to search after the root; a blank name counts as none. -/
def secondaryPath? (c : Config) (root : Text) : Option Text :=
  (c.secondary.filter fun d => !Text.isBlank d).map (Path.join root)

end Config
end ModuleDocs
