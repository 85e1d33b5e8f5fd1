import ModuleDocs.Config.Store
import ModuleDocs.Local.Checkout
import ModuleDocs.Program.Basic
import ModuleDocs.Remote.GitHub
import ModuleDocs.Remote.Token

namespace ModuleDocs.Command
open Remote

inductive Failure where
  | noProject (path : Text)
  | config (e : Config.StoreError)
  | setting (e : Config.SetError)
  | noAssignment (s : Text)
  | introduction (file : Text)
  | repository (slug : Text)
  | noHelp
  | helpFile (file : Text)
  | example (file : Text)
  | exampleInput
  deriving DecidableEq, Repr

def Failure.message : Failure → Text
  | noProject path => Local.unresolved path
  | config e => e.message
  | setting e => e.message
  | noAssignment s => "Expected key=value, got ".toList ++ Text.quoted s
  | introduction file => "Failed to read introduction ".toList ++ Text.quoted file
  | repository slug => "Invalid remote repository: ".toList ++ slug
  | noHelp => "No help files or commands given"
  | helpFile file => "Failed to read help file ".toList ++ Text.quoted file
  | .example file => "Failed to read example ".toList ++ Text.quoted file
  | exampleInput => "Failed to read example from stdin"

structure Surroundings (m : Type → Type) where
  folder : Text
  input : Bytes
  environment : Text → Option Text
  tokens : TokenStore
  programs : Program.Programs
  send : WebRequest → m Exchange

def Surroundings.place {m : Type → Type} (s : Surroundings m) (path : Text) : Text :=
  if path.isEmpty then [] else Path.join s.folder path

def openProject {m : Type → Type} (s : Surroundings m) (t : Tree) (path : Text) :
    Except Failure (Text × Config) := do
  let root ← match Local.projectRoot? t (s.place path) with
    | some root => pure root
    | none => .error (.noProject path)
  match Config.load t root with
  | .ok c => pure (root, c)
  | .error e => .error (.config e)

end ModuleDocs.Command
