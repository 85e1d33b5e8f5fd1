import ModuleDocs.Document.Choice
import ModuleDocs.Document.Item
import ModuleDocs.Local.Documents
import ModuleDocs.Remote.Client
import ModuleDocs.Selection.Request

/-! Documents of a remote repository. Every call is bounded in time. A location that fails costs
its own documents only, and the failure becomes a note. -/
namespace ModuleDocs.Remote
open Document Selection

structure Fetcher (m : Type → Type) where
  client : Client m
  bound : Duration
  secondary : Option Text := none

structure Located where
  items : List Item := []
  failures : List (Text × RemoteError) := []

structure Fetched where
  branch : Option Text := none
  candidates : Candidates := {}
  notes : List Note := []

def Located.ofOutcomes (outcomes : List (Text × Except RemoteError (Option Item))) : Located where
  items := outcomes.filterMap fun o => match o.2 with
    | .ok found => found
    | .error _ => none
  failures := outcomes.filterMap fun o => match o.2 with
    | .ok _ => none
    | .error e => some (o.1, e)

def shownFolder (folder : Text) : Text := if folder.isEmpty then "repository root" else folder

def secondaryFolder? (folder : Option Text) : Option Text :=
  (folder.map (Text.trimBy (· == '/'))).filter (!·.isEmpty)

def backfillFolders : List Text := [".github".toList]

namespace Fetcher

variable {m : Type → Type} [Monad m]

/-- The given branch, unless it is blank, else the default one. -/
def branch (f : Fetcher m) (preferred : Option Text) : m (Except RemoteError Text) :=
  match preferred.filter (!Text.isBlank ·) with
  | some b => pure (.ok b)
  | none => do pure (bounded f.bound (← f.client.defaultBranch))

def candidateIn (f : Fetcher m) (k : Kind) (branch folder : Text) :
    m (Except RemoteError (Option Item)) := do
  match bounded f.bound (← f.client.listFiles folder branch) with
  | .error e => pure (.error e)
  | .ok entries =>
    match chosen? k Listed.name entries with
    | none => pure (.ok none)
    | some entry =>
      match bounded f.bound (← f.client.fileContent entry.path branch) with
      | .error e => pure (.error e)
      | .ok content => pure (.ok ((content.map fun c =>
          Item.ofKind k c entry.name entry.path .remote).filter Item.hasContent))

def candidatesIn (f : Fetcher m) (k : Kind) (branch : Text) (folders : List Text) : m Located := do
  let outcomes ← folders.mapM fun folder => do pure (folder, ← f.candidateIn k branch folder)
  pure (Located.ofOutcomes outcomes)

def folders (f : Fetcher m) : List Text := [] :: f.secondary.toList

def candidates (f : Fetcher m) (k : Kind) (branch : Text) : m Located :=
  f.candidatesIn k branch f.folders

end Fetcher

def failureNotes (k : Kind) (l : Located) : List Note :=
  l.failures.map fun (folder, e) => Note.about k "remote-error"
    ("remote ".toList ++ k.name ++ " not fetched from ".toList ++ shownFolder folder ++
      ": ".toList ++ e.message)

/-- The findings for some kinds, taken together. The last ones for a kind count; a kind without
items gets no entry. -/
def Fetched.ofLocated (branch : Text) (found : List (Kind × Located)) : Fetched where
  branch := some branch
  candidates.entry? k := (found.reverse.find? fun f => f.1 == k && !f.2.items.isEmpty).map
    fun f => f.2.items
  notes := found.flatMap fun f => failureNotes f.1 f.2

namespace Fetcher

variable {m : Type → Type} [Monad m]

/-- The documents of all given kinds. If no branch is given and the default one cannot be had,
nothing is fetched. -/
def fetchAll (f : Fetcher m) (preferred : Option Text) (kinds : List Kind) : m Fetched := do
  match ← f.branch preferred with
  | .error e => pure { notes := [⟨"remote-unavailable",
      f.client.describe ++ " unavailable: ".toList ++ e.message⟩] }
  | .ok branch =>
    let found ← kinds.mapM fun k => do pure (k, ← f.candidates k branch)
    pure (Fetched.ofLocated branch found)

/-- The first document of a kind in any location, the further ones included. -/
def backfill (f : Fetcher m) (k : Kind) (branch : Text) : m (Option Item) := do
  let found ← f.candidatesIn k branch (f.folders ++ backfillFolders)
  pure found.items.head?

def folderItem? (f : Fetcher m) (branch : Text) (role : Role) (entry : Listed) :
    m (Option Item) := do
  match bounded f.bound (← f.client.fileContent entry.path branch) with
  | .ok (some content) =>
    pure (some (Local.folderItem role content entry.name entry.path .remote))
  | _ => pure none

def folderItems (f : Fetcher m) (folder branch : Text) (role : Role) : m (List Item) := do
  match bounded f.bound (← f.client.listFiles folder branch) with
  | .error _ => pure []
  | .ok entries =>
    let items ← entries.mapM (f.folderItem? branch role)
    pure ((items.filterMap id).filter Item.hasContent)

end Fetcher
end ModuleDocs.Remote
