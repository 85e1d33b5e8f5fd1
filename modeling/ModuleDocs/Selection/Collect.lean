import ModuleDocs.Local.Documents
import ModuleDocs.Remote.Fetch
import ModuleDocs.Selection.Plan

/-! The documents of one project: local and remote candidates are gathered and planned, and a kind
that ended without any item is fetched once more. No failure of the remote stops a run. -/
namespace ModuleDocs.Selection
open Document Remote

structure Sources where
  root : Text
  secondary : Option Text := none
  docFolders : List Text := []
  scriptFolders : List Text := []

structure RemoteSetup (m : Type → Type) where
  client : Client m
  bound : Duration
  branch : Option Text := none
  secondary : Option Text := none

def RemoteSetup.fetcher {m : Type → Type} (s : RemoteSetup m) : Fetcher m :=
  ⟨s.client, s.bound, secondaryFolder? s.secondary⟩

def fetchedKinds : List Kind := Kind.all.filter (· != .introduction)

def withFolders (t : Tree) (s : Sources) (r : Request) : Request :=
  { r with supplemental := r.supplemental ++ Local.folderItems t s.root s.docFolders .supplementalDoc ++
      Local.folderItems t s.root s.scriptFolders .script }

def planned (t : Tree) (s : Sources) (r : Request) (notes : List Note) (remotes : Candidates) :
    Result :=
  let result := plan r (Local.candidates t s.root s.secondary) remotes
  { result with notes := notes ++ result.notes }

section
variable {m : Type → Type} [Monad m]

def backfillMissing (setup : RemoteSetup m) (branch : Option Text) (result : Result) : m Result := do
  let missing := result.missing.filter (· != .introduction)
  if missing.isEmpty then pure result
  else
    let found ← match branch with
      | some b => pure (.ok b)
      | none => setup.fetcher.branch setup.branch
    match found with
    | .error _ => pure result
    | .ok b =>
      let items ← missing.mapM fun k => setup.fetcher.backfill k b
      pure ((items.filterMap id).foldl (fun r i => (r.insertBackfill i).2) result)

/-- The documents with a remote. If no branch of it can be determined, local documents count even
where they would give way to remote ones. -/
def collectWith (t : Tree) (s : Sources) (r : Request) (setup : RemoteSetup m) : m Result := do
  let r := { withFolders t s r with remoteAvailable := true }
  if r.fetchRemote then
    let fetched ← setup.fetcher.fetchAll setup.branch fetchedKinds
    let more ← match fetched.branch with
      | some b => s.docFolders.mapM fun folder => setup.fetcher.folderItems folder b .supplementalDoc
      | none => pure []
    let r := { r with
      remoteAvailable := fetched.branch.isSome, supplemental := r.supplemental ++ more.flatten }
    backfillMissing setup fetched.branch (planned t s r fetched.notes fetched.candidates)
  else backfillMissing setup none (planned t s r [] {})

def collect (t : Tree) (s : Sources) (r : Request) (remote : Option (RemoteSetup m)) : m Result :=
  match remote with
  | some setup => collectWith t s r setup
  | none => pure (planned t s { withFolders t s r with remoteAvailable := false } [] {})

end
end ModuleDocs.Selection
