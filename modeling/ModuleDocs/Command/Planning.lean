import ModuleDocs.Command.Arguments
import ModuleDocs.Command.Project
import ModuleDocs.Remote.Slug
import ModuleDocs.Selection.Collect

namespace ModuleDocs.Command
open Document Selection Remote

def PlanArguments.request (args : PlanArguments) (c : Config) (introduction : Option Text) :
    Request where
  mode := args.mode.getD c.mode
  showDuplicates := args.showDuplicates || c.showDuplicates
  includeLocal := c.includeLocal && !args.excludeLocal
  fetchRemote := !args.offline && (args.remote || c.remote.enabled)
  flags := args.excluded.foldl (fun flags k => flags.set k false)
    (args.included.foldl (fun flags k => flags.set k true) Flags.unsaid)
  introduction

variable {m : Type → Type} [Monad m]

def introductionText (s : Surroundings m) (t : Tree) (args : PlanArguments) (c : Config) :
    Except Failure (Option Text) :=
  match args.introduction with
  | none => .ok c.introduction
  | some file =>
    match t.text? (s.place file) with
    | some text => .ok (some text)
    | none => .error (.introduction file)

def repositorySlug? (t : Tree) (root : Text) (args : PlanArguments) (c : Config) : Option Text :=
  (args.repository.or c.remote.repository).or ((Local.origin? t root).bind Remote.slug?)

def remoteSetup (s : Surroundings m) (t : Tree) (root : Text) (args : PlanArguments) (c : Config) :
    Except Failure (Option (RemoteSetup m)) :=
  if args.offline then .ok none
  else match repositorySlug? t root args c with
    | none => .ok none
    | some slug =>
      let token := resolveToken args.token (hostOf c.remote.apiBase) s.tokens s.environment
      let bound : Duration := ⟨1000 * c.remote.timeout⟩
      match GitHub.ofSlug? c.remote.apiBase slug token bound with
      | .error _ => .error (.repository slug)
      | .ok g =>
        .ok (some { client := g.client s.send, bound, branch := args.branch.or c.remote.branch,
                    secondary := c.secondary })

def planDocuments (s : Surroundings m) (t : Tree) (path : Text) (args : PlanArguments) :
    m (Except Failure Result) :=
  let prepared := do
    let (root, c) ← openProject s t path
    let introduction ← introductionText s t args c
    pure (root, c, introduction, ← remoteSetup s t root args c)
  match prepared with
  | .error e => pure (.error e)
  | .ok (root, c, introduction, remote) => do
    let sources : Sources :=
      ⟨root, c.secondaryPath? root, c.docFolders, c.scriptFolders⟩
    pure (.ok (← collect t sources (args.request c introduction) remote))

end ModuleDocs.Command
