import ModuleDocs.Remote.Client

namespace ModuleDocs.Remote

structure Repository where
  branch : Text
  /-- The contents by path, each path once. -/
  files : List (Text × Text) := []
  failing : Bool := false
  forbidden : List Text := []

namespace Repository

/-- The path is one of a forbidden folder, or lies below it. -/
def denies (r : Repository) (path : Text) : Bool :=
  r.forbidden.any fun folder => path == folder || Text.startsWith path (folder ++ ['/'])

def check (r : Repository) (path : Text) : Except RemoteError Unit :=
  if r.failing then .error (.network "connection refused")
  else if r.denies path then .error (.auth ("403 forbidden: ".toList ++ path))
  else .ok ()

def isSlash (c : Char) : Bool := c == '/'

def insertListed (e : Listed) : List Listed → List Listed
  | [] => [e]
  | d :: rest => if d.path < e.path then d :: insertListed e rest else e :: d :: rest

def listing (r : Repository) (folder : Text) : List Listed :=
  let start := if folder.isEmpty then [] else dropEndWhile isSlash folder ++ ['/']
  (r.files.filterMap fun f =>
    match Text.stripPrefix? f.1 start with
    | some name => if name.any isSlash then none else some ⟨name, f.1⟩
    | none => none).foldr insertListed []

def client {m : Type → Type} [Monad m] (r : Repository) : Client m where
  describe := "in-memory repository"
  defaultBranch := pure (some (if r.failing then .error (.network "connection refused") else .ok r.branch))
  fileContent path _ := pure (some ((r.check path).map fun _ => r.files.lookup path))
  listFiles path _ := pure (some ((r.check (Text.trimBy isSlash path)).map fun _ => r.listing path))

theorem check_open {r : Repository} (reached : r.failing = false) (allowed : r.forbidden = [])
    (path : Text) : r.check path = .ok () := by
  simp [check, denies, reached, allowed]

section
variable {m : Type → Type} [Monad m] {r : Repository}

theorem defaultBranch_client (reached : r.failing = false) :
    (r.client : Client m).defaultBranch = pure (some (.ok r.branch)) := by
  unfold client
  rw [reached]
  rfl

theorem fileContent_client {path : Text} (readable : r.check path = .ok ()) (branch : Text) :
    (r.client : Client m).fileContent path branch = pure (some (.ok (r.files.lookup path))) := by
  change pure (some ((r.check path).map fun _ => r.files.lookup path)) = _
  rw [readable]
  rfl

theorem listFiles_client {path : Text} (listable : r.check (Text.trimBy isSlash path) = .ok ())
    (branch : Text) :
    (r.client : Client m).listFiles path branch = pure (some (.ok (r.listing path))) := by
  change pure (some ((r.check (Text.trimBy isSlash path)).map fun _ => r.listing path)) = _
  rw [listable]
  rfl

end
end Repository

def stalled {m : Type → Type} [Monad m] (branch : Option Text) : Client m where
  defaultBranch := pure (branch.map .ok)
  fileContent _ _ := pure none
  listFiles _ _ := pure none

end ModuleDocs.Remote
