import ModuleDocs.Text.Basic

namespace ModuleDocs.Remote

def addressStarts : List Text :=
  ["git@github.com:".toList, "ssh://git@github.com/".toList, "https://github.com/".toList,
   "http://github.com/".toList]

/-- The first two parts of the path, without slashes and a `.git` at its end; both are nonempty. -/
def slug? (address : Text) : Option Text := do
  let address := Text.trim address
  let rest ← addressStarts.findSome? fun start => Text.stripPrefix? address start
  let path := dropEndWhile (· == '/') rest
  let path := (Text.stripSuffix? path ".git").getD path
  match Text.splitOn '/' path with
  | owner :: name :: _ => if owner.isEmpty || name.isEmpty then none else some (owner ++ '/' :: name)
  | _ => none

end ModuleDocs.Remote
