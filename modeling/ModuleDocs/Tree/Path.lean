import ModuleDocs.Text.Basic

/-! Paths as texts. Two paths name the same place by their parts: separators in a row and parts
that are a single point do not count. -/
namespace ModuleDocs.Path

/-- A path read from another one; an absolute path stands for itself. -/
def join (folder path : Text) : Text :=
  match path with
  | '/' :: _ => path
  | _ =>
    if folder.isEmpty then path
    else if folder.getLast? = some '/' then folder ++ path
    else folder ++ '/' :: path

def parts (path : Text) : List Text :=
  (Text.splitOn '/' path).filter fun part => !part.isEmpty && part != ['.']

def ofParts (ps : List Text) : Text := List.intercalate ['/'] ps

def isAbsolute (path : Text) : Bool := path.head? == some '/'

def same (a b : Text) : Bool := isAbsolute a == isAbsolute b && parts a == parts b

def trimFront : Nat → Text → Text
  | 0, s => s
  | fuel + 1, s =>
    match s with
    | '/' :: rest => trimFront fuel rest
    | ['.'] => []
    | '.' :: '/' :: rest => trimFront fuel rest
    | _ => s

def afterPart (path : Text) : Text :=
  let front := trimFront path.length path
  trimFront front.length (front.dropWhile (· != '/'))

/-- The path below a folder, as it is written; none if it does not begin with the folder's parts. -/
def below? (folder path : Text) : Option Text :=
  if isAbsolute folder = isAbsolute path ∧ (parts folder).isPrefixOf (parts path) then
    some ((parts folder).foldl (fun p _ => afterPart p) (trimFront path.length path))
  else none

end ModuleDocs.Path
