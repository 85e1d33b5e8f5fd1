import ModuleDocs.Keyed
import ModuleDocs.Text.Utf8
import ModuleDocs.Tree.Path

/-! A tree of files below one base folder, as a list of places in the order of their parts. A place
is given by the names that lead to it. A folder need not be listed if something lies in it. -/
namespace ModuleDocs

inductive Entry where
  | file (content : Bytes)
  | link (target : Text)
  | folder
  deriving DecidableEq

structure Tree where
  base : Text
  entries : List (List Text × Entry)

namespace Tree

def put (t : Tree) (place : List Text) (e : Entry) : Tree :=
  { t with entries := Keyed.put place e t.entries }

def ofList (base : Text) (files : List (Text × Entry)) : Tree :=
  files.foldl (fun t f => t.put (Path.parts f.1) f.2) ⟨base, []⟩

def get? (t : Tree) (place : List Text) : Option Entry :=
  match t.entries.lookup place with
  | some e => some e
  | none =>
    if place.isEmpty || t.entries.any (fun e => place.isPrefixOf e.1) then some .folder else none

def maxLinks : Nat := 40

def linkStart? (t : Tree) (place : List Text) (target : Text) : Option (List Text × List Text) :=
  if Path.isAbsolute target then
    (Path.below? t.base target).map fun inner => ([], Path.parts inner)
  else some (place, Path.parts target)

/-- Walks down some names from a place. A link is handed over, with the place to go on from and the
names to follow there. Names that lead out of the base lead nowhere. -/
def walk? (t : Tree) (onLink : List Text → List Text → Option (List Text)) :
    List Text → List Text → Option (List Text)
  | place, [] => some place
  | place, name :: rest =>
    if name = ['.', '.'] then
      if place.isEmpty then none else walk? t onLink place.dropLast rest
    else
      let next := place ++ [name]
      match t.get? next with
      | none => none
      | some .folder => walk? t onLink next rest
      | some (.file _) => if rest.isEmpty then some next else none
      | some (.link target) =>
        (t.linkStart? place target).bind fun (start, names) => onLink start (names ++ rest)

def follow? (t : Tree) : Nat → List Text → List Text → Option (List Text)
  | 0 => t.walk? fun _ _ => none
  | links + 1 => t.walk? (follow? t links)

def asksFolder (path : Text) : Bool :=
  Text.endsWith path ['/'] || Text.endsWith path ['/', '.']

def place? (t : Tree) (path : Text) : Option (List Text) :=
  (Path.below? t.base path).bind fun inner =>
    (t.follow? maxLinks [] (Path.parts inner)).filter fun place =>
      !asksFolder path || t.get? place == some .folder

def folder? (t : Tree) (path : Text) : Option (List Text) :=
  (t.place? path).filter fun place => t.get? place == some .folder

def isFolder (t : Tree) (path : Text) : Bool := (t.folder? path).isSome

def bytes? (t : Tree) (path : Text) : Option Bytes :=
  (t.place? path).bind fun place =>
    match t.get? place with
    | some (.file content) => some content
    | _ => none

def text? (t : Tree) (path : Text) : Option Text := (t.bytes? path).bind Utf8.decode?

def makeFolder? (t : Tree) (folder name : Text) : Option Tree :=
  if t.isFolder (Path.join folder name) then some t
  else (t.folder? folder).bind fun place =>
    if (t.get? (place ++ [name])).isNone then some (t.put (place ++ [name]) .folder) else none

/-- Writes a file within a folder, through a link if one stands there; none if it cannot be one. -/
def writeFile? (t : Tree) (folder name : Text) (content : Bytes) : Option Tree :=
  (t.folder? folder).bind fun place =>
    match t.place? (Path.join folder name) with
    | some target =>
      if t.get? target = some .folder then none else some (t.put target (.file content))
    | none =>
      if (t.get? (place ++ [name])).isNone then some (t.put (place ++ [name]) (.file content))
      else none

def pathOf (t : Tree) (place : List Text) : Text :=
  if place.isEmpty then t.base else Path.join t.base (Path.ofParts place)

structure Leaf where
  names : List Text
  content : Bytes

def Leaf.name (l : Leaf) : Text := l.names.getLastD []

def leaves (t : Tree) (place : List Text) : List Leaf :=
  t.entries.filterMap fun (p, e) =>
    match e, place.isPrefixOf? p with
    | .file content, some (n :: ns) => some ⟨n :: ns, content⟩
    | _, _ => none

def filesIn (t : Tree) (place : List Text) : List Leaf :=
  (t.leaves place).filter fun l => l.names.length == 1

end Tree
end ModuleDocs
