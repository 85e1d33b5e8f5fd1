import ModuleDocs.Document.Choice
import ModuleDocs.Document.Item
import ModuleDocs.Markdown.Heading
import ModuleDocs.Tree.Basic

namespace ModuleDocs.Local
open Document

def pathIn? (t : Tree) (k : Kind) (folder : Text) : Option Text :=
  (t.folder? folder).bind fun place =>
    (chosen? k Tree.Leaf.name (t.filesIn place)).map fun l => Path.join folder l.name

/-- The best file of the root, then that of the secondary folder, unless it is the same path. -/
def paths (t : Tree) (k : Kind) (root : Text) (secondary : Option Text) : List Text :=
  let first := (pathIn? t k root).toList
  let second := (secondary.bind (pathIn? t k)).toList
  first ++ second.filter fun p => !first.any (Path.same p)

/-- A path as it is shown: below the root where it lies there, with plain slashes. -/
def shownPath (root path : Text) : Text :=
  ((Path.below? root path).getD path).map fun c => if c = '\\' then '/' else c

def fileName (path : Text) : Text := (Path.parts path).getLastD []

/-- The documents of a kind that have content. Files that are no text are passed over. -/
def candidatesOf (t : Tree) (root : Text) (secondary : Option Text) (k : Kind) : List Item :=
  ((paths t k root secondary).filterMap fun p => (t.text? p).map fun content =>
    Item.ofKind k content (fileName p) (shownPath root p) .localFile).filter Item.hasContent

def candidates (t : Tree) (root : Text) (secondary : Option Text) : Candidates :=
  .ofFound (candidatesOf t root secondary)

@[simp] theorem candidates_apply (t : Tree) (root : Text) (secondary : Option Text) (k : Kind) :
    candidates t root secondary k = candidatesOf t root secondary k :=
  Candidates.ofFound_apply _ k

/-- A document found in a folder. A supplemental document has the title of its text, any other
that of its file. -/
def folderItem (role : Role) (content name path : Text) (source : Source) : Item :=
  { title := if role = .supplementalDoc then Markdown.documentTitle name content else name
    role, content, fileName := name, path, source }

def isVisible (l : Tree.Leaf) : Bool := !l.names.any fun n => n.head? == some '.'

/-- Every file below a folder, by the order of the paths. -/
def itemsBelow (t : Tree) (root folder : Text) (role : Role) : List Item :=
  let path := Path.join root folder
  match t.folder? path with
  | none => []
  | some place =>
    (((t.leaves place).filter isVisible).filterMap fun l => (Utf8.decode? l.content).map fun content =>
      folderItem role content l.name (shownPath root (Path.join path (Path.ofParts l.names)))
        .localFile).filter Item.hasContent

def folderItems (t : Tree) (root : Text) (folders : List Text) (role : Role) : List Item :=
  folders.flatMap fun f => itemsBelow t root f role

end ModuleDocs.Local
