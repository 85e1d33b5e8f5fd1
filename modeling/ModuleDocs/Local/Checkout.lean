import ModuleDocs.Local.GitConfig
import ModuleDocs.Text.Quoted
import ModuleDocs.Tree.Basic

namespace ModuleDocs.Local

structure Checkout where
  worktree : Option (List Text)
  settings : GitConfig.Variables

def isRepository (t : Tree) (folder : Text) : Bool :=
  t.isFolder folder && (t.bytes? (Path.join folder "HEAD".toList)).isSome &&
    t.isFolder (Path.join folder "objects".toList) && t.isFolder (Path.join folder "refs".toList)

/-- The working tree of a repository that is not bare: the place that its configuration names, from
the folder of the repository on, else the folder around it. -/
def worktree? (t : Tree) (folder : Text) (around : Option (List Text)) (vs : GitConfig.Variables) :
    Option (Option (List Text)) :=
  match (GitConfig.last? vs "core.worktree").bind id with
  | some named => ((GitConfig.text? named).filter (!·.isEmpty)).bind fun path =>
      (t.place? (Path.join folder path)).map some
  | none => some around

/-- The checkout of a repository, given the folder around it. Its configuration has to be readable,
and what it says has to be understood. -/
def openCheckout? (t : Tree) (folder : Text) (around : Option (List Text)) : Option Checkout := do
  let vs ← GitConfig.parse? ((t.bytes? (Path.join folder "config".toList)).getD [])
  guard (GitConfig.isUnderstood vs)
  let bare ← GitConfig.bare? vs
  pure ⟨← if bare then some none else worktree? t folder around vs, vs⟩

def checkoutFrom? (t : Tree) : Nat → List Text → Option Checkout
  -- The fuel is the number of folders above the place.
  | fuel, place =>
    let here := t.pathOf place
    let inner := Path.join here ".git".toList
    if isRepository t inner then openCheckout? t inner (some place)
    else if isRepository t here then
      openCheckout? t here (if place.isEmpty then none else some place.dropLast)
    else match fuel with
      | 0 => none
      | fuel + 1 => checkoutFrom? t fuel place.dropLast

def checkout? (t : Tree) (path : Text) : Option Checkout :=
  (t.place? path).bind fun place => checkoutFrom? t place.length place

def origin? (t : Tree) (path : Text) : Option Text :=
  (checkout? t path).bind fun c => GitConfig.origin? c.settings

/-- The root of the project around a path: its working tree, written with a separator at the end,
else the path itself without links. None if the path leads nowhere. -/
def projectRoot? (t : Tree) (path : Text) : Option Text :=
  (t.place? path).map fun place =>
    match (checkout? t path).bind Checkout.worktree with
    | some worktree => t.pathOf worktree ++ ['/']
    | none => t.pathOf place

def unresolved (path : Text) : Text :=
  "Failed to resolve project path ".toList ++ Text.quoted path

end ModuleDocs.Local
