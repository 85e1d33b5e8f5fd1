import ModuleDocs.Document.Kind
import ModuleDocs.Hash.Sha256

/-! Documents that were found, and the comparison of their contents. Two copies count as the same if
they differ only in line endings, white space at line ends and blank lines at the end. -/
namespace ModuleDocs.Document
open Text

inductive Role where
  | standard
  | script
  | supplementalDoc
  | file
  deriving DecidableEq, Repr

namespace Role

def all : List Role := [standard, script, supplementalDoc, file]

def name : Role → Text
  | standard => "Standard"
  | script => "Script"
  | supplementalDoc => "SupplementalDoc"
  | file => "File"

def ofName? (name : Text) : Option Role := all.find? (fun r => r.name == name)

end Role

inductive Source where
  | localFile
  | remote
  deriving DecidableEq, Repr

namespace Source

def word : Source → Text
  | localFile => "local"
  | remote => "remote"

def name : Source → Text
  | localFile => "Local"
  | remote => "Remote"

def ofName? (name : Text) : Option Source := [localFile, remote].find? (fun s => s.name == name)

end Source

structure Item where
  title : Text
  role : Role
  content : Text
  fileName : Text
  path : Text
  source : Source
  /-- The kind of a standard document; other items have none. -/
  kind : Option Kind := none
  deriving DecidableEq, Repr

def unifyNewlines : Text → Text
  | [] => []
  | '\r' :: '\n' :: rest => '\n' :: unifyNewlines rest
  | '\r' :: rest => '\n' :: unifyNewlines rest
  | c :: rest => c :: unifyNewlines rest

/-- Line endings unified, white space at line ends and empty lines at the end removed. -/
def normalize (s : Text) : Text :=
  unlines (dropEndWhile List.isEmpty ((unifyNewlines s).lines.map trimEnd))

namespace Item

def ofKind (k : Kind) (content fileName path : Text) (source : Source) : Item :=
  { title := k.title, role := .standard, content, fileName, path, source, kind := some k }

/-- Items without visible text are never shown. -/
def hasContent (i : Item) : Bool := !isBlank i.content

def normalized (i : Item) : Text := normalize i.content

def contentKey (i : Item) : Text := Sha256.hexOf i.normalized

def sameContent (i j : Item) : Bool := i.normalized == j.normalized

end Item

/-- What was found by kind, the preferred one first. Not every kind has an entry. -/
structure Candidates where
  entry? : Kind → Option (List Item) := fun _ => none

namespace Candidates

def of (c : Candidates) (k : Kind) : List Item := (c.entry? k).getD []

instance : CoeFun Candidates fun _ => Kind → List Item := ⟨of⟩

theorem mem_of {c : Candidates} {k : Kind} {i : Item} :
    i ∈ c k ↔ ∃ items, c.entry? k = some items ∧ i ∈ items := by
  unfold of
  cases c.entry? k <;> simp

/-- An entry for each kind for which something was found. -/
def ofFound (found : Kind → List Item) : Candidates where
  entry? k := if (found k).isEmpty then none else some (found k)

@[simp] theorem ofFound_apply (found : Kind → List Item) (k : Kind) : ofFound found k = found k := by
  change (if (found k).isEmpty then none else some (found k)).getD [] = found k
  split
  case isTrue empty => exact (List.isEmpty_iff.mp empty).symm
  case isFalse => rfl

end Candidates

end ModuleDocs.Document
