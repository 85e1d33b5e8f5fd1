import ModuleDocs.Document.Kind

/-! The choice among the files of one folder: of the names that match a kind the shortest one
counts, and of equally short ones the first in the order of code points. -/
namespace ModuleDocs.Document

/-- Shorter in UTF-8, or as long and earlier. -/
def precedes (a b : Text) : Bool :=
  Text.byteLength a < Text.byteLength b ||
    (Text.byteLength a == Text.byteLength b && decide (a < b))

def least? {α : Type} (name : α → Text) : List α → Option α
  | [] => none
  | x :: xs =>
    match least? name xs with
    | none => some x
    | some y => some (if precedes (name y) (name x) then y else x)

def chosen? {α : Type} (k : Kind) (name : α → Text) (xs : List α) : Option α :=
  least? name (xs.filter fun x => k.matchesName (name x))

end ModuleDocs.Document
