import ModuleDocs.Decimal.Shortest
import ModuleDocs.Keyed
import ModuleDocs.Text.Basic

/-! JSON values. Reading puts the members of an object in the order of their names, each name once,
so two objects with the same members read as the same value; writing keeps the order given. -/
namespace ModuleDocs

/-- An integer of 64 bits, signed or not, or the shortest decimal of a floating-point number. -/
inductive Number where
  | int (value : Int)
  | real (value : Decimal)
  deriving DecidableEq, Repr

inductive Json where
  | null
  | bool (value : Bool)
  | num (value : Number)
  | str (value : Text)
  | arr (items : List Json)
  | obj (members : List (Text × Json))
  deriving Repr

instance : Inhabited Json := ⟨.null⟩

namespace Json

/-- The object of some members; of members with one name the last counts. -/
def ofMembers (members : List (Text × Json)) : Json := .obj (Keyed.ofList members)

def member? (j : Json) (key : Text) : Option Json :=
  match j with
  | .obj members => members.lookup key
  | _ => none

def ofOption {α : Type} (f : α → Json) : Option α → Json
  | none => .null
  | some a => f a

def ofTexts (ts : List Text) : Json := .arr (ts.map .str)

end Json
end ModuleDocs
