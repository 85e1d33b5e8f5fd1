import ModuleDocs.Json.Basic

/-! Records as JSON. A record is written as an object with its fields in order. It is read from an
object, whose further members do not matter, or from a list with the fields by position. -/
namespace ModuleDocs.Json

def record (fields : List (String × Json)) : Json := .obj (fields.map fun f => (f.1, f.2))

def asText? : Json → Option Text
  | .str s => some s
  | _ => none

def asBool? : Json → Option Bool
  | .bool b => some b
  | _ => none

def asItems? : Json → Option (List Json)
  | .arr items => some items
  | _ => none

def asNat? : Json → Option Nat
  | .num (.int n) => if 0 ≤ n ∧ n < 18446744073709551616 then some n.toNat else none
  | _ => none

def asList? {α : Type} (read : Json → Option α) (j : Json) : Option (List α) :=
  (asItems? j).bind fun items => items.mapM read

def asOption? {α : Type} (read : Json → Option α) : Json → Option (Option α)
  | .null => some none
  | j => (read j).map some

/-- One of a set of names. An object with the name as its only member and nothing in it will do. -/
def asName? {α : Type} (ofName? : Text → Option α) : Json → Option α
  | .str s => ofName? s
  | .obj [(k, .null)] => ofName? k
  | _ => none

/-- The members of a record with the given fields, of which a list may leave out the ones behind
position `least`. -/
def members? (fields : List String) (least : Nat) : Json → Option (List (Text × Json))
  | .obj members => some members
  | .arr items =>
    if least ≤ items.length ∧ items.length ≤ fields.length then
      some ((fields.map String.toList).zip items)
    else none
  | _ => none

def field? {α : Type} (members : List (Text × Json)) (name : String) (read : Json → Option α) :
    Option α :=
  (members.lookup name.toList).bind read

def fieldOr? {α : Type} (members : List (Text × Json)) (name : String) (absent : α)
    (read : Json → Option α) : Option α :=
  match members.lookup name.toList with
  | some j => read j
  | none => some absent

def optional? {α : Type} (members : List (Text × Json)) (name : String) (read : Json → Option α) :
    Option (Option α) :=
  fieldOr? members name none (asOption? read)

end ModuleDocs.Json
