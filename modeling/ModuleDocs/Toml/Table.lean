import ModuleDocs.Json.Basic

/-! Tables of TOML while a document is read. A table remembers how it came to be, because that
decides which later line may still add to it. -/
namespace ModuleDocs.Toml

/-- A table is stated by a header of its own, implied by the header of a table within it, or made
by a dotted key. -/
inductive Origin where
  | stated
  | implied
  | dotted
  deriving DecidableEq, Repr

inductive Node where
  | value (v : Json)
  | table (origin : Origin) (members : List (Text × Node))
  | tables (items : List (List (Text × Node)))

abbrev Members := List (Text × Node)

namespace Node

mutual

def toJson : Node → Json
  | .value v => v
  | .table _ members => .obj (membersJson members)
  | .tables items => .arr (itemsJson items)

def membersJson : List (Text × Node) → List (Text × Json)
  | [] => []
  | (k, n) :: rest => (k, toJson n) :: membersJson rest

def itemsJson : List (List (Text × Node)) → List Json
  | [] => []
  | t :: rest => .obj (membersJson t) :: itemsJson rest

end

end Node

/-- Changes the table at the end of a path. Tables that are missing on the way are made with the
origin `made`; a dotted key may not pass a stated table. -/
def update (made : Origin) (change : Origin → Members → Option Members) :
    List Text → Origin → Members → Option Members
  | [], origin, ms => change origin ms
  | k :: ks, _, ms =>
    match ms.lookup k with
    | none => (update made change ks made []).map fun t => Keyed.put k (.table made t) ms
    | some (.value _) => none
    | some (.table origin t) =>
      if made = .dotted ∧ origin = .stated then none
      else (update made change ks origin t).map fun t => Keyed.put k (.table origin t) ms
    | some (.tables items) => do
      let t ← update made change ks .stated (← items.getLast?)
      pure (Keyed.put k (.tables (items.dropLast ++ [t])) ms)

/-- Adds a value under a key that may be dotted. Its name must be new, and the table that takes it
must be one made by dotted keys exactly if the key is dotted. -/
def insertValue (path : List Text) (v : Json) (origin : Origin) (ms : Members) : Option Members :=
  match path.getLast? with
  | none => none
  | some k =>
    let init := path.dropLast
    update .dotted (fun origin ms =>
      if (origin == .dotted) == init.isEmpty || (ms.lookup k).isSome then none
      else some (Keyed.put k (.value v) ms)) init origin ms

def openTable (path : List Text) (root : Members) : Option Members :=
  match path.getLast? with
  | none => none
  | some k => update .implied (fun _ ms =>
      match ms.lookup k with
      | none => some (Keyed.put k (.table .stated []) ms)
      | some (.table .implied t) => some (Keyed.put k (.table .stated t) ms)
      | _ => none) path.dropLast .stated root

def openItem (path : List Text) (root : Members) : Option Members :=
  match path.getLast? with
  | none => none
  | some k => update .implied (fun _ ms =>
      match ms.lookup k with
      | none => some (Keyed.put k (.tables [[]]) ms)
      | some (.tables items) => some (Keyed.put k (.tables (items ++ [[]])) ms)
      | _ => none) path.dropLast .stated root

end ModuleDocs.Toml
