import ModuleDocs.Json.Token

namespace ModuleDocs.Json

inductive Frame where
  | arr (items : List Json)
  | obj (members : List (Text × Json)) (key : Text)

/-- What may come next. Only right after an opening bracket may the container also be closed. -/
inductive Machine where
  | value (stack : List Frame)
  | firstItem (stack : List Frame)
  | key (members : List (Text × Json)) (stack : List Frame)
  | firstKey (stack : List Frame)
  | colon (key : Text) (members : List (Text × Json)) (stack : List Frame)
  | after (top : Frame) (stack : List Frame)
  | done (result : Json)

def maxDepth : Nat := 127

abbrev Joining := Text → Json → List (Text × Json) → List (Text × Json)

def keepMember : Joining := fun name j members => members ++ [(name, j)]

namespace Machine

def complete (join : Joining) (j : Json) : List Frame → Machine
  | [] => done j
  | .arr items :: stack => after (.arr (items ++ [j])) stack
  | .obj members name :: stack => after (.obj (join name j members) name) stack

def opening (join : Joining) (stack : List Frame) : Token → Option Machine
  | .openArray => if stack.length < maxDepth then some (firstItem stack) else none
  | .openObject => if stack.length < maxDepth then some (firstKey stack) else none
  | .scalar j => some (complete join j stack)
  | _ => none

def step (join : Joining) : Machine → Token → Option Machine
  | value stack, t => opening join stack t
  | firstItem stack, .closeArray => some (complete join (.arr []) stack)
  | firstItem stack, t => opening join (.arr [] :: stack) t
  | firstKey stack, .closeObject => some (complete join (.obj []) stack)
  | firstKey stack, .scalar (.str k) => some (colon k [] stack)
  | key members stack, .scalar (.str k) => some (colon k members stack)
  | colon k members stack, .colon => some (value (.obj members k :: stack))
  | after (.arr items) stack, .comma => some (value (.arr items :: stack))
  | after (.arr items) stack, .closeArray => some (complete join (.arr items) stack)
  | after (.obj members _) stack, .comma => some (key members stack)
  | after (.obj members _) stack, .closeObject => some (complete join (.obj members) stack)
  | _, _ => none

end Machine

def parseWith? (join : Joining) (s : Text) : Option Json := do
  let ts ← tokens s
  match ← ts.foldlM (Machine.step join) (.value []) with
  | .done j => some j
  | _ => none

/-- The value that a whole text denotes, with its members in the order of their names. -/
def parse? (s : Text) : Option Json := parseWith? Keyed.put s

end ModuleDocs.Json
