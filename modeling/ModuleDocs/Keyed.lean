namespace ModuleDocs.Keyed

variable {κ α : Type} [DecidableEq κ] [LT κ] [DecidableLT κ]

def put (key : κ) (value : α) : List (κ × α) → List (κ × α)
  | [] => [(key, value)]
  | (k, v) :: rest =>
    if key = k then (key, value) :: rest
    else if key < k then (key, value) :: (k, v) :: rest
    else (k, v) :: put key value rest

/-- The values in the order of their keys; of values with one key the last counts. -/
def ofList (entries : List (κ × α)) : List (κ × α) :=
  entries.foldl (fun found e => put e.1 e.2 found) []

end ModuleDocs.Keyed
