import ModuleDocs.Text.Basic

namespace ModuleDocs

/-- From the lengths of the longest common subsequences of a list with every suffix of `ys`, the lengths
for the list with one more element in front. -/
def nextRow {α : Type} [DecidableEq α] (x : α) : List α → List Nat → List Nat
  | y :: ys, here :: below =>
    let rest := nextRow x ys below
    (if x = y then below.headD 0 + 1 else max here (rest.headD 0)) :: rest
  | _, _ => [0]

/-- The lengths of the longest common subsequences of `xs` with every suffix of `ys`, the longest
suffix first. -/
def commonRow {α : Type} [DecidableEq α] (xs ys : List α) : List Nat :=
  xs.foldr (fun x row => nextRow x ys row) (List.replicate (ys.length + 1) 0)

def commonLength {α : Type} [DecidableEq α] (xs ys : List α) : Nat := (commonRow xs ys).headD 0

def changedCount {α : Type} [DecidableEq α] (xs ys : List α) : Nat :=
  xs.length + ys.length - 2 * commonLength xs ys

namespace Text

def terminatedLines : Text → List Text
  | [] => []
  | c :: rest =>
    if c = '\n' then [c] :: terminatedLines rest
    else match terminatedLines rest with
      | [] => [[c]]
      | line :: more => (c :: line) :: more

def changedLines (a b : Text) : Nat := changedCount (terminatedLines a) (terminatedLines b)

end Text
end ModuleDocs
