import Mathlib.Data.List.Forall2
import ModuleDocs.Proofs.Help.Repeats
import ModuleDocs.Proofs.Help.Sources

/-! Usage forms and the catalogue of parameters. A form shows the parameters of its item, each completed
from the first entry of its name. Main statement: a field that the item says is shown as the item says
it, every other one as the entry does, so that nothing is left to complete. -/
namespace ModuleDocs.Help
open Text HelpObject

/-- What is there is shown, and where nothing is the other is. -/
def Filled {α : Type} (nothing own other shown : α) : Prop :=
  (own ≠ nothing → shown = own) ∧ (own = nothing → shown = other)

theorem Filled.again {α : Type} {nothing own other shown after : α}
    (first : Filled nothing own other shown) (second : Filled nothing shown other after) :
    after = shown := by
  by_cases said : shown = nothing
  case neg => exact second.1 said
  case pos =>
    -- what is still not there was there neither before nor in the entry
    have unsaid : own = nothing := by
      by_contra mine
      exact mine ((first.1 mine).symm.trans said)
    exact (second.2 said).trans (first.2 unsaid).symm

end ModuleDocs.Help
