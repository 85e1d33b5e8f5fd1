import ModuleDocs.Text.Basic
import ModuleDocs.Text.Letter
import ModuleDocs.Text.WordChar

namespace ModuleDocs

def codesIn (ranges : List (Nat × Nat)) : List Nat :=
  ranges.flatMap fun (first, last) => List.range' first (last + 1 - first)

theorem mem_codesIn {ranges : List (Nat × Nat)} {n : Nat} (inside : inRanges ranges n = true) :
    n ∈ codesIn ranges := by
  induction ranges with
  | nil => contradiction
  | cons range rest ih =>
    obtain ⟨first, last⟩ := range
    rw [inRanges, Bool.and_eq_true, Bool.or_eq_true, decide_eq_true_eq, decide_eq_true_eq] at inside
    rw [codesIn, List.flatMap_cons, List.mem_append, List.mem_range'_1]
    obtain ⟨above, below | later⟩ := inside
    · exact .inl ⟨above, by omega⟩
    · exact .inr (ih later)

theorem forall_isWhite (p : Char → Prop) (each : ∀ n ∈ codesIn whiteRanges, p (Char.ofNat n))
    {c : Char} (white : isWhite c = true) : p c := by
  have here := each c.toNat (mem_codesIn white)
  rwa [Char.ofNat_toNat] at here

theorem isAlphabetic_of_isWhite {c : Char} (white : isWhite c = true) : isAlphabetic c = false :=
  forall_isWhite (isAlphabetic · = false) (by decide +kernel) white

theorem isAlphanumeric_of_isWhite {c : Char} (white : isWhite c = true) : isAlphanumeric c = false :=
  forall_isWhite (isAlphanumeric · = false) (by decide +kernel) white

theorem isWordChar_of_isWhite {c : Char} (white : isWhite c = true) : isWordChar c = false :=
  forall_isWhite (isWordChar · = false) (by decide +kernel) white

end ModuleDocs
