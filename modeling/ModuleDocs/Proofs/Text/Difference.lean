import Mathlib.Data.List.Forall2
import Mathlib.Order.Bounds.Basic
import Mathlib.Order.MinMax
import ModuleDocs.Proofs.Text.Returns
import ModuleDocs.Text.Difference

/-! What the number of changed lines counts. The table of lengths gives the length of a longest common
subsequence. As a line holds the newline behind it, the last line of a text is equal to none but the last
line of another text. Main statement: that takes out of what two texts can share every pair of lines of
which one is the last of its text and the other is not. -/
namespace ModuleDocs

def commonLengths {α : Type} (xs ys : List α) : Set Nat :=
  {n | ∃ zs : List α, zs.Sublist xs ∧ zs.Sublist ys ∧ zs.length = n}

def lastShared {α : Type} [DecidableEq α] (xs ys : List α) : Nat :=
  if xs ≠ [] ∧ xs.getLast? = ys.getLast? then 1 else 0

section

variable {α : Type} {xs ys : List α} {x y : α} {n : Nat}

theorem greatest_nil_left (ys : List α) : IsGreatest (commonLengths [] ys) 0 := by
  refine ⟨⟨[], List.nil_sublist _, List.nil_sublist _, rfl⟩, ?_⟩
  rintro _ ⟨zs, left, -, rfl⟩
  exact left.length_le

theorem greatest_nil_right (xs : List α) : IsGreatest (commonLengths xs []) 0 := by
  refine ⟨⟨[], List.nil_sublist _, List.nil_sublist _, rfl⟩, ?_⟩
  rintro _ ⟨zs, -, right, rfl⟩
  exact right.length_le

theorem greatest_cons_self (x : α) (h : IsGreatest (commonLengths xs ys) n) :
    IsGreatest (commonLengths (x :: xs) (x :: ys)) (n + 1) := by
  obtain ⟨⟨zs, left, right, rfl⟩, longest⟩ := h
  refine ⟨⟨x :: zs, left.cons_cons x, right.cons_cons x, rfl⟩, ?_⟩
  rintro _ ⟨us, left, right, rfl⟩
  -- whatever is taken first, what comes behind it is common to the lists without their heads
  have tails : us.tail.Sublist xs ∧ us.tail.Sublist ys := ⟨left.tail, right.tail⟩
  have bound := longest ⟨us.tail, tails.1, tails.2, rfl⟩
  rw [List.length_tail] at bound
  omega

theorem greatest_cons_ne {m : Nat} (other : x ≠ y)
    (left : IsGreatest (commonLengths xs (y :: ys)) m)
    (right : IsGreatest (commonLengths (x :: xs) ys) n) :
    IsGreatest (commonLengths (x :: xs) (y :: ys)) (max m n) := by
  constructor
  · rcases max_choice m n with first | second
    · obtain ⟨zs, inside, whole, rfl⟩ := left.1
      exact ⟨zs, inside.cons x, whole, first.symm⟩
    · obtain ⟨zs, whole, inside, rfl⟩ := right.1
      exact ⟨zs, whole, inside.cons y, second.symm⟩
  · rintro _ ⟨zs, here, there, rfl⟩
    rcases List.sublist_cons_iff.mp here with without | ⟨us, rfl, -⟩
    · exact le_max_of_le_left (left.2 ⟨zs, without, there, rfl⟩)
    · rcases List.sublist_cons_iff.mp there with without | ⟨vs, same, -⟩
      · exact le_max_of_le_right (right.2 ⟨_, here, without, rfl⟩)
      · exact absurd (List.cons.inj same).1 other

theorem commonLengths_reverse (xs ys : List α) :
    commonLengths xs.reverse ys.reverse = commonLengths xs ys := by
  have flip (us vs : List α) : commonLengths us vs ⊆ commonLengths us.reverse vs.reverse := by
    rintro _ ⟨zs, left, right, rfl⟩
    exact ⟨zs.reverse, left.reverse, right.reverse, List.length_reverse⟩
  refine Set.Subset.antisymm ?_ (flip xs ys)
  simpa using flip xs.reverse ys.reverse

theorem sublist_of_concat {zs : List α} (inside : zs.Sublist (xs ++ [x]))
    (absent : x ∉ zs) : zs.Sublist xs := by
  obtain ⟨us, vs, rfl, front, back⟩ := List.sublist_append_iff.mp inside
  rcases List.sublist_cons_iff.mp back with none | ⟨_, rfl, -⟩
  · rw [List.sublist_nil.mp none, List.append_nil]
    exact front
  · exact absurd (by simp) absent

end

theorem headD_row {β : Type} {R : List β → Nat → Prop} {ys : List β} {row : List Nat}
    (h : List.Forall₂ R ys.tails row) : R ys (row.headD 0) := by
  cases ys with
  | nil =>
    cases h with
    | cons first _ => exact first
  | cons y ys =>
    cases h with
    | cons first _ => exact first

section

variable {α : Type} [DecidableEq α]

theorem row_nextRow {x : α} {xs ys : List α} {row : List Nat}
    (h : List.Forall₂ (fun zs n => IsGreatest (commonLengths xs zs) n) ys.tails row) :
    List.Forall₂ (fun zs n => IsGreatest (commonLengths (x :: xs) zs) n) ys.tails
      (nextRow x ys row) := by
  induction ys generalizing row with
  | nil =>
    cases h with
    | cons _ _ => exact .cons (greatest_nil_right _) .nil
  | cons y ys ih =>
    cases h with
    | cons here below =>
      have rest := ih below
      refine .cons ?_ rest
      by_cases same : x = y
      case pos =>
        rw [if_pos same, ← same]
        exact greatest_cons_self x (headD_row below)
      case neg =>
        rw [if_neg same]
        exact greatest_cons_ne same here (headD_row rest)

theorem row_commonRow (xs ys : List α) :
    List.Forall₂ (fun zs n => IsGreatest (commonLengths xs zs) n) ys.tails (commonRow xs ys) := by
  induction xs with
  | nil =>
    change List.Forall₂ _ ys.tails (List.replicate (ys.length + 1) 0)
    induction ys with
    | nil => exact .cons (greatest_nil_left _) .nil
    | cons y ys ih => exact .cons (greatest_nil_left _) ih
  | cons x xs ih => exact row_nextRow ih

theorem greatest_commonLength (xs ys : List α) :
    IsGreatest (commonLengths xs ys) (commonLength xs ys) := headD_row (row_commonRow xs ys)

theorem commonLength_eq {xs ys : List α} {n : Nat} (h : IsGreatest (commonLengths xs ys) n) :
    commonLength xs ys = n := (greatest_commonLength xs ys).unique h

theorem commonLength_nil_left (ys : List α) : commonLength [] ys = 0 :=
  commonLength_eq (greatest_nil_left ys)

theorem commonLength_nil_right (xs : List α) : commonLength xs [] = 0 :=
  commonLength_eq (greatest_nil_right xs)

theorem commonLength_concat_self (xs ys : List α) (z : α) :
    commonLength (xs ++ [z]) (ys ++ [z]) = commonLength xs ys + 1 := by
  have inner := greatest_commonLength xs ys
  rw [← commonLengths_reverse] at inner
  apply commonLength_eq
  rw [← commonLengths_reverse, List.reverse_concat, List.reverse_concat]
  exact greatest_cons_self z inner

theorem commonLength_concat_ne {xs ys : List α} {x y : α} (other : x ≠ y) (left : x ∉ ys)
    (right : y ∉ xs) : commonLength (xs ++ [x]) (ys ++ [y]) = commonLength xs ys := by
  have same : commonLengths (xs ++ [x]) (ys ++ [y]) = commonLengths xs ys := by
    ext n
    constructor
    · rintro ⟨zs, here, there, rfl⟩
      have noX : x ∉ zs := fun mem => by simpa [other, left] using there.subset mem
      have noY : y ∉ zs := fun mem => by simpa [other.symm, right] using here.subset mem
      exact ⟨zs, sublist_of_concat here noX, sublist_of_concat there noY, rfl⟩
    · rintro ⟨zs, here, there, rfl⟩
      exact ⟨zs, here.trans (List.sublist_append_left _ _),
        there.trans (List.sublist_append_left _ _), rfl⟩
  apply commonLength_eq
  rw [same]
  exact greatest_commonLength xs ys

theorem commonLength_map {β : Type} [DecidableEq β] {f : α → β} (injective : Function.Injective f)
    (xs ys : List α) : commonLength (xs.map f) (ys.map f) = commonLength xs ys := by
  have same : commonLengths (xs.map f) (ys.map f) = commonLengths xs ys := by
    ext n
    constructor
    · rintro ⟨_, here, there, rfl⟩
      obtain ⟨us, left, rfl⟩ := List.sublist_map_iff.mp here
      obtain ⟨vs, right, same⟩ := List.sublist_map_iff.mp there
      rw [← List.map_injective_iff.mpr injective same] at right
      exact ⟨us, left, right, (List.length_map f).symm⟩
    · rintro ⟨zs, here, there, rfl⟩
      exact ⟨zs.map f, here.map f, there.map f, List.length_map f⟩
  apply commonLength_eq
  rw [same]
  exact greatest_commonLength xs ys

theorem commonLength_concat (xs : List α) (x : α) : commonLength xs (xs ++ [x]) = xs.length := by
  refine commonLength_eq ⟨⟨xs, List.Sublist.refl xs, List.sublist_append_left _ _, rfl⟩, ?_⟩
  rintro _ ⟨zs, left, -, rfl⟩
  exact left.length_le

end

namespace Text

theorem terminatedLines_append_newline {a : Text} (plain : '\n' ∉ a) (b : Text) :
    terminatedLines (a ++ '\n' :: b) = (a ++ ['\n']) :: terminatedLines b := by
  induction a with
  | nil => rfl
  | cons c rest ih =>
    rw [List.mem_cons, not_or] at plain
    rw [List.cons_append, terminatedLines, if_neg (Ne.symm plain.1), ih plain.2]
    rfl

theorem terminatedLines_of_notMem {a : Text} (plain : '\n' ∉ a) (nonempty : a ≠ []) :
    terminatedLines a = [a] := by
  induction a with
  | nil => contradiction
  | cons c rest ih =>
    rw [List.mem_cons, not_or] at plain
    rw [terminatedLines, if_neg (Ne.symm plain.1)]
    cases rest with
    | nil => rfl
    | cons d more => rw [ih plain.2 (List.cons_ne_nil d more)]

def terminated (ls : List Text) : List Text :=
  ls.dropLast.map (· ++ ['\n']) ++ ls.getLast?.toList

theorem length_terminated (ls : List Text) : (terminated ls).length = ls.length := by
  rcases List.eq_nil_or_concat' ls with rfl | ⟨init, last, rfl⟩
  · rfl
  · simp [terminated]

theorem terminatedLines_unlines {ls : List Text} (plain : ∀ l ∈ ls, '\n' ∉ l)
    (ended : ls.getLast? ≠ some []) : terminatedLines (unlines ls) = terminated ls := by
  rcases List.eq_nil_or_concat' ls with rfl | ⟨init, last, rfl⟩
  · rfl
  · rw [List.getLast?_concat, ne_eq, Option.some.injEq] at ended
    rw [List.forall_mem_append, List.forall_mem_singleton] at plain
    obtain ⟨plain, ends⟩ := plain
    rw [terminated, List.dropLast_concat, List.getLast?_concat, Option.toList_some]
    induction init with
    | nil =>
      rw [List.map_nil, List.nil_append, unlines_singleton]
      exact terminatedLines_of_notMem ends ended
    | cons l rest ih =>
      rw [List.forall_mem_cons] at plain
      rw [unlines_append_singleton_cons, terminatedLines_append_newline plain.1, ih plain.2]
      rfl

theorem commonLength_terminated {xs ys : List Text} (plain : ∀ l ∈ xs, '\n' ∉ l)
    (plain' : ∀ l ∈ ys, '\n' ∉ l) :
    commonLength (terminated xs) (terminated ys) =
      commonLength xs.dropLast ys.dropLast + lastShared xs ys := by
  rcases List.eq_nil_or_concat' xs with rfl | ⟨xs, x, rfl⟩
  · have apart : lastShared [] ys = 0 := by simp [lastShared]
    rw [apart, terminated, List.dropLast_nil, List.map_nil, List.getLast?_nil, Option.toList_none,
      List.append_nil, commonLength_nil_left, commonLength_nil_left]
  rcases List.eq_nil_or_concat' ys with rfl | ⟨ys, y, rfl⟩
  · have apart : lastShared (xs ++ [x]) [] = 0 := by simp [lastShared]
    rw [apart, terminated, terminated, List.dropLast_nil, List.map_nil, List.getLast?_nil,
      Option.toList_none, List.append_nil, commonLength_nil_right, commonLength_nil_right]
  have injective : Function.Injective fun l : Text => l ++ ['\n'] := fun l m same =>
    List.append_cancel_right same
  have inner := commonLength_map injective xs ys
  simp only [terminated, lastShared, List.dropLast_concat, List.getLast?_concat, Option.toList_some,
    Option.some.injEq]
  by_cases same : x = y
  case pos => rw [same, commonLength_concat_self, inner, if_pos ⟨by simp, rfl⟩]
  case neg =>
    -- a line with its newline is not the last line of the other text, which has none
    have alone {ls : List Text} {l : Text} (ends : '\n' ∉ l) : l ∉ ls.map (· ++ ['\n']) := by
      rw [List.mem_map]
      rintro ⟨m, -, rfl⟩
      simp at ends
    rw [commonLength_concat_ne same (alone (plain x (by simp))) (alone (plain' y (by simp))), inner,
      if_neg fun ended => same ended.2]
    rfl

theorem changedLines_unlines {xs ys : List Text} (plain : ∀ l ∈ xs, '\n' ∉ l)
    (plain' : ∀ l ∈ ys, '\n' ∉ l) (ended : xs.getLast? ≠ some []) (ended' : ys.getLast? ≠ some []) :
    changedLines (unlines xs) (unlines ys) =
      xs.length + ys.length - 2 * (commonLength xs.dropLast ys.dropLast + lastShared xs ys) := by
  rw [changedLines, changedCount, terminatedLines_unlines plain ended,
    terminatedLines_unlines plain' ended', length_terminated, length_terminated,
    commonLength_terminated plain plain']

end Text
end ModuleDocs
