import Mathlib.Data.List.Nodup
import Mathlib.Data.Set.Function
import ModuleDocs.Document.Item
import ModuleDocs.Proofs.Text.Lines
import ModuleDocs.Proofs.Text.Utf8

/-! When two documents count as copies. A normal form stands for the lines of a text, without white space
at their ends and without empty lines at the end of the text, and for nothing else. Main statement: two
texts have one normal form exactly if these lines are the same, and where the digest tells the normal
forms apart the keys of two documents say the same as their contents. -/
namespace ModuleDocs.Document
open Text

/-- The lines of a text. A carriage return ends a line, and a newline does, and the two in a row are one
end. What stands behind the last end is a line too. -/
def logicalLines : Text → List Text
  | [] => [[]]
  | '\r' :: '\n' :: rest => [] :: logicalLines rest
  | '\r' :: rest => [] :: logicalLines rest
  | '\n' :: rest => [] :: logicalLines rest
  | c :: rest =>
    match logicalLines rest with
    | [] => [[c]]
    | line :: more => (c :: line) :: more

/-- The lines without white space at their ends, up to the last one that is not empty then. -/
def settledLines (s : Text) : List Text :=
  dropEndWhile List.isEmpty ((logicalLines s).map trimEnd)

theorem logicalLines_eq (s : Text) : logicalLines s = splitOn '\n' (unifyNewlines s) := by
  fun_induction unifyNewlines s with
  | case1 => rfl
  | case2 rest ih => rw [logicalLines, ih, splitOn_cons_self]
  | case3 rest single ih =>
    rw [logicalLines, ih, splitOn_cons_self]
    exact single
  | case4 c rest pair single ih =>
    by_cases newline : c = '\n'
    case pos => rw [newline, logicalLines, ih, splitOn_cons_self]
    case neg =>
      have other : c ≠ '\r' := fun same => single same
      obtain ⟨line, more, first, whole⟩ := splitOn_cons_of_ne newline (unifyNewlines rest)
      rw [logicalLines, ih, first, whole]
      · exact pair
      · exact other
      · exact newline

theorem logicalLines_of_notMem {s : Text} (returns : '\r' ∉ s) :
    logicalLines s = splitOn '\n' s := by
  have same : unifyNewlines s = s := by
    fun_induction unifyNewlines s with
    | case1 => rfl
    | case2 rest ih => simp at returns
    | case3 rest single ih => simp at returns
    | case4 c rest pair single ih =>
      rw [ih fun mem => returns (List.mem_cons_of_mem c mem)]
  rw [logicalLines_eq, same]

theorem unbroken_of_mem_logicalLines {s l : Text} (mem : l ∈ logicalLines s) :
    '\r' ∉ l ∧ '\n' ∉ l := by
  fun_induction logicalLines s generalizing l with
  | case1 => simp [List.mem_singleton.mp mem]
  | case2 rest ih | case3 rest _ ih | case4 rest ih =>
    rcases List.mem_cons.mp mem with rfl | mem
    · simp
    · exact ih mem
  | case5 c rest _ return_ newline none =>
    obtain rfl := List.mem_singleton.mp mem
    simp [Ne.symm return_, Ne.symm newline]
  | case6 c rest _ return_ newline line more lines ih =>
    rw [lines] at ih
    rcases List.mem_cons.mp mem with rfl | mem
    · have tail := ih List.mem_cons_self
      simp [Ne.symm return_, Ne.symm newline, tail]
    · exact ih (List.mem_cons_of_mem line mem)

theorem isBlank_iff_logicalLines (s : Text) :
    isBlank s = true ↔ ∀ l ∈ logicalLines s, isBlank l = true := by
  have returned (rest : Text) : isBlank ('\r' :: rest) = isBlank rest := rfl
  have ended (rest : Text) : isBlank ('\n' :: rest) = isBlank rest := rfl
  have empty : isBlank [] = true := rfl
  fun_induction logicalLines s with
  | case1 => simp [empty]
  | case2 rest ih => simpa [returned, ended, empty] using ih
  | case3 rest _ ih => simpa [returned, empty] using ih
  | case4 rest ih => simpa [ended, empty] using ih
  | case5 c rest _ _ _ none ih =>
    rw [none] at ih
    simp [isBlank_cons, ih, empty]
  | case6 c rest _ _ _ line more lines ih =>
    rw [lines] at ih
    simp [isBlank_cons, ih, and_assoc]

theorem exists_splitOn_newline (s : Text) : ∃ gap : List Text,
    (splitOn '\n' s).map trimEnd = s.lines.map trimEnd ++ gap ∧ ∀ l ∈ gap, l.isEmpty = true := by
  induction s using lineInduction with
  | last a plain =>
    rw [splitOn_eq_singleton plain]
    by_cases empty : a = []
    case pos => exact ⟨[[]], by simp [empty, lines, trimEnd, dropEndWhile], by simp⟩
    case neg => exact ⟨[], by simp [lines_of_notMem plain empty], by simp⟩
  | more a b plain ih =>
    obtain ⟨gap, split, none⟩ := ih
    refine ⟨gap, ?_, none⟩
    have same : trimEnd (endedLine a) = trimEnd a :=
      read_endedLine (fun l => trimEnd_append (by decide) l) a
    simp [splitOn_append_cons, splitOn_eq_singleton plain, lines_append_newline plain, split, same]

theorem normalize_eq (s : Text) : normalize s = unlines (settledLines s) := by
  obtain ⟨gap, split, none⟩ := exists_splitOn_newline (unifyNewlines s)
  rw [normalize, settledLines, logicalLines_eq, split, dropEndWhile_append none]

structure Settled (ls : List Text) : Prop where
  unbroken : ∀ l ∈ ls, '\r' ∉ l ∧ '\n' ∉ l
  trimmed : ∀ l ∈ ls, trimEnd l = l
  ended : dropEndWhile List.isEmpty ls = ls

theorem settled_settledLines (s : Text) : Settled (settledLines s) := by
  have lines : ∀ l ∈ settledLines s, ∃ m ∈ logicalLines s, trimEnd m = l := fun l mem =>
    List.mem_map.mp ((List.rdropWhile_prefix _ _).subset mem)
  refine ⟨fun l mem => ?_, fun l mem => ?_, List.rdropWhile_idempotent _ _⟩
  · obtain ⟨m, given, rfl⟩ := lines l mem
    have unbroken := unbroken_of_mem_logicalLines given
    have within : ∀ c ∈ trimEnd m, c ∈ m := fun c mem => (isPrefix_trimEnd m).subset mem
    exact ⟨fun inside => unbroken.1 (within _ inside), fun inside => unbroken.2 (within _ inside)⟩
  · obtain ⟨m, -, rfl⟩ := lines l mem
    exact trimEnd_trimEnd m

theorem Settled.settledLines_unlines {ls : List Text} (h : Settled ls) :
    settledLines (unlines ls) = ls := by
  by_cases none : ls = []
  case pos => rw [none]; rfl
  case neg =>
    have returns : '\r' ∉ unlines ls :=
      notMem_unlines (by decide) fun l mem => (h.unbroken l mem).1
    have trimmed : ls.map trimEnd = ls := (List.map_congr_left h.trimmed).trans (List.map_id' ls)
    rw [settledLines, logicalLines_of_notMem returns,
      splitOn_unlines (fun l mem => (h.unbroken l mem).2) none, trimmed, h.ended]

theorem settledLines_normalize (s : Text) : settledLines (normalize s) = settledLines s := by
  rw [normalize_eq, (settled_settledLines s).settledLines_unlines]

theorem settledLines_eq_nil_iff (s : Text) : settledLines s = [] ↔ isBlank s = true := by
  rw [isBlank_iff_logicalLines, settledLines, dropEndWhile_eq_rdropWhile, List.rdropWhile_eq_nil_iff]
  simp [trimEnd_eq_nil_iff]

theorem normalize_eq_nil_iff (s : Text) : normalize s = [] ↔ isBlank s = true := by
  rw [← settledLines_eq_nil_iff]
  constructor
  · intro empty
    rw [← settledLines_normalize, empty]
    rfl
  · intro none
    rw [normalize_eq, none]
    rfl

/-- The digest tells the given byte strings apart. No digest of a fixed length can do so for all byte
strings. -/
def CollisionFree (messages : Set Bytes) : Prop := Set.InjOn Sha256.digest messages

theorem collisionFree_of_nodup {texts : List Text}
    (distinct : (texts.map fun s => Sha256.digest (Utf8.encode s)).Nodup) :
    CollisionFree (Utf8.encode '' {s | s ∈ texts}) := by
  rintro _ ⟨s, here, rfl⟩ _ ⟨t, there, rfl⟩ same
  rw [List.inj_on_of_nodup_map distinct here there same]

theorem hexLower_injective {m n : Nat} (small : m < 16) (small' : n < 16)
    (same : hexLower m = hexLower n) : m = n := by
  have read := hexDigit_hexLower m small
  rw [same, hexDigit_hexLower n small', Option.some.injEq] at read
  exact read.symm

theorem flatMap_hexLower_injective : Function.Injective fun bytes : Bytes =>
    bytes.flatMap fun b => [hexLower (b.toNat / 16), hexLower (b.toNat % 16)] := by
  intro xs ys same
  induction xs generalizing ys with
  | nil => cases ys <;> simp_all
  | cons x xs ih =>
    cases ys with
    | nil => simp at same
    | cons y ys =>
      simp only [List.flatMap_cons, List.cons_append, List.nil_append, List.cons.injEq] at same
      obtain ⟨high, low, rest⟩ := same
      have bound := x.toNat_lt
      have bound' := y.toNat_lt
      have high := hexLower_injective (by omega) (by omega) high
      have low := hexLower_injective (by omega) (by omega) low
      rw [ih rest, UInt8.toNat_inj.mp (by omega : x.toNat = y.toNat)]

theorem hexOf_injOn {texts : Set Text} (free : CollisionFree (Utf8.encode '' texts)) :
    Set.InjOn Sha256.hexOf texts := by
  intro s here t there same
  have digests := flatMap_hexLower_injective same
  exact Utf8.encode_injective (free ⟨s, here, rfl⟩ ⟨t, there, rfl⟩ digests)

/-- A normal form says what the settled lines of a text are and nothing else, and it is its own normal form.
It is empty for an item without visible text only. Where the digest tells the normal forms at hand apart,
the keys within a source and the comparison between sources are one relation. -/
theorem normalize_exact :
    (∀ a b, normalize a = normalize b ↔ settledLines a = settledLines b) ∧
    (∀ s, normalize (normalize s) = normalize s) ∧
    (∀ i : Item, i.hasContent = true ↔ i.normalized ≠ []) ∧
    ∀ texts : Set Text, CollisionFree (Utf8.encode '' texts) →
      ∀ i j : Item, i.normalized ∈ texts → j.normalized ∈ texts →
        (i.contentKey = j.contentKey ↔ i.sameContent j = true) := by
  refine ⟨fun a b => ⟨fun same => ?_, fun same => ?_⟩, fun s => ?_, fun i => ?_,
    fun texts free i j here there => ?_⟩
  · rw [← settledLines_normalize a, same, settledLines_normalize]
  · rw [normalize_eq, same, ← normalize_eq]
  · rw [normalize_eq, settledLines_normalize, ← normalize_eq]
  · rw [Item.normalized, ne_eq, normalize_eq_nil_iff, Item.hasContent]
    simp
  · rw [Item.sameContent, beq_iff_eq]
    exact (hexOf_injOn free).eq_iff here there

theorem normalize_exact_line_ends :
    let texts : List Text := ["a\n\nb".toList, "c".toList]
    let item (content : Text) := Item.ofKind .readme content "README.md" "README.md" .localFile
    CollisionFree (Utf8.encode '' {s | s ∈ texts}) ∧
    settledLines "a \r\r\nb" = settledLines "a\n\t\nb\n\r\n" ∧
    (item "a \r\r\nb").contentKey = (item "a\n\t\nb\n\r\n").contentKey ∧
    (item "a \r\r\nb").contentKey ≠ (item "c").contentKey := by
  intro texts item
  have free : CollisionFree (Utf8.encode '' {s | s ∈ texts}) :=
    collisionFree_of_nodup (by decide +kernel)
  have first : (item "a \r\r\nb").normalized ∈ texts := by decide
  have second : (item "a\n\t\nb\n\r\n").normalized ∈ texts := by decide
  have third : (item "c").normalized ∈ texts := by decide
  have keys := normalize_exact.2.2.2 {s | s ∈ texts} free
  refine ⟨free, by decide, ?_, ?_⟩
  · exact (keys _ _ first second).mpr (by decide)
  · rw [ne_eq, keys _ _ first third]
    decide

end ModuleDocs.Document
