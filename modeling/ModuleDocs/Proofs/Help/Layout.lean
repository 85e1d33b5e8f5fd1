import Mathlib.Data.List.Forall2
import Mathlib.Order.Bounds.Basic
import ModuleDocs.Help.Layout
import ModuleDocs.Proofs.Text.Edges
import ModuleDocs.Proofs.Text.Utf8

namespace ModuleDocs.Help
open Text

theorem collapse_sublist (gap : Bool) (ls : List Text) : (collapse gap ls).Sublist ls := by
  fun_induction collapse gap ls with
  | case1 => exact .slnil
  | case2 l rest _ ih => exact .cons l ih
  | case3 gap l rest _ _ ih => exact .cons_cons l ih
  | case4 gap l rest _ ih => exact .cons_cons l ih

theorem collapse_append_empty (ls : List Text) {gap : List Text} (empty : ∀ l ∈ gap, l = [])
    (before : Bool) :
    ∃ rest, collapse before (ls ++ gap) = collapse before ls ++ rest ∧ ∀ l ∈ rest, l = [] := by
  fun_induction collapse before ls with
  | case1 before =>
    exact ⟨collapse before gap, rfl, fun l mem => empty l ((collapse_sublist before gap).subset mem)⟩
  | case2 l rest blank ih =>
    rw [List.cons_append, collapse, if_pos blank, if_pos rfl]
    exact ih
  | case3 before l rest blank first ih =>
    obtain ⟨more, split, each⟩ := ih
    rw [List.cons_append, collapse, if_pos blank, if_neg first, split]
    exact ⟨more, rfl, each⟩
  | case4 before l rest text ih =>
    obtain ⟨more, split, each⟩ := ih
    rw [List.cons_append, collapse, if_neg text, split]
    exact ⟨more, rfl, each⟩

theorem eq_nil_of_mem_blank {gap : List Text} (blank : ∀ l ∈ gap, isBlank l = true) {l : Text}
    (mem : l ∈ gap.map trim) : l = [] := by
  obtain ⟨k, there, rfl⟩ := List.mem_map.mp mem
  exact trim_eq_nil_iff.mpr (blank k there)

theorem paragraphOf_append_blank (ls : List Text) {gap : List Text}
    (blank : ∀ l ∈ gap, isBlank l = true) : paragraphOf (ls ++ gap) = paragraphOf ls := by
  have empty : ∀ l ∈ gap.map trim, l = [] := fun l mem => eq_nil_of_mem_blank blank mem
  obtain ⟨rest, split, each⟩ := collapse_append_empty (ls.map trim) empty true
  rw [paragraphOf, List.map_append, split, dropEndWhile_append, paragraphOf]
  exact fun l mem => List.isEmpty_iff.mpr (each l mem)

def spaces (n : Nat) : Text := List.replicate n ' '

theorem isBlank_spaces (n : Nat) : isBlank (spaces n) = true :=
  isBlank_iff.mpr fun _ mem => List.eq_of_mem_replicate mem ▸ rfl

theorem byteLength_spaces (n : Nat) : byteLength (spaces n) = n := by
  have single : ∀ c ∈ spaces n, c.utf8Size = 1 := fun c mem => List.eq_of_mem_replicate mem ▸ rfl
  rw [byteLength_of_single single, spaces, List.length_replicate]

theorem eq_nil_of_byteLength {s : Text} (empty : byteLength s = 0) : s = [] := by
  cases s with
  | nil => rfl
  | cons c rest =>
    rw [byteLength_cons] at empty
    have positive := c.utf8Size_pos
    omega

theorem dropBytes_cons {n : Nat} {c : Char} (fits : c.utf8Size ≤ n) (s : Text) :
    dropBytes n (c :: s) = dropBytes (n - c.utf8Size) s := by
  rw [dropBytes, if_pos fits]
  rintro rfl
  have positive := c.utf8Size_pos
  omega

theorem dropBytes_append (w s : Text) (n : Nat) :
    dropBytes (byteLength w + n) (w ++ s) = dropBytes n s := by
  induction w with
  | nil =>
    rw [List.nil_append]
    exact congrArg (dropBytes · s) (Nat.zero_add n)
  | cons c rest ih =>
    rw [byteLength_cons, List.cons_append, dropBytes_cons (by omega), ← ih]
    congr 1
    omega

theorem exists_dropBytes {n : Nat} {s rest : Text} (dropped : dropBytes n s = some rest) :
    ∃ front, s = front ++ rest ∧ byteLength front = n := by
  fun_induction dropBytes n s with
  | case1 s => exact ⟨[], Option.some.inj dropped, rfl⟩
  | case2 => contradiction
  | case3 n c more _ fits ih =>
    obtain ⟨front, rfl, width⟩ := ih dropped
    refine ⟨c :: front, rfl, ?_⟩
    rw [byteLength_cons, width]
    omega
  | case4 => contradiction

theorem exists_cutIndent {width : Nat} {line : Text}
    (inside : isBlank line = false → width ≤ indentWidth line) :
    ∃ w, isBlank w = true ∧ trimEnd line = w ++ cutIndent width line := by
  unfold cutIndent
  cases blank : isBlank line with
  | true => exact ⟨[], rfl, by rw [if_pos rfl, trimEnd_eq_nil_iff.mpr blank]; rfl⟩
  | false =>
    rw [if_neg Bool.false_ne_true]
    have text {w rest : Text} (white : isBlank w = true) (split : line = w ++ rest) :
        trimEnd line = w ++ trimEnd rest := by
      rw [split, isBlank_append, white, Bool.true_and] at blank
      rw [split, trimEnd_append_of_text blank]
    cases dropped : dropBytes width line with
    | none =>
      obtain ⟨w, white, split⟩ := exists_trimStart line
      exact ⟨w, white, text white split⟩
    | some rest =>
      obtain ⟨front, split, length⟩ := exists_dropBytes dropped
      -- of two beginnings of the line, the one of fewer bytes is the shorter one
      have shorter : front <+: line.takeWhile isWhite := by
        rcases List.prefix_or_prefix_of_prefix (split ▸ List.prefix_append front rest)
          (List.takeWhile_prefix isWhite (l := line)) with inner | ⟨more, longer⟩
        · exact inner
        · have wide := inside blank
          rw [indentWidth, ← length, ← longer, byteLength_append] at wide
          have same : more = [] := eq_nil_of_byteLength (by omega)
          rw [same, List.append_nil] at longer
          exact longer ▸ List.prefix_rfl
      have white : isBlank front = true :=
        isBlank_iff.mpr fun c mem => List.mem_takeWhile_imp (shorter.subset mem)
      exact ⟨front, white, text white split⟩

theorem isBlank_cutIndent {width : Nat} {line : Text}
    (inside : isBlank line = false → width ≤ indentWidth line) :
    isBlank (cutIndent width line) = isBlank line := by
  obtain ⟨w, white, split⟩ := exists_cutIndent inside
  rw [← isBlank_trimEnd line, split, isBlank_append, white, Bool.true_and]

def indents (ls : List Text) : List Nat := (ls.filter fun l => !isBlank l).map indentWidth

theorem mem_indents {ls : List Text} {line : Text} (mem : line ∈ ls) (text : isBlank line = false) :
    indentWidth line ∈ indents ls :=
  List.mem_map_of_mem (List.mem_filter.mpr ⟨mem, by simp [text]⟩)

theorem isLeast_commonIndent {ls : List Text} (some : indents ls ≠ []) :
    IsLeast {n | n ∈ indents ls} (commonIndent ls) := by
  rw [commonIndent, ← indents]
  cases least : (indents ls).min? with
  | none => exact absurd (List.min?_eq_none_iff.mp least) some
  | some n =>
    obtain ⟨attained, below⟩ := List.min?_eq_some_iff.mp least
    exact ⟨attained, fun m mem => below m mem⟩

theorem commonIndent_le {ls : List Text} {line : Text} (mem : line ∈ ls) (text : isBlank line = false) :
    commonIndent ls ≤ indentWidth line := by
  have own := mem_indents mem text
  exact (isLeast_commonIndent (List.ne_nil_of_mem own)).2 own

theorem dedentLines_ne_nil {ls : List Text} {line : Text} (mem : line ∈ ls)
    (text : isBlank line = false) : dedentLines ls ≠ [] := by
  refine joinTrimmed_ne_nil _ (List.mem_map_of_mem mem) ?_
  rw [isBlank_cutIndent (commonIndent_le mem), text]

/-- The line shown with white space of a width before it. Of a blank line any blank line will do. -/
inductive IndentedBy (width : Nat) : Text → Text → Prop where
  | blank {line shown : Text} (blank : isBlank line = true) (same : isBlank shown = true) :
      IndentedBy width line shown
  | text {line w : Text} (text : isBlank line = false) (white : isBlank w = true)
      (wide : byteLength w = width) : IndentedBy width line (w ++ line)

namespace IndentedBy

variable {width : Nat} {line shown : Text}

theorem isBlank_eq (h : IndentedBy width line shown) : isBlank shown = isBlank line := by
  cases h with
  | blank blank same => rw [blank, same]
  | text _ white => rw [isBlank_append, white, Bool.true_and]

theorem trim_eq (h : IndentedBy width line shown) : trim shown = trim line := by
  cases h with
  | blank blank same => rw [trim_eq_nil_iff.mpr same, trim_eq_nil_iff.mpr blank]
  | text _ white => exact trim_append_left white line

theorem indentWidth_eq (h : IndentedBy width line shown) (text : isBlank line = false) :
    indentWidth shown = width + indentWidth line := by
  cases h with
  | blank blank =>
    rw [blank] at text
    contradiction
  | text _ white wide =>
    rw [indentWidth, List.takeWhile_append_of_pos (isBlank_iff.mp white), byteLength_append, wide,
      indentWidth]

theorem cutIndent_eq (h : IndentedBy width line shown) (n : Nat) :
    cutIndent (width + n) shown = cutIndent n line := by
  unfold cutIndent
  rw [h.isBlank_eq]
  cases h with
  | blank blank => rw [if_pos blank, if_pos blank]
  | text _ white wide => rw [← wide, dropBytes_append, trimStart_append white]

end IndentedBy

section

variable {width : Nat} {ls ms : List Text} (indented : List.Forall₂ (IndentedBy width) ls ms)
include indented

theorem map_trim_of_indented : ms.map trim = ls.map trim := by
  induction indented with
  | nil => rfl
  | cons h _ ih => rw [List.map_cons, List.map_cons, h.trim_eq, ih]

theorem indents_of_indented : indents ms = (indents ls).map (width + ·) := by
  induction indented with
  | nil => rfl
  | @cons line shown _ _ h _ ih =>
    unfold indents at ih ⊢
    rw [List.filter_cons, List.filter_cons, h.isBlank_eq]
    cases text : isBlank line with
    | true => exact ih
    | false => simpa [h.indentWidth_eq text] using ih

theorem commonIndent_of_indented {line : Text} (mem : line ∈ ls) (text : isBlank line = false) :
    commonIndent ms = width + commonIndent ls := by
  have shifted := indents_of_indented indented
  have some : indents ls ≠ [] := List.ne_nil_of_mem (mem_indents mem text)
  obtain ⟨attained, below⟩ := isLeast_commonIndent some
  refine (isLeast_commonIndent (by simpa [shifted] using some)).unique ⟨?_, fun n there => ?_⟩
  · exact shifted ▸ List.mem_map_of_mem attained
  · obtain ⟨k, own, rfl⟩ := List.mem_map.mp (shifted ▸ there)
    exact Nat.add_le_add_left (below own) width

theorem map_cutIndent_of_indented {m n : Nat}
    (shift : ∀ l ∈ ls, isBlank l = false → m = width + n) :
    ms.map (cutIndent m) = ls.map (cutIndent n) := by
  induction indented with
  | nil => rfl
  | @cons line shown _ _ h _ ih =>
    rw [List.forall_mem_cons] at shift
    rw [List.map_cons, List.map_cons, ih shift.2]
    cases text : isBlank line with
    | true => rw [cutIndent, if_pos (h.isBlank_eq.trans text), cutIndent, if_pos text]
    | false => rw [shift.1 text, h.cutIndent_eq]

theorem dedentLines_of_indented : dedentLines ms = dedentLines ls :=
  congrArg joinTrimmed (map_cutIndent_of_indented indented fun _ mem text =>
    commonIndent_of_indented indented mem text)

end

theorem dedentLines_between {lead gap : List Text} (before : ∀ l ∈ lead, isBlank l = true)
    (behind : ∀ l ∈ gap, isBlank l = true) (ls : List Text) :
    dedentLines (lead ++ ls ++ gap) = dedentLines ls := by
  have none {blanks : List Text} (blank : ∀ l ∈ blanks, isBlank l = true) :
      blanks.filter (fun l => !isBlank l) = [] :=
    List.filter_eq_nil_iff.mpr fun l mem => by simp [blank l mem]
  have common : commonIndent (lead ++ ls ++ gap) = commonIndent ls := by
    rw [commonIndent, List.filter_append, List.filter_append, none before, none behind,
      List.nil_append, List.append_nil, commonIndent]
  have cut {blanks : List Text} (blank : ∀ l ∈ blanks, isBlank l = true) (n : Nat) :
      ∀ l ∈ blanks.map (cutIndent n), isBlank l = true := by
    rintro l mem
    obtain ⟨k, there, rfl⟩ := List.mem_map.mp mem
    rw [cutIndent, if_pos (blank k there)]
    rfl
  rw [dedentLines, common, List.map_append, List.map_append, joinTrimmed_eq,
    kept_append_right (cut behind _), kept_append_left (cut before _), ← joinTrimmed_eq, dedentLines]

theorem dedentLines_of_blank {ls : List Text} (blank : ∀ l ∈ ls, isBlank l = true) :
    dedentLines ls = [] := by
  have nothing := dedentLines_between blank (List.forall_mem_nil (isBlank · = true)) []
  rwa [List.append_nil, List.append_nil] at nothing

end ModuleDocs.Help
