import ModuleDocs.Proofs.Text.Split
import ModuleDocs.Proofs.Text.Trim

namespace ModuleDocs.Text

/-- Induction over a text line by line: text without a newline, or such text, a newline and more. -/
theorem lineInduction {motive : Text → Prop} (last : ∀ a, '\n' ∉ a → motive a)
    (more : ∀ a b, '\n' ∉ a → motive b → motive (a ++ '\n' :: b)) (s : Text) : motive s :=
  splitInduction '\n' last more s

section

variable {sep : Char} (dark : isWhite sep = false) {w : Text} (blank : isBlank w = true)
include dark blank

theorem separator_notMem : sep ∉ w := fun mem => by
  have white := isBlank_iff.mp blank sep mem
  rw [dark] at white
  contradiction

theorem map_trim_splitOn_blank (s : Text) :
    (splitOn sep (w ++ s)).map trim = (splitOn sep s).map trim := by
  have whole {a : Text} (plain : sep ∉ a) : sep ∉ w ++ a := by
    simp [plain, separator_notMem dark blank]
  induction s using splitInduction sep with
  | last a plain =>
    rw [splitOn_eq_singleton (whole plain), splitOn_eq_singleton plain, List.map_singleton,
      List.map_singleton, trim_append_left blank]
  | more a b plain ih =>
    rw [← List.append_assoc, splitOn_append_cons, splitOn_append_cons,
      splitOn_eq_singleton (whole plain), splitOn_eq_singleton plain, List.map_append,
      List.map_append, List.map_singleton, List.map_singleton, trim_append_left blank]

theorem map_trim_splitOn_append_blank (s : Text) :
    (splitOn sep (s ++ w)).map trim = (splitOn sep s).map trim := by
  induction s using splitInduction sep with
  | last a plain =>
    have whole : sep ∉ a ++ w := by simp [plain, separator_notMem dark blank]
    rw [splitOn_eq_singleton whole, splitOn_eq_singleton plain, List.map_singleton,
      List.map_singleton, trim_append_right blank]
  | more a b plain ih =>
    rw [List.append_assoc, List.cons_append, splitOn_append_cons, splitOn_append_cons,
      List.map_append, List.map_append, ih]

end

/-- A part as a line: the carriage return at its end belongs to the newline. -/
def endedLine : Text → Text
  | [] => []
  | ['\r'] => []
  | c :: rest => c :: endedLine rest

theorem endedLine_cases (a : Text) : endedLine a = a ∨ a = endedLine a ++ ['\r'] := by
  fun_induction endedLine a with
  | case1 => exact .inl rfl
  | case2 => exact .inr rfl
  | case3 c rest _ ih =>
    rcases ih with same | ended
    · exact .inl (by rw [same])
    · exact .inr (by rw [List.cons_append, ← ended])

theorem endedLine_eq_self {a : Text} (plain : '\r' ∉ a) : endedLine a = a := by
  rcases endedLine_cases a with same | ended
  · exact same
  · rw [ended] at plain
    simp at plain

theorem endedLine_of_ends {line : Text} (ends : trimEnd line = line) : endedLine line = line := by
  rcases endedLine_cases line with same | returned
  · exact same
  · have cut : trimEnd line = trimEnd (endedLine line) :=
      (congrArg trimEnd returned).trans (trimEnd_append (by decide) _)
    have bound : (trimEnd (endedLine line)).length ≤ (endedLine line).length :=
      (isPrefix_trimEnd _).length_le
    have longer := congrArg List.length returned
    rw [← cut, ends] at bound
    rw [List.length_append, List.length_singleton] at longer
    omega

theorem endedLine_trim (l : Text) : endedLine (trim l) = trim l :=
  endedLine_of_ends (trimEnd_trimEnd _)

theorem endedLine_append {line : Text} (nonempty : line ≠ []) (w : Text) :
    endedLine (w ++ line) = w ++ endedLine line := by
  induction w with
  | nil => rfl
  | cons c rest ih =>
    have more : rest ++ line ≠ [] := by simp [nonempty]
    rw [List.cons_append, endedLine, ih, List.cons_append]
    exact fun _ nothing => more nothing

theorem read_endedLine {β : Type} {read : Text → β} (ended : ∀ l, read (l ++ ['\r']) = read l)
    (a : Text) : read (endedLine a) = read a := by
  rcases endedLine_cases a with same | returned
  · rw [same]
  · rw [congrArg read returned, ended]

theorem newline_notMem_endedLine {a : Text} (plain : '\n' ∉ a) : '\n' ∉ endedLine a := by
  intro inside
  rcases endedLine_cases a with same | returned
  · exact plain (same ▸ inside)
  · exact plain (returned ▸ List.mem_append_left _ inside)

theorem newline_notMem_trim {a : Text} (plain : '\n' ∉ a) : '\n' ∉ trim a := by
  intro inside
  have front := (isPrefix_trimEnd (trimStart a)).subset inside
  exact plain ((List.dropWhile_suffix isWhite).subset front)

theorem lines_append_newline {a : Text} (plain : '\n' ∉ a) (b : Text) :
    lines (a ++ '\n' :: b) = endedLine a :: lines b := by
  fun_induction endedLine a with
  | case1 => rw [List.nil_append, lines]
  | case2 => rw [List.cons_append, List.nil_append, lines]
  | case3 c rest notLast ih =>
    rw [List.mem_cons, not_or] at plain
    rw [List.cons_append, lines, ih plain.2]
    · exact fun same => plain.1 same.symm
    · intro tail same begins
      cases rest with
      | nil => exact notLast same rfl
      | cons d more =>
        rw [List.cons_append, List.cons.injEq] at begins
        exact plain.2 (begins.1 ▸ List.mem_cons_self)

theorem lines_of_notMem {a : Text} (plain : '\n' ∉ a) (nonempty : a ≠ []) : lines a = [a] := by
  induction a with
  | nil => contradiction
  | cons c rest ih =>
    rw [List.mem_cons, not_or] at plain
    rw [lines]
    · cases rest with
      | nil => rfl
      | cons d more => rw [ih plain.2 (by simp)]
    · exact fun same => plain.1 same.symm
    · rintro tail - rfl
      exact plain.2 List.mem_cons_self

theorem lines_ne_nil {s : Text} (nonempty : s ≠ []) : lines s ≠ [] := by
  induction s using lineInduction with
  | last a plain =>
    rw [lines_of_notMem plain nonempty]
    exact List.cons_ne_nil _ _
  | more a b plain ih =>
    rw [lines_append_newline plain]
    exact List.cons_ne_nil _ _

theorem lines_append_of_plain {a s line : Text} {more : List Text} (plain : '\n' ∉ a ∧ '\r' ∉ a)
    (read : lines s = line :: more) : lines (a ++ s) = (a ++ line) :: more := by
  induction a with
  | nil => exact read
  | cons c rest ih =>
    rw [List.mem_cons, List.mem_cons, not_or, not_or] at plain
    obtain ⟨⟨notNewline, newline⟩, notReturn, return_⟩ := plain
    rw [List.cons_append, lines, ih ⟨newline, return_⟩]
    · rfl
    · exact fun same => notNewline same.symm
    · exact fun _ same => absurd same.symm notReturn

theorem newline_notMem_of_mem_lines {s l : Text} (mem : l ∈ lines s) : '\n' ∉ l := by
  induction s using lineInduction with
  | last a plain =>
    by_cases empty : a = []
    · subst empty
      simp [lines] at mem
    · rw [lines_of_notMem plain empty, List.mem_singleton] at mem
      exact mem ▸ plain
  | more a b plain ih =>
    rw [lines_append_newline plain, List.mem_cons] at mem
    rcases mem with rfl | mem
    · exact newline_notMem_endedLine plain
    · exact ih mem

theorem mem_of_mem_lines {s l : Text} {c : Char} (mem : l ∈ lines s) (inside : c ∈ l) : c ∈ s := by
  induction s using lineInduction with
  | last a plain =>
    by_cases empty : a = []
    · subst empty
      simp [lines] at mem
    · rw [lines_of_notMem plain empty, List.mem_singleton] at mem
      exact mem ▸ inside
  | more a b plain ih =>
    rw [lines_append_newline plain, List.mem_cons] at mem
    rw [List.mem_append, List.mem_cons]
    rcases mem with rfl | mem
    · rcases endedLine_cases a with same | returned
      · exact .inl (same ▸ inside)
      · exact .inl (returned ▸ List.mem_append_left _ inside)
    · exact .inr (.inr (ih mem))

theorem filter_map_lines {β : Type} {read : Text → β} {keep : β → Bool}
    (ended : ∀ l, read (l ++ ['\r']) = read l) (empty : keep (read []) = false) (s : Text) :
    (s.lines.map read).filter keep = ((splitOn '\n' s).map read).filter keep := by
  induction s using lineInduction with
  | last a plain =>
    rw [splitOn_eq_singleton plain]
    by_cases none : a = []
    · subst none
      simp [lines, empty]
    · rw [lines_of_notMem plain none]
  | more a b plain ih =>
    rw [lines_append_newline plain, splitOn_append_cons, splitOn_eq_singleton plain,
      List.singleton_append, List.map_cons, List.map_cons, read_endedLine ended, List.filter_cons,
      List.filter_cons, ih]

theorem unlines_cons_cons (l m : Text) (ls : List Text) :
    unlines (l :: m :: ls) = l ++ '\n' :: unlines (m :: ls) := by
  simp [unlines, List.intercalate_cons_cons]

theorem unlines_singleton (l : Text) : unlines [l] = l := List.intercalate_singleton

theorem mem_unlines {ls : List Text} {l : Text} {c : Char} (mem : l ∈ ls) (inside : c ∈ l) :
    c ∈ unlines ls := by
  induction ls with
  | nil => contradiction
  | cons k rest ih =>
    cases rest with
    | nil =>
      rw [List.mem_singleton] at mem
      rwa [unlines_singleton, ← mem]
    | cons m more =>
      rw [unlines_cons_cons, List.mem_append, List.mem_cons]
      rcases List.mem_cons.mp mem with rfl | mem
      · exact .inl inside
      · exact .inr (.inr (ih mem))

theorem notMem_unlines {ls : List Text} {c : Char} (other : c ≠ '\n') (absent : ∀ l ∈ ls, c ∉ l) :
    c ∉ unlines ls := by
  induction ls with
  | nil => exact List.not_mem_nil
  | cons k rest ih =>
    have first := absent k List.mem_cons_self
    cases rest with
    | nil => rwa [unlines_singleton]
    | cons m more =>
      rw [unlines_cons_cons, List.mem_append, List.mem_cons]
      rintro (inside | rfl | inside)
      · exact first inside
      · exact other rfl
      · exact ih (fun l mem => absent l (List.mem_cons_of_mem k mem)) inside

theorem splitOn_unlines {ls : List Text} (plain : ∀ l ∈ ls, '\n' ∉ l) (nonempty : ls ≠ []) :
    splitOn '\n' (unlines ls) = ls := splitOn_intercalate plain nonempty

theorem unlines_splitOn (s : Text) : unlines (splitOn '\n' s) = s := by
  induction s using lineInduction with
  | last a plain => rw [splitOn_eq_singleton plain, unlines_singleton]
  | more a b plain ih =>
    obtain ⟨m, more, parts⟩ := List.exists_cons_of_ne_nil (splitOn_ne_nil '\n' b)
    rw [splitOn_append_cons, splitOn_eq_singleton plain, List.singleton_append, parts,
      unlines_cons_cons, ← parts, ih]

def trimmedLines (s : Text) : List Text := (s.lines.map trim).filter (fun l => !l.isEmpty)

theorem trimmedLines_eq (s : Text) :
    trimmedLines s = ((splitOn '\n' s).map trim).filter (fun l => !l.isEmpty) :=
  filter_map_lines (fun l => trim_append_right (by decide) l) rfl s

theorem trimmedLines_append_newline (a b : Text) :
    trimmedLines (a ++ '\n' :: b) = trimmedLines a ++ trimmedLines b := by
  rw [trimmedLines_eq, trimmedLines_eq, trimmedLines_eq, splitOn_append_cons, List.map_append,
    List.filter_append]

theorem trimmedLines_of_notMem {a : Text} (plain : '\n' ∉ a) :
    trimmedLines a = [trim a].filter (fun l => !l.isEmpty) := by
  rw [trimmedLines_eq, splitOn_eq_singleton plain]
  rfl

theorem trimmedLines_line {w : Text} (plain : '\n' ∉ w) (blank : isBlank w = true) (s : Text) :
    trimmedLines (w ++ s) = trimmedLines s := by
  induction s using lineInduction with
  | last a last =>
    have whole : '\n' ∉ w ++ a := by simp [plain, last]
    rw [trimmedLines_of_notMem whole, trimmedLines_of_notMem last, trim_append_left blank]
  | more a b first ih =>
    have line : '\n' ∉ w ++ a := by simp [plain, first]
    rw [← List.append_assoc, trimmedLines_append_newline, trimmedLines_append_newline,
      trimmedLines_of_notMem line, trimmedLines_of_notMem first, trim_append_left blank]

theorem trimmedLines_blank {w : Text} (blank : isBlank w = true) (s : Text) :
    trimmedLines (w ++ s) = trimmedLines s := by
  induction w using lineInduction with
  | last a plain => exact trimmedLines_line plain blank s
  | more a b plain ih =>
    rw [isBlank_append, isBlank_cons, Bool.and_eq_true, Bool.and_eq_true] at blank
    have nothing := trimmedLines_line plain blank.1 []
    rw [List.append_nil] at nothing
    rw [List.append_assoc, List.cons_append, trimmedLines_append_newline, nothing, ih blank.2.2]
    rfl

theorem trimmedLines_break {line gap : Text} (solid : Solid line) (plain : '\n' ∉ line)
    (blank : isBlank gap = true) (newline : '\n' ∈ gap) (s : Text) :
    trimmedLines (line ++ gap ++ s) = line :: trimmedLines s := by
  obtain ⟨a, b, rfl, first⟩ := List.eq_append_cons_of_mem newline
  rw [isBlank_append, isBlank_cons, Bool.and_eq_true, Bool.and_eq_true] at blank
  have whole : '\n' ∉ line ++ a := by simp [plain, first]
  have text : trim (line ++ a) = line := by rw [trim_append_right blank.1, solid.trim_eq]
  calc trimmedLines (line ++ (a ++ '\n' :: b) ++ s)
      = trimmedLines ((line ++ a) ++ '\n' :: (b ++ s)) := by simp
    _ = [trim (line ++ a)].filter (fun l => !l.isEmpty) ++ trimmedLines s := by
      rw [trimmedLines_append_newline, trimmedLines_of_notMem whole,
        trimmedLines_blank blank.2.2]
    _ = line :: trimmedLines s := by
      rw [text]
      simp [solid.nonempty]

theorem trimmedLines_end {line w : Text} (solid : Solid line) (plain : '\n' ∉ line)
    (blank : isBlank w = true) : trimmedLines (line ++ w) = [line] := by
  by_cases newline : '\n' ∈ w
  case pos =>
    have broken := trimmedLines_break solid plain blank newline []
    rwa [List.append_nil] at broken
  case neg =>
    have whole : '\n' ∉ line ++ w := by simp [plain, newline]
    rw [trimmedLines_of_notMem whole, trim_append_right blank, solid.trim_eq]
    simp [solid.nonempty]

end ModuleDocs.Text
