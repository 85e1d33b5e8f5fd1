import ModuleDocs.Proofs.Help.Layout

/-! Texts without the indentation that their lines share. The width of an indentation is counted in bytes
and its characters may have more than one, so a cut may fall inside a character; it never falls behind the
white space. Main statement: dedenting takes indentation and nothing else. -/
namespace ModuleDocs.Help
open Text

theorem trimEnd_cutIndent (width : Nat) (line : Text) :
    trimEnd (cutIndent width line) = cutIndent width line := by
  unfold cutIndent
  split
  case isTrue => rfl
  case isFalse => exact trimEnd_trimEnd _

/-- The line without the white space at its end, and without some or all of that at its beginning. -/
def Outdented (line shown : Text) : Prop := ∃ w, isBlank w = true ∧ trimEnd line = w ++ shown

namespace Outdented

variable {line shown : Text}

theorem trim_eq (h : Outdented line shown) : trim shown = trim line := by
  obtain ⟨w, white, split⟩ := h
  obtain ⟨v, behind, whole⟩ := exists_trimEnd line
  rw [whole, trim_append_right behind, split, trim_append_left white]

theorem newline_notMem (h : Outdented line shown) (plain : '\n' ∉ line) : '\n' ∉ shown := by
  obtain ⟨w, -, split⟩ := h
  intro inside
  have before : '\n' ∈ trimEnd line := split ▸ List.mem_append_right w inside
  exact plain ((isPrefix_trimEnd line).subset before)

end Outdented

theorem outdented_cutIndent {ls : List Text} {line : Text} (mem : line ∈ ls) :
    Outdented line (cutIndent (commonIndent ls) line) := exists_cutIndent (commonIndent_le mem)

theorem isBlank_map_cutIndent (ls : List Text) :
    ∀ l ∈ ls, isBlank (cutIndent (commonIndent ls) l) = isBlank l := fun _ mem =>
  isBlank_cutIndent (commonIndent_le mem)

theorem lines_dedent (s : Text) :
    (dedent s).lines = (kept s.lines).map (cutIndent (commonIndent s.lines)) := by
  rw [dedent, dedentLines, lines_joinTrimmed, kept_map (isBlank_map_cutIndent s.lines)]
  · intro l mem
    obtain ⟨line, own, rfl⟩ := List.mem_map.mp mem
    exact (outdented_cutIndent own).newline_notMem (newline_notMem_of_mem_lines own)
  · intro l mem
    obtain ⟨line, -, rfl⟩ := List.mem_map.mp mem
    exact trimEnd_cutIndent _ line

theorem outdented_lines_dedent (s : Text) :
    List.Forall₂ Outdented (kept s.lines) (dedent s).lines := by
  rw [lines_dedent, List.forall₂_map_right_iff, List.forall₂_same]
  exact fun l mem => outdented_cutIndent (mem_of_mem_kept mem)

theorem trimmedLines_dedent (s : Text) : trimmedLines (dedent s) = trimmedLines s := by
  have same : (dedent s).lines.map trim = (kept s.lines).map trim := by
    rw [lines_dedent, List.map_map]
    exact List.map_congr_left fun l mem => (outdented_cutIndent (mem_of_mem_kept mem)).trim_eq
  rw [trimmedLines, same, filter_map_trim_kept, trimmedLines]

theorem cutIndent_indentWidth {line : Text} (text : isBlank line = false) :
    cutIndent (indentWidth line) line = trim line := by
  have split : line.takeWhile isWhite ++ trimStart line = line := List.takeWhile_append_dropWhile
  have dropped : dropBytes (indentWidth line) line = some (trimStart line) := by
    have whole := dropBytes_append (line.takeWhile isWhite) (trimStart line) 0
    rwa [split, dropBytes] at whole
  rw [cutIndent, if_neg (by rw [text]; exact Bool.false_ne_true), dropped, Option.getD_some, trim]

theorem exists_solid_dedent {s line : Text} (mem : line ∈ s.lines) (text : isBlank line = false) :
    ∃ l ∈ (dedent s).lines, Solid l := by
  obtain ⟨least, -⟩ := isLeast_commonIndent (List.ne_nil_of_mem (mem_indents mem text))
  obtain ⟨first, there, width⟩ := List.mem_map.mp least
  obtain ⟨own, first_text⟩ := List.mem_filter.mp there
  have dark : isBlank first = false := by simpa using first_text
  refine ⟨trim first, ?_, solid_trim ?_⟩
  · rw [lines_dedent, ← width, ← cutIndent_indentWidth dark]
    exact List.mem_map_of_mem (mem_kept own dark)
  · rw [ne_eq, trim_eq_nil_iff, dark]
    exact Bool.false_ne_true

theorem indentWidth_of_solid {line : Text} (solid : Solid line) : indentWidth line = 0 := by
  have split : line.takeWhile isWhite ++ trimStart line = line := List.takeWhile_append_dropWhile
  rw [solid.starts] at split
  rw [indentWidth, List.append_left_eq_self.mp split]
  rfl

theorem commonIndent_of_solid {ls : List Text} {line : Text} (mem : line ∈ ls) (solid : Solid line) :
    commonIndent ls = 0 := by
  have below := commonIndent_le mem solid.isBlank_eq
  rw [indentWidth_of_solid solid] at below
  exact Nat.le_zero.mp below

theorem dedentLines_of_solid {ls : List Text} {line : Text} (mem : line ∈ ls) (solid : Solid line)
    (ends : ∀ l ∈ ls, trimEnd l = l) : dedentLines ls = joinTrimmed ls := by
  have each : ∀ l ∈ ls, cutIndent 0 l = id l := by
    intro l own
    unfold cutIndent
    split
    case isTrue blank => rw [← ends l own, trimEnd_eq_nil_iff.mpr blank]; rfl
    case isFalse =>
      rw [dropBytes, Option.getD_some, ends l own]
      rfl
  rw [dedentLines, commonIndent_of_solid mem solid, List.map_congr_left each, List.map_id]

theorem dedent_dedent (s : Text) : dedent (dedent s) = dedent s := by
  by_cases blank : ∀ l ∈ s.lines, isBlank l = true
  case pos =>
    have nothing : dedent s = [] := dedentLines_of_blank blank
    rw [nothing]
    rfl
  case neg =>
    simp only [not_forall, Bool.not_eq_true] at blank
    obtain ⟨line, mem, text⟩ := blank
    obtain ⟨first, own, solid⟩ := exists_solid_dedent mem text
    have ends : ∀ l ∈ (dedent s).lines, trimEnd l = l := by
      intro l inside
      rw [lines_dedent] at inside
      obtain ⟨k, -, rfl⟩ := List.mem_map.mp inside
      exact trimEnd_cutIndent _ k
    have joined : joinTrimmed (dedent s).lines = dedent s := by
      rw [joinTrimmed_eq, lines_dedent, ← kept_map (isBlank_map_cutIndent s.lines),
        (edged_kept _).kept_eq]
      rfl
    rw [dedent, dedentLines_of_solid own solid ends, joined]

def indentedLine (n : Nat) (line : Text) : Text :=
  if isBlank line then line else spaces n ++ line

def indented (n : Nat) (s : Text) : Text := unlines ((splitOn '\n' s).map (indentedLine n))

theorem indentedBy_indentedLine (n : Nat) (line : Text) :
    IndentedBy n line (indentedLine n line) := by
  unfold indentedLine
  split
  case isTrue blank => exact .blank blank blank
  case isFalse text => exact .text (Bool.eq_false_iff.mpr text) (isBlank_spaces n) (byteLength_spaces n)

theorem IndentedBy.endedLine {width : Nat} {line shown : Text} (h : IndentedBy width line shown) :
    IndentedBy width (endedLine line) (endedLine shown) := by
  cases h with
  | blank blank same =>
    exact .blank ((read_endedLine isBlank_return _).trans blank)
      ((read_endedLine isBlank_return _).trans same)
  | text text white wide =>
    rw [endedLine_append (ne_nil_of_text text)]
    exact .text ((read_endedLine isBlank_return _).trans text) white wide

theorem newline_notMem_indentedLine {line : Text} (plain : '\n' ∉ line) (n : Nat) :
    '\n' ∉ indentedLine n line := by
  unfold indentedLine
  split
  case isTrue => exact plain
  case isFalse => simp [spaces, plain]

theorem indentedLine_eq_nil_iff {n : Nat} {line : Text} : indentedLine n line = [] ↔ line = [] := by
  unfold indentedLine
  split
  case isTrue => rfl
  case isFalse text => simp [ne_nil_of_text (Bool.eq_false_iff.mpr text)]

theorem indented_append_newline {a : Text} (plain : '\n' ∉ a) (n : Nat) (b : Text) :
    indented n (a ++ '\n' :: b) = indentedLine n a ++ '\n' :: indented n b := by
  obtain ⟨m, more, parts⟩ := List.exists_cons_of_ne_nil (splitOn_ne_nil '\n' b)
  rw [indented, splitOn_append_cons, splitOn_eq_singleton plain, List.singleton_append, List.map_cons,
    indented, parts, List.map_cons, unlines_cons_cons]

theorem lines_indented (n : Nat) (s : Text) :
    List.Forall₂ (IndentedBy n) s.lines (indented n s).lines := by
  induction s using lineInduction with
  | last a plain =>
    rw [indented, splitOn_eq_singleton plain, List.map_singleton, unlines_singleton]
    by_cases empty : a = []
    case pos =>
      rw [empty, indentedLine_eq_nil_iff.mpr rfl]
      exact .nil
    case neg =>
      rw [lines_of_notMem plain empty, lines_of_notMem (newline_notMem_indentedLine plain n)
        (mt indentedLine_eq_nil_iff.mp empty)]
      exact .cons (indentedBy_indentedLine n a) .nil
  | more a b plain ih =>
    rw [indented_append_newline plain, lines_append_newline plain,
      lines_append_newline (newline_notMem_indentedLine plain n)]
    exact .cons (indentedBy_indentedLine n a).endedLine ih

theorem cutIndent_of_single {n : Nat} {line : Text} (text : isBlank line = false)
    (inside : n ≤ (line.takeWhile isWhite).length)
    (single : ∀ c ∈ line.takeWhile isWhite, c.utf8Size = 1) :
    cutIndent n line = trimEnd (line.drop n) := by
  have front : line.take n = (line.takeWhile isWhite).take n := by
    conv_lhs => rw [← List.takeWhile_append_dropWhile (p := isWhite) (l := line)]
    exact List.take_append_of_le_length inside
  have bytes : byteLength (line.take n) = n := by
    rw [front, byteLength_of_single fun c mem => single c (List.mem_of_mem_take mem),
      List.length_take_of_le inside]
  have dropped : dropBytes n line = some (line.drop n) := by
    have whole := dropBytes_append (line.take n) (line.drop n) 0
    rwa [bytes, List.take_append_drop, dropBytes] at whole
  rw [cutIndent, if_neg (by rw [text]; exact Bool.false_ne_true), dropped, Option.getD_some]

theorem lines_dedent_of_single {s : Text}
    (single : ∀ l ∈ s.lines, isBlank l = false → ∀ c ∈ l.takeWhile isWhite, c.utf8Size = 1) :
    ∃ n, (∀ l ∈ s.lines, isBlank l = false → n ≤ (l.takeWhile isWhite).length) ∧
      (dedent s).lines = (kept s.lines).map fun l => trimEnd (l.drop n) := by
  have inside : ∀ l ∈ s.lines, isBlank l = false →
      commonIndent s.lines ≤ (l.takeWhile isWhite).length := by
    intro l mem text
    rw [← byteLength_of_single (single l mem text)]
    exact commonIndent_le mem text
  refine ⟨commonIndent s.lines, inside, ?_⟩
  rw [lines_dedent]
  refine List.map_congr_left fun l mem => ?_
  have own := mem_of_mem_kept mem
  cases blank : isBlank l with
  | false => exact cutIndent_of_single blank (inside l own blank) (single l own blank)
  | true =>
    rw [cutIndent, if_pos blank]
    refine (trimEnd_eq_nil_iff.mpr (isBlank_iff.mpr fun c there => ?_)).symm
    exact isBlank_iff.mp blank c (List.mem_of_mem_drop there)

/-- Dedenting takes indentation and nothing else. A second time it changes nothing. Each line of the
result is the line of the text at its place, from the first to the last that is not blank, without white
space at its end and without some of that at its beginning, and some line is left without any. Spaces put
before all lines that are not blank are taken again, and where the white space before them is made of
single bytes, all of them lose the same number of characters. -/
theorem dedent_takes_indentation (s : Text) :
    dedent (dedent s) = dedent s ∧
    List.Forall₂ Outdented (kept s.lines) (dedent s).lines ∧
    trimmedLines (dedent s) = trimmedLines s ∧
    ((∃ l ∈ s.lines, isBlank l = false) → ∃ l ∈ (dedent s).lines, Solid l) ∧
    (∀ n, dedent (indented n s) = dedent s) ∧
    ((∀ l ∈ s.lines, isBlank l = false → ∀ c ∈ l.takeWhile isWhite, c.utf8Size = 1) →
      ∃ n, (∀ l ∈ s.lines, isBlank l = false → n ≤ (l.takeWhile isWhite).length) ∧
        (dedent s).lines = (kept s.lines).map fun l => trimEnd (l.drop n)) :=
  ⟨dedent_dedent s, outdented_lines_dedent s, trimmedLines_dedent s,
    fun ⟨_, mem, text⟩ => exists_solid_dedent mem text,
    fun n => dedentLines_of_indented (lines_indented n s), lines_dedent_of_single⟩

theorem dedent_takes_indentation_pipeline :
    let s : Text := "\n    Get-Item |\r\n        Select Name  \r\n\t\r\n    Get-Date\n"
    (∃ l ∈ (dedent s).lines, Solid l) ∧
    (∃ n, (∀ l ∈ s.lines, isBlank l = false → n ≤ (l.takeWhile isWhite).length) ∧
      (dedent s).lines = (kept s.lines).map fun l => trimEnd (l.drop n)) ∧
    dedent s = "Get-Item |\n    Select Name\n\nGet-Date" := by
  intro s
  have laws := dedent_takes_indentation s
  have lines : s.lines = [[], "    Get-Item |".toList, "        Select Name  ".toList, "\t".toList,
      "    Get-Date".toList] := by decide
  have single : (s.lines.all fun l => (l.takeWhile isWhite).all fun c => c.utf8Size == 1) = true := by
    rw [lines]
    decide
  refine ⟨laws.2.2.2.1 ⟨"    Get-Date", by rw [lines]; simp, by decide⟩, laws.2.2.2.2.2 ?_, by decide⟩
  intro l mem _ c inside
  exact beq_iff_eq.mp (List.all_eq_true.mp (List.all_eq_true.mp single l mem) c inside)

/-- Where the cut would fall inside a character, the line loses all its indentation. -/
example : dedent " a\n\u3000\u3000b" = "a\nb".toList := by decide

end ModuleDocs.Help
