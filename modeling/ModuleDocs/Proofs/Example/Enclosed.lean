import ModuleDocs.Proofs.Example.Nesting
import ModuleDocs.Proofs.Example.Recognition

namespace ModuleDocs.Example
open Text

inductive Enclosure where
  | single
  | double
  | comment
  deriving DecidableEq, Repr

namespace Enclosure

def opening : Enclosure → Text
  | single => ['\'']
  | double => ['"']
  | comment => ['<', '#']

def closing : Enclosure → Text
  | single => ['\'']
  | double => ['"']
  | comment => ['#', '>']

def region : Enclosure → Region
  | single => .quoted .single
  | double => .quoted .double
  | comment => .comment

/-- The text can stand between the marks: it has no closing mark in it, and in double quotes no
backtick, which would take the next character with it. -/
def Holds : Enclosure → Text → Prop
  | single, body => '\'' ∉ body
  | double, body => '"' ∉ body ∧ '\x60' ∉ body
  | comment, body => ¬ ['#', '>'] <:+: body

instance (k : Enclosure) (body : Text) : Decidable (k.Holds body) :=
  match k with
  | single => inferInstanceAs (Decidable ('\'' ∉ body))
  | double => inferInstanceAs (Decidable ('"' ∉ body ∧ '\x60' ∉ body))
  | comment => inferInstanceAs (Decidable (¬ ['#', '>'] <:+: body))

theorem Holds.of_infix {k : Enclosure} {part body : Text} (inside : k.Holds body)
    (within : part <:+: body) : k.Holds part := by
  cases k with
  | single => exact fun mem => inside (within.subset mem)
  | double => exact ⟨fun mem => inside.1 (within.subset mem), fun mem => inside.2 (within.subset mem)⟩
  | comment => exact fun mark => inside (mark.trans within)

theorem solid_opening (k : Enclosure) : Solid k.opening := by
  cases k <;> exact ⟨List.cons_ne_nil _ _, by decide, by decide⟩

theorem solid_closing (k : Enclosure) : Solid k.closing := by
  cases k <;> exact ⟨List.cons_ne_nil _ _, by decide, by decide⟩

theorem opening_plain (k : Enclosure) : '\n' ∉ k.opening ∧ '\r' ∉ k.opening := by
  cases k <;> decide

theorem newline_notMem_closing (k : Enclosure) : '\n' ∉ k.closing := by
  cases k <;> decide

end Enclosure

/-- A quoted text or a block comment, possibly over several lines. -/
structure Enclosed where
  kind : Enclosure
  body : Text
  inside : kind.Holds body

def Enclosed.text (x : Enclosed) : Text := x.kind.opening ++ x.body ++ x.kind.closing

theorem scan_opening (k : Enclosure) (s : Text) : scan .code (k.opening ++ s) = scan k.region s := by
  cases k <;> rfl

theorem scan_closing (k : Enclosure) (s : Text) : scan k.region (k.closing ++ s) = scan .code s := by
  cases k <;> rfl

theorem scan_cons {k : Enclosure} {c : Char} {s : Text} (inside : k.Holds [c])
    (open_ : k = .comment → c = '#' → s.head? ≠ some '>') :
    scan k.region (c :: s) = scan k.region s := by
  cases k with
  | single =>
    have other : c ≠ '\'' := fun same => inside (same ▸ List.mem_cons_self)
    rw [Enclosure.region, scan]
    exact other
  | double =>
    have other : c ≠ '"' := fun same => inside.1 (same ▸ List.mem_cons_self)
    have unescaped : c ≠ '\x60' := fun same => inside.2 (same ▸ List.mem_cons_self)
    rw [Enclosure.region, scan]
    · exact fun _ _ same _ => unescaped same
    · exact other
  | comment =>
    rw [Enclosure.region, scan]
    intro rest same begins
    rw [begins] at open_
    exact open_ rfl same rfl

theorem scan_append {k : Enclosure} {body : Text} (inside : k.Holds body) {s : Text}
    (apart : s.head? ≠ some '>') : scan k.region (body ++ s) = scan k.region s := by
  induction body with
  | nil => rfl
  | cons c rest ih =>
    have first : k.Holds [c] := inside.of_infix ⟨[], rest, rfl⟩
    have later : k.Holds rest := inside.of_infix (List.suffix_cons c rest).isInfix
    rw [List.cons_append, scan_cons first, ih later]
    rintro rfl rfl
    -- a hash closes a comment only with the next character, which is in the body or behind it
    cases rest with
    | nil => exact apart
    | cons d more =>
      intro closes
      cases closes
      exact inside ⟨[], more, rfl⟩

theorem counted_region (k : Enclosure) (line : Text) :
    counted k.region line = scan k.region (trimEnd line) := by
  cases k <;> rfl

theorem counted_code (line : Text) : counted .code line = scan .code (trimEnd line) := rfl

theorem counted_opening (k : Enclosure) (line : Text) :
    counted .code (k.opening ++ line) = counted k.region line := by
  rw [counted_region, counted_code, k.solid_opening.trimEnd_append_right, scan_opening]

theorem counted_inside {k : Enclosure} {line : Text} (inside : k.Holds line) :
    counted k.region line = ([], k.region) := by
  have within : trimEnd line <:+: line := (isPrefix_trimEnd line).isInfix
  have whole := scan_append (inside.of_infix within) (s := []) (by simp)
  rw [List.append_nil] at whole
  rw [counted_region, whole]
  cases k <;> rfl

theorem counted_closing {k : Enclosure} {body : Text} (inside : k.Holds body) (rest : Text) :
    counted k.region (body ++ (k.closing ++ rest)) = counted .code rest := by
  have text : isBlank (k.closing ++ rest) = false := by
    rw [isBlank_append, k.solid_closing.isBlank_eq, Bool.false_and]
  have apart : (k.closing ++ trimEnd rest).head? ≠ some '>' := by cases k <;> simp [Enclosure.closing]
  rw [counted_region, trimEnd_append_of_text text, k.solid_closing.trimEnd_append_right,
    scan_append inside apart, scan_closing, counted_code]

section

variable {k : Enclosure} {n : Nesting}

theorem feed_opening (code : n.region = .code) (line : Text) :
    n.feed (k.opening ++ line) = ({ n with region := k.region }).feed line := by
  rw [feed_eq, feed_eq, code, counted_opening]
  rfl

variable (region : n.region = k.region) {body : Text} (inside : k.Holds body)
include region inside

theorem feed_inside : n.feed body = n := by
  rw [feed_eq, region, counted_inside inside, Nesting.after_nil, ← region]

theorem feed_closing (rest : Text) :
    n.feed (body ++ (k.closing ++ rest)) = ({ n with region := .code }).feed rest := by
  rw [feed_eq, feed_eq, region, counted_closing inside]
  rfl

theorem foldl_feed_closing {rest : Text} (oneLine : '\n' ∉ rest) :
    (body ++ (k.closing ++ rest)).lines.foldl Nesting.feed n =
      ({ n with region := .code }).feed rest := by
  -- over the lines of the body: each whole line leaves the nesting as it is, the last one closes
  induction body using lineInduction with
  | last a plain =>
    have whole : '\n' ∉ a ++ (k.closing ++ rest) := by
      simp [plain, k.newline_notMem_closing, oneLine]
    have nonempty : a ++ (k.closing ++ rest) ≠ [] := by
      simp [k.solid_closing.nonempty]
    rw [lines_of_notMem whole nonempty, List.foldl_cons, List.foldl_nil, feed_closing region inside]
  | more a b plain ih =>
    have first : k.Holds a := inside.of_infix ⟨[], '\n' :: b, rfl⟩
    have later : k.Holds b := inside.of_infix ⟨a ++ ['\n'], [], by simp⟩
    have stays : n.feed (endedLine a) = n := by
      rw [read_endedLine (feed_return n), feed_inside region first]
    rw [List.append_assoc, List.cons_append, lines_append_newline plain, List.foldl_cons, stays,
      ih later]

end

/-- Quoted text and block comments are passed over: the nesting behind one is that of the rest of its
last line alone. -/
theorem foldl_feed_enclosed (n : Nesting) (code : n.region = .code) (x : Enclosed) {rest : Text}
    (oneLine : '\n' ∉ rest) : (x.text ++ rest).lines.foldl Nesting.feed n = n.feed rest := by
  obtain ⟨k, body, inside⟩ := x
  have nonempty : body ++ (k.closing ++ rest) ≠ [] := by simp [k.solid_closing.nonempty]
  obtain ⟨line, more, read⟩ := List.exists_cons_of_ne_nil (lines_ne_nil nonempty)
  have opened : (Enclosed.text ⟨k, body, inside⟩ ++ rest).lines = (k.opening ++ line) :: more := by
    rw [← lines_append_of_plain k.opening_plain read]
    simp [Enclosed.text]
  calc (Enclosed.text ⟨k, body, inside⟩ ++ rest).lines.foldl Nesting.feed n
      = more.foldl Nesting.feed (n.feed (k.opening ++ line)) := by rw [opened, List.foldl_cons]
    _ = (body ++ (k.closing ++ rest)).lines.foldl Nesting.feed { n with region := k.region } := by
      rw [feed_opening code, read, List.foldl_cons]
    _ = ({ n with region := .code }).feed rest := foldl_feed_closing rfl inside oneLine
    _ = n.feed rest := by rw [← code]

theorem foldl_feed_enclosed_comment :
    let n := Nesting.start.feed "if ($x) \x7b"
    let x : Enclosed := ⟨.comment, " old: \x7b (\n$t = @\"\n'it # > ", by decide⟩
    let rest : Text := " Write-Output ')' \x7d"
    n.region = .code ∧ n.braces = 1 ∧ '\n' ∉ rest ∧
    (x.text ++ rest).lines = ["<# old: \x7b (".toList, "$t = @\"".toList,
      "'it # > #> Write-Output ')' \x7d".toList] ∧
    (x.text ++ rest).lines.foldl Nesting.feed n = Nesting.start := by
  intro n x rest
  have oneLine : '\n' ∉ rest := by decide
  refine ⟨rfl, rfl, oneLine, by decide, ?_⟩
  rw [foldl_feed_enclosed n rfl x oneLine]
  decide

end ModuleDocs.Example
