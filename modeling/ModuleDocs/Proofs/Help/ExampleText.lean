import ModuleDocs.Help.Blocks
import ModuleDocs.Proofs.Help.Layout
import ModuleDocs.Proofs.Help.NodeText
import ModuleDocs.Proofs.Help.UsageParts
import ModuleDocs.Proofs.Text.Matching

namespace ModuleDocs.Help
open Text

def markerRest (ordinal : Nat) (title : Text) : Text :=
  ' ' :: (Text.ofNat ordinal ++ ':' :: ' ' :: (title ++ ' ' :: "----".toList))

def markerLine (ordinal : Nat) (title : Text) : Text :=
  "----".toList ++ ' ' :: ("EXAMPLE".toList ++ markerRest ordinal title)

/-- An example and the lines that show it: a marker, and the body with an indentation. Blank lines may
stand above and below the body. -/
structure MarkedExample where
  title : Text
  body : Text
  margin : Text
  width : Nat
  above : List Text
  shown : List Text
  below : List Text
  solid : Solid title
  dedented : dedent body = body
  plain : ∀ l ∈ body.lines, exampleMarker? l = none
  white : isBlank margin = true
  indented : List.Forall₂ (IndentedBy width) body.lines shown
  before : ∀ l ∈ above, isBlank l = true
  behind : ∀ l ∈ below, isBlank l = true

def MarkedExample.inner (e : MarkedExample) : List Text := e.above ++ e.shown ++ e.below

def markedLines (ordinal : Nat) : List MarkedExample → List Text
  | [] => []
  | e :: rest =>
    (e.margin ++ markerLine ordinal e.title) :: (e.inner ++ markedLines (ordinal + 1) rest)

theorem exampleMarker?_congr {line other : Text} (same : trim line = trim other) :
    exampleMarker? line = exampleMarker? other := by
  rw [exampleMarker?, exampleMarker?, same]

theorem exampleMarker?_of_blank {line : Text} (blank : isBlank line = true) :
    exampleMarker? line = none := by
  have none : exampleMarker? [] = none := rfl
  rw [← none]
  exact exampleMarker?_congr (trim_eq_nil_iff.mpr blank)

theorem exampleMarker?_of_word {line word rest : Text} {c : Char}
    (bare : trimStart ((trim line).dropWhile (· == '-')) = word ++ c :: rest)
    (named : sameName word markerWord = true) (ends : isAlphabetic c = false) :
    exampleMarker? line = some (c :: rest) := by
  have length := length_of_sameName named
  rw [exampleMarker?, bare]
  simp only [List.take_left' length, List.drop_left' length, named, ends, if_true, Bool.false_eq_true,
    if_false]

theorem solid_dashes : Solid "----".toList := solid_of_all (by decide) (by decide)

theorem mem_dashes : ∀ c ∈ "----".toList, (c == '-') = true := List.all_eq_true.mp (by decide)

theorem exampleMarker?_markerLine (ordinal : Nat) (title : Text) :
    exampleMarker? (markerLine ordinal title) = some (markerRest ordinal title) := by
  have solid : Solid (markerLine ordinal title) := by
    have ends := solid_dashes.append solid_dashes
      (' ' :: ("EXAMPLE".toList ++ ' ' :: (Text.ofNat ordinal ++ ':' :: ' ' :: (title ++ [' ']))))
    simpa only [markerLine, markerRest, List.append_assoc, List.cons_append, List.nil_append] using ends
  have word : Solid "EXAMPLE".toList := solid_of_all (by decide) (by decide)
  have bare : trimStart ((markerLine ordinal title).dropWhile (· == '-')) =
      "EXAMPLE".toList ++ markerRest ordinal title := by
    rw [markerLine, List.dropWhile_append_of_pos mem_dashes, List.dropWhile_cons_of_neg (by decide),
      trimStart, List.dropWhile_cons_of_pos (by decide)]
    exact word.trimStart_append_self _
  exact exampleMarker?_of_word (solid.trim_eq.symm ▸ bare) (by decide) (by decide)

theorem exampleTitle_markerRest {title : Text} (solid : Solid title) (ordinal : Nat) :
    exampleTitle (markerRest ordinal title) ordinal = title := by
  have numbered : Solid (Text.ofNat ordinal ++ ':' :: ' ' :: title) := by
    simpa using (solid_ofNat ordinal).append solid [':', ' ']
  have whole : trim (markerRest ordinal title) =
      (Text.ofNat ordinal ++ ':' :: ' ' :: title) ++ [' '] ++ "----".toList := by
    rw [← (numbered.append solid_dashes [' ']).trim_eq, markerRest, ← List.singleton_append,
      trim_append_left (by decide)]
    simp only [List.append_assoc, List.cons_append, List.nil_append]
  -- the dashes of the title stand before white space, so only those of the marker go
  have undashed : dropEndWhile (· == '-') (trim (markerRest ordinal title)) =
      (Text.ofNat ordinal ++ ':' :: ' ' :: title) ++ [' '] := by
    rw [whole, dropEndWhile_append mem_dashes, dropEndWhile_eq_rdropWhile,
      List.rdropWhile_concat_neg _ _ _ (by decide)]
  have cleaned : trim (dropEndWhile (· == '-') (trim (markerRest ordinal title))) =
      Text.ofNat ordinal ++ ':' :: ' ' :: title := by
    rw [undashed, trim_append_right (by decide), numbered.trim_eq]
  have digits : (Text.ofNat ordinal ++ ':' :: ' ' :: title).dropWhile Char.isDigit =
      ':' :: ' ' :: title := by
    rw [List.dropWhile_append_of_pos fun c mem => isDigit_of_mem_ofNat mem,
      List.dropWhile_cons_of_neg (by decide)]
  -- the title stands behind white space too
  have separators : (':' :: ' ' :: title).dropWhile ([':', '.', '-'].contains ·) = ' ' :: title := by
    rw [List.dropWhile_cons_of_pos (by decide), List.dropWhile_cons_of_neg (by decide)]
  rw [exampleTitle, cleaned, digits, separators, ← List.singleton_append, trim_append_left (by decide),
    solid.trim_eq, titleOr, if_neg (by simpa using solid.nonempty)]

namespace MarkedExample

variable (e : MarkedExample)

theorem exampleMarker?_inner : ∀ l ∈ e.inner, exampleMarker? l = none := by
  have shown : ∀ l ∈ e.shown, exampleMarker? l = none := by
    intro l mem
    have trimmed : trim l ∈ e.body.lines.map trim :=
      map_trim_of_indented e.indented ▸ List.mem_map_of_mem mem
    obtain ⟨line, own, same⟩ := List.mem_map.mp trimmed
    rw [exampleMarker?_congr same.symm, e.plain line own]
  intro l mem
  rw [inner, List.mem_append, List.mem_append] at mem
  rcases mem with (above | body) | below
  · exact exampleMarker?_of_blank (e.before l above)
  · exact shown l body
  · exact exampleMarker?_of_blank (e.behind l below)

theorem dedentLines_inner : dedentLines e.inner = e.body := by
  rw [inner, dedentLines_between e.before e.behind, dedentLines_of_indented e.indented]
  exact e.dedented

end MarkedExample

theorem markedExamples_append {front : List Text} (unmarked : ∀ l ∈ front, exampleMarker? l = none)
    (ordinal : Nat) (rest : List Text) :
    markedExamples ordinal (front ++ rest) = markedExamples ordinal rest := by
  induction front with
  | nil => rfl
  | cons l more ih =>
    rw [List.forall_mem_cons] at unmarked
    rw [List.cons_append, markedExamples, unmarked.1]
    exact ih unmarked.2

theorem exampleMarker?_margin (e : MarkedExample) (ordinal : Nat) :
    exampleMarker? (e.margin ++ markerLine ordinal e.title) = some (markerRest ordinal e.title) := by
  rw [exampleMarker?_congr (trim_append_left e.white _), exampleMarker?_markerLine]

theorem stops_markedLines (ordinal : Nat) (examples : List MarkedExample) :
    Stops (fun l => (exampleMarker? l).isNone) (markedLines ordinal examples) := by
  cases examples with
  | nil => exact Stops.nil _
  | cons e rest => exact Stops.cons (by rw [exampleMarker?_margin]; rfl) _

theorem markedExamples_markedLines (ordinal : Nat) (examples : List MarkedExample) :
    markedExamples ordinal (markedLines ordinal examples) =
      examples.map fun e => (e.title, e.body) := by
  -- example by example: the lines of a body go up to the next marker, and numbers count upwards
  induction examples generalizing ordinal with
  | nil => rfl
  | cons e rest ih =>
    have inside : ∀ l ∈ e.inner, (exampleMarker? l).isNone = true := fun l mem => by
      rw [e.exampleMarker?_inner l mem]
      rfl
    have body := ((stops_markedLines (ordinal + 1) rest).run inside).1
    rw [markedLines, markedExamples, exampleMarker?_margin]
    simp only [body, e.dedentLines_inner, exampleTitle_markerRest e.solid,
      markedExamples_append e.exampleMarker?_inner, ih, List.map_cons]

theorem markedExamples_ne_nil {ls : List Text} (marked : ls.any fun l => (exampleMarker? l).isSome)
    (ordinal : Nat) : markedExamples ordinal ls ≠ [] := by
  induction ls with
  | nil => contradiction
  | cons line rest ih =>
    rw [markedExamples]
    cases marker : exampleMarker? line with
    | some after => exact List.cons_ne_nil _ _
    | none =>
      rw [List.any_cons, marker] at marked
      exact ih marked

theorem examplesOf_marked {s line after : Text} (mem : line ∈ s.lines)
    (marker : exampleMarker? line = some after) : examplesOf s = markedExamples 1 s.lines := by
  have marked : (s.lines.any fun l => (exampleMarker? l).isSome) = true :=
    List.any_eq_true.mpr ⟨line, mem, by rw [marker]; rfl⟩
  rw [examplesOf]
  exact if_pos marked

theorem examplesOf_eq_nil_iff {s : Text} : examplesOf s = [] ↔ ∀ l ∈ s.lines, isBlank l = true := by
  constructor
  · intro nothing l mem
    rw [← Bool.not_eq_false]
    intro text
    unfold examplesOf at nothing
    extract_lets ls body at nothing
    split at nothing
    case isTrue marked => exact markedExamples_ne_nil marked 1 nothing
    case isFalse =>
      split at nothing
      case isTrue empty => exact dedentLines_ne_nil mem text (List.isEmpty_iff.mp empty)
      case isFalse => contradiction
  · intro blank
    have unmarked : ¬ (s.lines.any fun l => (exampleMarker? l).isSome) = true := by
      simpa using fun l mem => exampleMarker?_of_blank (blank l mem)
    simp only [examplesOf, if_neg unmarked, dedentLines_of_blank blank]
    rfl

/-- Examples are read back from the lines that show them, and a text without examples is blank. -/
theorem examplesOf_roundTrip :
    (∀ (examples : List MarkedExample) (lead : List Text) (s : Text),
      (∀ l ∈ lead, isBlank l = true) → s.lines = lead ++ markedLines 1 examples →
      examplesOf s = examples.map fun e => (e.title, e.body)) ∧
    ∀ s, examplesOf s = [] → isBlank s = true := by
  refine ⟨fun examples lead s blank written => ?_, fun s nothing =>
    isBlank_of_lines (examplesOf_eq_nil_iff.mp nothing)⟩
  cases examples with
  | nil =>
    rw [markedLines, List.append_nil] at written
    exact examplesOf_eq_nil_iff.mpr (written ▸ blank)
  | cons e rest =>
    have first : e.margin ++ markerLine 1 e.title ∈ s.lines := by
      rw [written, markedLines]
      exact List.mem_append_right _ List.mem_cons_self
    have unmarked : ∀ l ∈ lead, exampleMarker? l = none := fun l mem =>
      exampleMarker?_of_blank (blank l mem)
    rw [examplesOf_marked first (exampleMarker?_margin e 1), written, markedExamples_append unmarked,
      markedExamples_markedLines]

def pipelineExample : MarkedExample where
  title := "2nd try --"
  body := "Get-Item |\n\n  Select Name"
  margin := "\t"
  width := 4
  above := [[], " "]
  shown := ["    Get-Item |", [], "      Select Name"]
  below := [[]]
  solid := ⟨by decide, by decide, by decide⟩
  dedented := by decide
  plain := by decide
  white := by decide
  indented := by
    have wide : byteLength "    ".toList = 4 := by decide
    have lines : Text.lines "Get-Item |\n\n  Select Name" =
        ["Get-Item |".toList, [], "  Select Name".toList] := by decide
    rw [lines]
    exact .cons (.text (w := "    ") (by decide) (by decide) wide)
      (.cons (.blank rfl rfl) (.cons (.text (w := "    ") (by decide) (by decide) wide) .nil))
  before := by decide
  behind := by decide

def emptyExample : MarkedExample where
  title := "-"
  body := []
  margin := []
  width := 0
  above := []
  shown := []
  below := []
  solid := ⟨by decide, by decide, by decide⟩
  dedented := rfl
  plain := by simp [Text.lines]
  white := rfl
  indented := .nil
  before := by simp
  behind := by simp

theorem examplesOf_roundTrip_pipeline :
    let s : Text := "\n\t---- EXAMPLE 1: 2nd try -- ----\n\n \n    Get-Item |\n\n      Select Name\n\n" ++
      "---- EXAMPLE 2: - ----\n"
    s.lines = [[]] ++ markedLines 1 [pipelineExample, emptyExample] ∧
    examplesOf s = [("2nd try --".toList, "Get-Item |\n\n  Select Name".toList), ("-".toList, [])] := by
  intro s
  have written : s.lines = [[]] ++ markedLines 1 [pipelineExample, emptyExample] := by decide
  exact ⟨written, examplesOf_roundTrip.1 _ _ _ (by decide) written⟩

end ModuleDocs.Help
