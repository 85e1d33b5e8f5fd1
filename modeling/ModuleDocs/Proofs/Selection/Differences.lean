import ModuleDocs.Proofs.Selection.Notes
import ModuleDocs.Proofs.Text.Difference

/-! The note on two documents that differ. Contents are compared as the normal form joins their lines, with
no newline behind the last one. Main statement: which number of changed lines the note gives, when that is
the number of lines outside a longest common subsequence of the lines themselves, and that a line added at
the end counts three times. -/
namespace ModuleDocs.Selection
open Text Document

def differsMessage (k : Kind) (count : Nat) : Text :=
  "local and remote ".toList ++ k.name ++ " differ (".toList ++ Text.ofNat count ++
    " changed line(s)), showing both".toList

theorem getLast?_settledLines (s : Text) : (settledLines s).getLast? ≠ some [] := by
  have ended := (settled_settledLines s).ended
  rw [dropEndWhile_eq_rdropWhile, List.rdropWhile_eq_self_iff] at ended
  intro last
  have nonempty : settledLines s ≠ [] := by
    rintro none
    simp [none] at last
  have empty := ended nonempty
  rw [List.getLast?_eq_some_getLast nonempty, Option.some.injEq] at last
  simp [last] at empty

theorem lines_normalize (s : Text) : (normalize s).lines = settledLines s := by
  have unbroken := (settled_settledLines s).unbroken
  have ended := getLast?_settledLines s
  rw [normalize_eq]
  generalize settledLines s = ls at unbroken ended
  rcases List.eq_nil_or_concat' ls with rfl | ⟨init, last, rfl⟩
  · rfl
  · rw [List.getLast?_concat, ne_eq, Option.some.injEq] at ended
    rw [List.forall_mem_append, List.forall_mem_singleton] at unbroken
    have bare : init.map endedLine = init :=
      (List.map_congr_left fun l mem => endedLine_eq_self (unbroken.1 l mem).1).trans (List.map_id' init)
    rw [lines_unlines (fun l mem => (unbroken.1 l mem).2) unbroken.2.2 ended, bare]

theorem changedLines_normalized (here there : Item) :
    changedLines here.normalized there.normalized =
      here.normalized.lines.length + there.normalized.lines.length -
        2 * (commonLength here.normalized.lines.dropLast there.normalized.lines.dropLast +
          lastShared here.normalized.lines there.normalized.lines) := by
  have plain (i : Item) : ∀ l ∈ settledLines i.content, '\n' ∉ l := fun l mem =>
    ((settled_settledLines i.content).unbroken l mem).2
  have counted := changedLines_unlines (plain here) (plain there) (getLast?_settledLines _)
    (getLast?_settledLines _)
  rwa [← normalize_eq, ← normalize_eq, ← lines_normalize, ← lines_normalize] at counted

section

variable {xs ys : List Text} {n : Nat}

theorem le_of_greatest (h : IsGreatest (commonLengths xs ys) n) : n ≤ xs.length ∧ n ≤ ys.length := by
  obtain ⟨⟨zs, left, right, rfl⟩, -⟩ := h
  exact ⟨left.length_le, right.length_le⟩

theorem commonLength_of_sameEnd (same : xs.getLast? = ys.getLast?) :
    commonLength xs ys = commonLength xs.dropLast ys.dropLast + lastShared xs ys := by
  rcases List.eq_nil_or_concat' xs with rfl | ⟨xs, x, rfl⟩
  · rw [List.dropLast_nil, commonLength_nil_left, commonLength_nil_left]
    rfl
  rcases List.eq_nil_or_concat' ys with rfl | ⟨ys, y, rfl⟩
  · simp at same
  rw [List.getLast?_concat, List.getLast?_concat, Option.some.injEq] at same
  rw [same, commonLength_concat_self, List.dropLast_concat, List.dropLast_concat, lastShared,
    if_pos ⟨by simp, by simp⟩]

theorem count_eq_iff :
    xs.length + ys.length - 2 * (commonLength xs.dropLast ys.dropLast + lastShared xs ys) =
        xs.length + ys.length - 2 * commonLength xs ys ↔
      xs.getLast? = ys.getLast? ∨ commonLength xs ys = commonLength xs.dropLast ys.dropLast := by
  by_cases same : xs.getLast? = ys.getLast?
  case pos => exact iff_of_true (by rw [commonLength_of_sameEnd same]) (.inl same)
  case neg =>
    have apart : lastShared xs ys = 0 := if_neg fun ended => same ended.2
    have whole := le_of_greatest (greatest_commonLength xs ys)
    have inner := le_of_greatest (greatest_commonLength xs.dropLast ys.dropLast)
    rw [List.length_dropLast, List.length_dropLast] at inner
    rw [apart, or_iff_right same]
    omega

/-- A line added at the end counts once if it repeats the last line, and else three times: with it the last
line is lost on one side and stands with a newline on the other. -/
theorem count_concat (line : Text) (nonempty : xs ≠ []) :
    xs.length + (xs ++ [line]).length -
        2 * (commonLength xs.dropLast (xs ++ [line]).dropLast + lastShared xs (xs ++ [line])) =
      if xs.getLast? = some line then 1 else 3 := by
  obtain ⟨init, last, rfl⟩ := (List.eq_nil_or_concat' xs).resolve_left nonempty
  rw [List.dropLast_concat, List.dropLast_concat, commonLength_concat, lastShared,
    List.getLast?_concat, List.getLast?_concat]
  simp only [List.length_append, List.length_singleton]
  by_cases same : some last = some line
  case pos =>
    rw [if_pos same, if_pos ⟨nonempty, same⟩]
    omega
  case neg =>
    rw [if_neg same, if_neg fun ended => same ended.2]
    omega

end

theorem differsNote_eq (k : Kind) (here there : Item) : differsNote k here there =
    .about k "differs" (differsMessage k (changedLines here.normalized there.normalized)) := rfl

theorem notes_merge_both (r : Request) (k : Kind) {here there : Item}
    (shown : r.showDuplicates = true ∨ here.normalized ≠ there.normalized) :
    (merge r k (some here) (some there)).notes = [differsNote k here there] := by
  have kept : (!r.showDuplicates && here.sameContent there) = false := by
    rcases shown with copies | other
    · rw [copies]
      rfl
    · rw [Item.sameContent, beq_eq_false_iff_ne.mpr other, Bool.and_false]
  rw [merge]
  simp only [kept]
  cases r.mode <;> rfl

theorem mem_notes_plan_differs (r : Request) (locals remotes : Candidates) {k : Kind} {here there : Item}
    (asked : k ∈ requestedKinds r locals remotes) (first : localPick r locals k = some here)
    (second : remotePick r remotes k = some there)
    (shown : r.showDuplicates = true ∨ here.normalized ≠ there.normalized) (n : Note) :
    n ∈ (plan r locals remotes).notes ∧ n.key = keyOf k "differs" ↔ n = differsNote k here there := by
  have listed : differsNote k here there ∈ (plan r locals remotes).notes := by
    rw [notes_plan, List.mem_flatMap]
    refine ⟨k, asked, ?_⟩
    rw [notes_decideKind, toList_mergeNote?, first, second, notes_merge_both r k shown]
    exact List.mem_append_right _ List.mem_cons_self
  constructor
  · rintro ⟨mem, key⟩
    exact List.inj_on_of_nodup_map (keyedOnce_plan r locals remotes).distinct mem listed key
  · rintro rfl
    exact ⟨listed, rfl⟩

/-- The number in the note on two documents that differ. It takes twice the shared lines from all lines,
where the two last lines are shared with each other only: so it is the number of lines outside a longest
common subsequence if the contents end in the same line or a longest one does without the two last
lines, and only then. A line added to a document counts three times unless it repeats the last one. -/
theorem differsNote_counts (k : Kind) (here there : Item) :
    let xs := here.normalized.lines
    let ys := there.normalized.lines
    ∃ count whole inner, differsNote k here there = .about k "differs" (differsMessage k count) ∧
      IsGreatest (commonLengths xs ys) whole ∧
      IsGreatest (commonLengths xs.dropLast ys.dropLast) inner ∧
      count = xs.length + ys.length - 2 * (inner + lastShared xs ys) ∧
      (count = xs.length + ys.length - 2 * whole ↔ xs.getLast? = ys.getLast? ∨ whole = inner) ∧
      (∀ line, xs ≠ [] → ys = xs ++ [line] →
        count = if xs.getLast? = some line then 1 else 3) ∧
      ∀ (r : Request) (locals remotes : Candidates), k ∈ requestedKinds r locals remotes →
        localPick r locals k = some here → remotePick r remotes k = some there →
        r.showDuplicates = true ∨ here.normalized ≠ there.normalized →
        ∀ n, n ∈ (plan r locals remotes).notes ∧ n.key = keyOf k "differs" ↔
          n = differsNote k here there := by
  intro xs ys
  have counted := changedLines_normalized here there
  refine ⟨_, _, _, differsNote_eq k here there, greatest_commonLength xs ys,
    greatest_commonLength xs.dropLast ys.dropLast, counted, ?_, fun line nonempty added => ?_,
    fun r locals remotes asked first second shown n =>
      mem_notes_plan_differs r locals remotes asked first second shown n⟩
  · rw [counted]
    exact count_eq_iff
  · rw [counted]
    change xs.length + ys.length - 2 * (commonLength xs.dropLast ys.dropLast + lastShared xs ys) = _
    rw [added]
    exact count_concat line nonempty

def readmeFrom (source : Source) (content : Text) : Item :=
  Item.ofKind .readme content "README.md" "README.md" source

def readmeIn (source : Source) (content : Text) : Candidates :=
  .ofFound fun k => if k = .readme then [readmeFrom source content] else []

theorem differsNote_counts_readme :
    let r : Request := { mode := .both, fetchRemote := true }
    let locals := readmeIn .localFile "a\nb\n"
    let remotes := readmeIn .remote "c\nb\n"
    Kind.readme ∈ requestedKinds r locals remotes ∧
    localPick r locals .readme = some (readmeFrom .localFile "a\nb\n") ∧
    remotePick r remotes .readme = some (readmeFrom .remote "c\nb\n") ∧
    ∀ n, n ∈ (plan r locals remotes).notes ∧ n.key = keyOf .readme "differs" ↔
      n = .about .readme "differs" "local and remote readme differ (2 changed line(s)), showing both" := by
  intro r locals remotes
  obtain ⟨-, -, -, -, -, -, -, -, -, listed⟩ :=
    differsNote_counts .readme (readmeFrom .localFile "a\nb\n") (readmeFrom .remote "c\nb\n")
  have asked : Kind.readme ∈ requestedKinds r locals remotes := by decide
  have first : localPick r locals .readme = some (readmeFrom .localFile "a\nb\n") := by decide
  have second : remotePick r remotes .readme = some (readmeFrom .remote "c\nb\n") := by decide
  have two : differsNote .readme (readmeFrom .localFile "a\nb\n") (readmeFrom .remote "c\nb\n") =
      .about .readme "differs" "local and remote readme differ (2 changed line(s)), showing both" := by
    decide +kernel
  refine ⟨asked, first, second, fun n => ?_⟩
  rw [← two]
  exact listed r locals remotes asked first second (.inr (by decide)) n

/-- One line more in the remote readme, of which both have the other line, and three changed lines. -/
theorem added_line_counts_three :
    let r : Request := { mode := .both, fetchRemote := true }
    let here := (readmeFrom .localFile "a\n").normalized.lines
    let there := (readmeFrom .remote "a\nb\n").normalized.lines
    (plan r (readmeIn .localFile "a\n") (readmeIn .remote "a\nb\n")).notes =
      [.about .readme "differs" "local and remote readme differ (3 changed line(s)), showing both"] ∧
    IsGreatest (commonLengths here there) 1 ∧ here.length + there.length - 2 * 1 = 1 := by
  intro r here there
  have shared : commonLength here there = 1 := by decide
  exact ⟨by decide +kernel, shared ▸ greatest_commonLength here there, by decide⟩

end ModuleDocs.Selection
