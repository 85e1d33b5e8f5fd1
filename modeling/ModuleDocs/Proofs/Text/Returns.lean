import ModuleDocs.Proofs.Text.Lines

namespace ModuleDocs.Text

/-- A line without the carriage returns at its end. -/
def bare (line : Text) : Text := dropEndWhile (· == '\r') line

/-- A text without the carriage returns that stand, alone or in a row, right before a newline. -/
def bareBreaks : Text → Text
  | [] => []
  | c :: rest =>
    if c = '\r' ∧ (rest.dropWhile (· == '\r')).head? = some '\n' then bareBreaks rest
    else c :: bareBreaks rest

theorem bare_concat (line : Text) (c : Char) :
    bare (line ++ [c]) = if c = '\r' then bare line else line ++ [c] := by
  simp only [bare, dropEndWhile_eq_rdropWhile, List.rdropWhile_concat, beq_iff_eq]

theorem bare_return (line : Text) : bare (line ++ ['\r']) = bare line := by
  rw [bare_concat, if_pos rfl]

theorem bare_endedLine (line : Text) : bare (endedLine line) = bare line :=
  read_endedLine bare_return line

theorem read_bare {β : Type} {read : Text → β} (ended : ∀ l, read (l ++ ['\r']) = read l)
    (line : Text) : read (bare line) = read line := by
  induction line using List.reverseRecOn with
  | nil => rfl
  | append_singleton front c ih =>
    rw [bare_concat]
    split
    case isTrue same => rw [ih, same, ended]
    case isFalse => rfl

theorem map_of_map_bare {β : Type} (read : Text → β) (ended : ∀ l, read (l ++ ['\r']) = read l)
    {ls ms : List Text} (same : ls.map bare = ms.map bare) : ls.map read = ms.map read := by
  have through (ks : List Text) : ks.map read = (ks.map bare).map read := by
    rw [List.map_map]
    exact List.map_congr_left fun l _ => (read_bare ended l).symm
  rw [through ls, same, ← through ms]

theorem bare_eq_nil_iff (line : Text) : bare line = [] ↔ ∀ c ∈ line, c = '\r' := by
  rw [bare, dropEndWhile_eq_rdropWhile, List.rdropWhile_eq_nil_iff]
  simp

theorem bare_cons (c : Char) (rest : Text) :
    bare (c :: rest) = if c = '\r' ∧ bare rest = [] then [] else c :: bare rest := by
  induction rest using List.reverseRecOn with
  | nil => simpa [bare, dropEndWhile] using bare_concat [] c
  | append_singleton front d ih =>
    rw [← List.cons_append, bare_concat, bare_concat, ih]
    by_cases ended : d = '\r'
    case pos => rw [if_pos ended, if_pos ended]
    case neg => simp [ended]

theorem head?_dropWhile_returns {a : Text} (plain : '\n' ∉ a) (b : Text) :
    ((a ++ '\n' :: b).dropWhile (· == '\r')).head? = some '\n' ↔ bare a = [] := by
  induction a with
  | nil => simp [bare, dropEndWhile]
  | cons c rest ih =>
    rw [List.mem_cons, not_or] at plain
    rw [List.cons_append, List.dropWhile_cons, bare_eq_nil_iff, List.forall_mem_cons,
      ← bare_eq_nil_iff, ← ih plain.2]
    by_cases ended : c = '\r'
    case pos => simp [ended]
    case neg => simpa [ended] using fun same => plain.1 same.symm

theorem bareBreaks_append_newline {a : Text} (plain : '\n' ∉ a) (b : Text) :
    bareBreaks (a ++ '\n' :: b) = bare a ++ '\n' :: bareBreaks b := by
  induction a with
  | nil => rfl
  | cons c rest ih =>
    rw [List.mem_cons, not_or] at plain
    simp only [List.cons_append, bareBreaks, head?_dropWhile_returns plain.2, ih plain.2, bare_cons]
    split
    case isTrue ended => simp [ended.2]
    case isFalse => rfl

theorem bareBreaks_of_notMem {a : Text} (plain : '\n' ∉ a) : bareBreaks a = a := by
  induction a with
  | nil => rfl
  | cons c rest ih =>
    rw [List.mem_cons, not_or] at plain
    have none : (rest.dropWhile (· == '\r')).head? ≠ some '\n' := by
      intro first
      exact plain.2 ((List.dropWhile_suffix _).subset (List.mem_of_head? first))
    rw [bareBreaks, if_neg fun ended => none ended.2, ih plain.2]

theorem unlines_append_singleton_cons (l : Text) (ls : List Text) (last : Text) :
    unlines (l :: ls ++ [last]) = l ++ '\n' :: unlines (ls ++ [last]) := by
  obtain ⟨m, more, begins⟩ := List.exists_cons_of_ne_nil (show ls ++ [last] ≠ [] by simp)
  rw [List.cons_append, begins, unlines_cons_cons]

theorem bareBreaks_unlines {ls : List Text} {last : Text} (plain : ∀ l ∈ ls, '\n' ∉ l)
    (ends : '\n' ∉ last) :
    bareBreaks (unlines (ls ++ [last])) = unlines (ls.map bare ++ [last]) := by
  induction ls with
  | nil =>
    rw [List.map_nil, List.nil_append, unlines_singleton]
    exact bareBreaks_of_notMem ends
  | cons l rest ih =>
    rw [List.forall_mem_cons] at plain
    rw [unlines_append_singleton_cons, bareBreaks_append_newline plain.1, ih plain.2, List.map_cons,
      unlines_append_singleton_cons]

theorem lines_unlines {ls : List Text} {last : Text} (plain : ∀ l ∈ ls, '\n' ∉ l)
    (ends : '\n' ∉ last) (nonempty : last ≠ []) :
    (unlines (ls ++ [last])).lines = ls.map endedLine ++ [last] := by
  induction ls with
  | nil =>
    rw [List.map_nil, List.nil_append, unlines_singleton]
    exact lines_of_notMem ends nonempty
  | cons l rest ih =>
    rw [List.forall_mem_cons] at plain
    rw [unlines_append_singleton_cons, lines_append_newline plain.1, ih plain.2]
    rfl

end ModuleDocs.Text
