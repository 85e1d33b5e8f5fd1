import ModuleDocs.Proofs.Text.Returns

namespace ModuleDocs.Text

def kept (ls : List Text) : List Text := dropEndWhile isBlank (ls.dropWhile isBlank)

theorem joinTrimmed_eq (ls : List Text) : joinTrimmed ls = unlines (kept ls) := rfl

/-- No blank line stands at either end. -/
structure Edged (ls : List Text) : Prop where
  first : ∀ l ∈ ls.head?, isBlank l = false
  last : ∀ l ∈ ls.getLast?, isBlank l = false

theorem exists_dropEndWhile_blank (ls : List Text) :
    ∃ gap, ls = dropEndWhile isBlank ls ++ gap ∧ ∀ l ∈ gap, isBlank l = true := by
  refine ⟨(ls.reverse.takeWhile isBlank).reverse, ?_, fun l mem => ?_⟩
  · rw [dropEndWhile, ← List.reverse_append, List.takeWhile_append_dropWhile, List.reverse_reverse]
  · exact List.mem_takeWhile_imp (List.mem_reverse.mp mem)

theorem exists_kept (ls : List Text) :
    ∃ lead gap, ls = lead ++ kept ls ++ gap ∧ (∀ l ∈ lead, isBlank l = true) ∧
      ∀ l ∈ gap, isBlank l = true := by
  obtain ⟨gap, rest, blank⟩ := exists_dropEndWhile_blank (ls.dropWhile isBlank)
  refine ⟨ls.takeWhile isBlank, gap, ?_, fun l mem => List.mem_takeWhile_imp mem, blank⟩
  rw [List.append_assoc, kept, ← rest, List.takeWhile_append_dropWhile]

theorem mem_of_mem_kept {ls : List Text} {l : Text} (mem : l ∈ kept ls) : l ∈ ls := by
  obtain ⟨lead, gap, split, -, -⟩ := exists_kept ls
  rw [split]
  exact List.mem_append_left _ (List.mem_append_right _ mem)

theorem mem_kept {ls : List Text} {l : Text} (mem : l ∈ ls) (text : isBlank l = false) :
    l ∈ kept ls := by
  obtain ⟨lead, gap, split, front, behind⟩ := exists_kept ls
  rw [split, List.mem_append, List.mem_append] at mem
  rcases mem with (mem | mem) | mem
  · rw [front l mem] at text
    contradiction
  · exact mem
  · rw [behind l mem] at text
    contradiction

theorem joinTrimmed_ne_nil {ls : List Text} (line : Text) (mem : line ∈ ls)
    (text : isBlank line = false) : joinTrimmed ls ≠ [] := by
  obtain ⟨c, rest, begins⟩ := List.exists_cons_of_ne_nil (ne_nil_of_text text)
  have inside := mem_unlines (c := c) (mem_kept mem text) (begins ▸ List.mem_cons_self)
  exact List.ne_nil_of_mem inside

theorem kept_append_left {gap : List Text} (blank : ∀ l ∈ gap, isBlank l = true) (ls : List Text) :
    kept (gap ++ ls) = kept ls := by
  rw [kept, List.dropWhile_append_of_pos blank, kept]

theorem kept_append_right {gap : List Text} (blank : ∀ l ∈ gap, isBlank l = true)
    (ls : List Text) : kept (ls ++ gap) = kept ls := by
  rw [kept, kept, List.dropWhile_append]
  split
  case isTrue empty => rw [List.isEmpty_iff.mp empty, List.dropWhile_eq_nil_iff.mpr blank]
  case isFalse => exact dropEndWhile_append blank _

theorem edged_kept (ls : List Text) : Edged (kept ls) where
  first l mem := by
    have head := List.head?_dropWhile_not isBlank ls
    obtain ⟨gap, rest, -⟩ := exists_dropEndWhile_blank (ls.dropWhile isBlank)
    rw [kept] at mem
    rw [rest] at head
    cases begins : dropEndWhile isBlank (ls.dropWhile isBlank) with
    | nil =>
      rw [begins] at mem
      contradiction
    | cons k more =>
      rw [begins] at mem head
      cases mem
      simpa using head
  last l mem := by
    have head := List.head?_dropWhile_not isBlank (ls.dropWhile isBlank).reverse
    rw [kept, dropEndWhile, List.getLast?_reverse] at mem
    rw [Option.mem_def.mp mem] at head
    simpa using head

theorem Edged.congr {ls ms : List Text} (h : Edged ms) (same : ls.map isBlank = ms.map isBlank) :
    Edged ls where
  first l mem := by
    have first := congrArg List.head? same
    rw [List.head?_map, List.head?_map, Option.mem_def.mp mem] at first
    obtain ⟨k, begins, blank⟩ := Option.map_eq_some_iff.mp first.symm
    rw [← blank, h.first k begins]
  last l mem := by
    have last := congrArg List.getLast? same
    rw [List.getLast?_map, List.getLast?_map, Option.mem_def.mp mem] at last
    obtain ⟨k, ends, blank⟩ := Option.map_eq_some_iff.mp last.symm
    rw [← blank, h.last k ends]

theorem Edged.kept_eq {ls : List Text} (h : Edged ls) : kept ls = ls := by
  have front : ls.dropWhile isBlank = ls := by
    rw [List.dropWhile_eq_self_iff]
    intro inside
    have first := h.first ls[0] (by rw [List.head?_eq_getElem?]; simp [inside])
    rw [first]
    exact Bool.false_ne_true
  rw [kept, front, dropEndWhile_eq_rdropWhile, List.rdropWhile_eq_self_iff]
  intro inside
  rw [h.last _ (List.getLast_mem_getLast? inside)]
  exact Bool.false_ne_true

theorem kept_map {read : Text → Text} {ls : List Text}
    (same : ∀ l ∈ ls, isBlank (read l) = isBlank l) : kept (ls.map read) = (kept ls).map read := by
  obtain ⟨lead, gap, split, before, behind⟩ := exists_kept ls
  have blanks {front : List Text} (inside : ∀ l ∈ front, l ∈ ls)
      (blank : ∀ l ∈ front, isBlank l = true) : ∀ l ∈ front.map read, isBlank l = true := by
    intro l mem
    obtain ⟨k, there, rfl⟩ := List.mem_map.mp mem
    rw [same k (inside k there), blank k there]
  have edged : Edged ((kept ls).map read) := (edged_kept ls).congr (by
    rw [List.map_map]
    exact List.map_congr_left fun l mem => same l (mem_of_mem_kept mem))
  calc kept (ls.map read) = kept (lead.map read ++ (kept ls).map read ++ gap.map read) := by
        rw [← List.map_append, ← List.map_append, ← split]
    _ = kept ((kept ls).map read) := by
        rw [kept_append_right, kept_append_left]
        · exact blanks (fun l mem => by rw [split]; simp [mem]) before
        · exact blanks (fun l mem => by rw [split]; simp [mem]) behind
    _ = (kept ls).map read := edged.kept_eq

theorem filter_map_trim_kept (ls : List Text) :
    ((kept ls).map trim).filter (fun l => !l.isEmpty) =
      (ls.map trim).filter fun l => !l.isEmpty := by
  obtain ⟨lead, gap, split, before, behind⟩ := exists_kept ls
  have none {blanks : List Text} (blank : ∀ l ∈ blanks, isBlank l = true) :
      (blanks.map trim).filter (fun l => !l.isEmpty) = [] := by
    rw [List.filter_eq_nil_iff]
    intro l mem
    obtain ⟨k, there, rfl⟩ := List.mem_map.mp mem
    simp [trim_eq_nil_iff.mpr (blank k there)]
  calc ((kept ls).map trim).filter (fun l => !l.isEmpty)
      = ((lead ++ kept ls ++ gap).map trim).filter (fun l => !l.isEmpty) := by
        rw [List.map_append, List.map_append, List.filter_append, List.filter_append, none before,
          none behind, List.nil_append, List.append_nil]
    _ = (ls.map trim).filter fun l => !l.isEmpty := by rw [← split]

theorem getLast?_kept (front : List Text) {line : Text} (text : isBlank line = false) :
    (kept (front ++ [line])).getLast? = some line := by
  have ends : ∃ rest, (front ++ [line]).dropWhile isBlank = rest ++ [line] := by
    rw [List.dropWhile_append]
    split
    case isTrue => exact ⟨[], by simp [text]⟩
    case isFalse => exact ⟨_, rfl⟩
  obtain ⟨rest, ends⟩ := ends
  rw [kept, ends, dropEndWhile_eq_rdropWhile, List.rdropWhile_concat_neg _ _ _ (by simp [text]),
    List.getLast?_concat]

theorem Edged.lines_unlines {ls : List Text} (h : Edged ls) (plain : ∀ l ∈ ls, '\n' ∉ l) :
    (unlines ls).lines = ls.dropLast.map endedLine ++ ls.getLast?.toList := by
  rcases List.eq_nil_or_concat' ls with rfl | ⟨init, last, rfl⟩
  · rfl
  · have ends : '\n' ∉ last := plain last (by simp)
    have text : isBlank last = false := h.last last (by simp)
    rw [Text.lines_unlines (fun l mem => plain l (List.mem_append_left _ mem)) ends
      (ne_nil_of_text text)]
    simp

theorem lines_joinTrimmed {ls : List Text} (plain : ∀ l ∈ ls, '\n' ∉ l)
    (ends : ∀ l ∈ ls, trimEnd l = l) : (joinTrimmed ls).lines = kept ls := by
  have same : ∀ l ∈ (kept ls).dropLast, endedLine l = id l := fun l mem =>
    endedLine_of_ends (ends l (mem_of_mem_kept (List.dropLast_subset _ mem)))
  rw [joinTrimmed_eq, (edged_kept ls).lines_unlines fun l mem => plain l (mem_of_mem_kept mem),
    List.map_congr_left same, List.map_id]
  rcases List.eq_nil_or_concat' (kept ls) with none | ⟨init, last, split⟩
  · rw [none]
    rfl
  · rw [split, List.dropLast_concat, List.getLast?_concat]
    rfl

theorem isBlank_return (line : Text) : isBlank (line ++ ['\r']) = isBlank line := by
  rw [isBlank_append]
  exact Bool.and_true _

theorem isBlank_of_lines {s : Text} (blank : ∀ l ∈ s.lines, isBlank l = true) : isBlank s = true := by
  induction s using lineInduction with
  | last a plain =>
    by_cases empty : a = []
    case pos =>
      subst empty
      rfl
    case neg =>
      rw [lines_of_notMem plain empty] at blank
      exact blank a List.mem_cons_self
  | more a b plain ih =>
    rw [lines_append_newline plain, List.forall_mem_cons, read_endedLine isBlank_return] at blank
    rw [isBlank_append, blank.1, isBlank_cons, ih blank.2]
    rfl

theorem edges_joinTrimmed {ls : List Text} (plain : ∀ l ∈ ls, '\n' ∉ l)
    (nonempty : joinTrimmed ls ≠ []) :
    ∃ first last, (joinTrimmed ls).lines.head? = some first ∧ isBlank first = false ∧
      (joinTrimmed ls).lines.getLast? = some last ∧ isBlank last = false := by
  have edged := edged_kept ls
  have inner : ∀ l ∈ kept ls, '\n' ∉ l := fun l mem => plain l (mem_of_mem_kept mem)
  rw [joinTrimmed_eq] at nonempty ⊢
  have read := edged.lines_unlines inner
  have same : (unlines (kept ls)).lines.map isBlank = (kept ls).map isBlank := by
    rw [read]
    rcases List.eq_nil_or_concat' (kept ls) with none | ⟨init, last, split⟩
    · rw [none]
      rfl
    · simp [split, read_endedLine isBlank_return]
  have some : (unlines (kept ls)).lines ≠ [] := by
    rw [ne_eq, ← List.map_eq_nil_iff, same, List.map_eq_nil_iff]
    intro none
    rw [none] at nonempty
    exact nonempty rfl
  have again := edged.congr same
  exact ⟨_, _, List.head?_eq_some_head some, again.first _ (List.head?_eq_some_head some),
    List.getLast?_eq_some_getLast some, again.last _ (List.getLast?_eq_some_getLast some)⟩

end ModuleDocs.Text
