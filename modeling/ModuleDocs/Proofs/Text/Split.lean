import ModuleDocs.Text.Basic

namespace ModuleDocs.Text

theorem splitOn_ne_nil (sep : Char) (s : Text) : splitOn sep s ≠ [] := by
  induction s with
  | nil => simp [splitOn]
  | cons c rest ih =>
    rw [splitOn]
    split
    · simp
    · split <;> simp

theorem splitOn_cons_of_ne {sep c : Char} (other : c ≠ sep) (rest : Text) :
    ∃ part parts, splitOn sep rest = part :: parts ∧
      splitOn sep (c :: rest) = (c :: part) :: parts := by
  obtain ⟨part, parts, first⟩ := List.exists_cons_of_ne_nil (splitOn_ne_nil sep rest)
  exact ⟨part, parts, first, by rw [splitOn, if_neg other, first]⟩

theorem splitOn_cons_self (sep : Char) (rest : Text) :
    splitOn sep (sep :: rest) = [] :: splitOn sep rest := by
  rw [splitOn, if_pos rfl]

theorem splitOn_append_cons (sep : Char) (s rest : Text) :
    splitOn sep (s ++ sep :: rest) = splitOn sep s ++ splitOn sep rest := by
  induction s with
  | nil => exact splitOn_cons_self sep rest
  | cons c more ih =>
    rw [List.cons_append]
    by_cases same : c = sep
    case pos =>
      subst same
      rw [splitOn_cons_self, splitOn_cons_self, ih, List.cons_append]
    case neg =>
      obtain ⟨part, parts, first, whole⟩ := splitOn_cons_of_ne same (more ++ sep :: rest)
      obtain ⟨part', parts', first', whole'⟩ := splitOn_cons_of_ne same more
      rw [whole, whole', List.cons_append]
      rw [ih, first', List.cons_append, List.cons.injEq] at first
      rw [first.1, first.2]

theorem splitInduction (sep : Char) {motive : Text → Prop} (last : ∀ a, sep ∉ a → motive a)
    (more : ∀ a b, sep ∉ a → motive b → motive (a ++ sep :: b)) (s : Text) : motive s := by
  by_cases inside : sep ∈ s
  case neg => exact last s inside
  case pos =>
    obtain ⟨a, b, rfl, first⟩ := List.eq_append_cons_of_mem inside
    exact more a b first (splitInduction sep last more b)
termination_by s.length

theorem splitOn_eq_singleton {sep : Char} {s : Text} (absent : sep ∉ s) : splitOn sep s = [s] := by
  induction s with
  | nil => rfl
  | cons c rest ih =>
    rw [List.mem_cons, not_or] at absent
    rw [splitOn, if_neg (fun same => absent.1 same.symm), ih absent.2]

theorem notMem_of_mem_splitOn {sep : Char} {s part : Text} (mem : part ∈ splitOn sep s) :
    sep ∉ part := by
  induction s using splitInduction sep with
  | last a plain =>
    rw [splitOn_eq_singleton plain, List.mem_singleton] at mem
    exact mem ▸ plain
  | more a b plain ih =>
    rw [splitOn_append_cons, splitOn_eq_singleton plain, List.singleton_append,
      List.mem_cons] at mem
    rcases mem with rfl | mem
    · exact plain
    · exact ih mem

theorem splitOn_intercalate {sep : Char} {parts : List Text} (plain : ∀ s ∈ parts, sep ∉ s)
    (nonempty : parts ≠ []) : splitOn sep (List.intercalate [sep] parts) = parts := by
  induction parts with
  | nil => contradiction
  | cons s rest ih =>
    rw [List.forall_mem_cons] at plain
    cases rest with
    | nil => rw [List.intercalate_singleton, splitOn_eq_singleton plain.1]
    | cons t more =>
      rw [List.intercalate_cons_cons, List.append_assoc, List.singleton_append, splitOn_append_cons,
        splitOn_eq_singleton plain.1, ih plain.2 (List.cons_ne_nil _ _), List.singleton_append]

end ModuleDocs.Text
