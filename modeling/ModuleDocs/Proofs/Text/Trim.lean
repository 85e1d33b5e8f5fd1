import Mathlib.Data.List.DropRight
import ModuleDocs.Text.Basic

namespace ModuleDocs

theorem dropEndWhile_eq_rdropWhile {α : Type} (p : α → Bool) (xs : List α) :
    dropEndWhile p xs = xs.rdropWhile p := rfl

theorem dropEndWhile_append {α : Type} {p : α → Bool} {back : List α} (all : ∀ x ∈ back, p x = true)
    (front : List α) : dropEndWhile p (front ++ back) = dropEndWhile p front := by
  have reversed : ∀ x ∈ back.reverse, p x = true := fun x mem => all x (List.mem_reverse.mp mem)
  rw [dropEndWhile, dropEndWhile, List.reverse_append, List.dropWhile_append_of_pos reversed]

theorem dropEndWhile_append_eq {α : Type} {p : α → Bool} (front : List α) {back : List α}
    (nonempty : back ≠ []) (each : ∀ x ∈ back, p x = false) :
    dropEndWhile p (front ++ back) = front ++ back := by
  rw [dropEndWhile_eq_rdropWhile, List.rdropWhile_eq_self_iff]
  intro whole
  rw [List.getLast_append_of_ne_nil whole nonempty, each _ (List.getLast_mem nonempty)]
  exact Bool.false_ne_true

namespace Text

theorem isBlank_iff {s : Text} : isBlank s = true ↔ ∀ c ∈ s, isWhite c = true :=
  List.all_eq_true

theorem isBlank_cons (c : Char) (s : Text) : isBlank (c :: s) = (isWhite c && isBlank s) :=
  List.all_cons

theorem isBlank_append (s t : Text) : isBlank (s ++ t) = (isBlank s && isBlank t) :=
  List.all_append

theorem ne_nil_of_text {s : Text} (text : isBlank s = false) : s ≠ [] := by
  rintro rfl
  contradiction

theorem trimStart_eq_nil_iff {s : Text} : trimStart s = [] ↔ isBlank s = true :=
  List.dropWhile_eq_nil_iff.trans isBlank_iff.symm

theorem trimEnd_eq_nil_iff {s : Text} : trimEnd s = [] ↔ isBlank s = true := by
  rw [trimEnd, dropEndWhile_eq_rdropWhile]
  exact List.rdropWhile_eq_nil_iff.trans isBlank_iff.symm

theorem isPrefix_trimEnd (s : Text) : trimEnd s <+: s := List.rdropWhile_prefix isWhite s

theorem trimStart_append {w : Text} (blank : isBlank w = true) (s : Text) :
    trimStart (w ++ s) = trimStart s :=
  List.dropWhile_append_of_pos (isBlank_iff.mp blank)

theorem trimEnd_append {w : Text} (blank : isBlank w = true) (s : Text) :
    trimEnd (s ++ w) = trimEnd s := dropEndWhile_append (isBlank_iff.mp blank) s

theorem trimEnd_append_of_text {s : Text} (text : isBlank s = false) (before : Text) :
    trimEnd (before ++ s) = before ++ trimEnd s := by
  have stays : ¬ (s.reverse.dropWhile isWhite).isEmpty = true := by
    rw [List.isEmpty_iff, List.dropWhile_eq_nil_iff]
    simpa [isBlank] using text
  rw [trimEnd, trimEnd, dropEndWhile, dropEndWhile, List.reverse_append, List.dropWhile_append,
    if_neg stays, List.reverse_append, List.reverse_reverse]

theorem exists_trimStart (s : Text) : ∃ w, isBlank w = true ∧ s = w ++ trimStart s :=
  ⟨s.takeWhile isWhite, isBlank_iff.mpr fun _ mem => List.mem_takeWhile_imp mem,
    List.takeWhile_append_dropWhile.symm⟩

theorem exists_trimEnd (s : Text) : ∃ w, isBlank w = true ∧ s = trimEnd s ++ w := by
  obtain ⟨w, blank, split⟩ := exists_trimStart s.reverse
  refine ⟨w.reverse, ?_, ?_⟩
  · simpa [isBlank] using blank
  · have turned := congrArg List.reverse split
    rwa [List.reverse_reverse, List.reverse_append] at turned

theorem isBlank_trimStart (s : Text) : isBlank (trimStart s) = isBlank s := by
  obtain ⟨w, blank, split⟩ := exists_trimStart s
  rw [congrArg isBlank split, isBlank_append, blank, Bool.true_and]

theorem isBlank_trimEnd (s : Text) : isBlank (trimEnd s) = isBlank s := by
  obtain ⟨w, blank, split⟩ := exists_trimEnd s
  rw [congrArg isBlank split, isBlank_append, blank, Bool.and_true]

theorem trim_eq_nil_iff {s : Text} : trim s = [] ↔ isBlank s = true := by
  rw [trim, trimEnd_eq_nil_iff, isBlank_trimStart]

theorem trim_append_left {w : Text} (blank : isBlank w = true) (s : Text) :
    trim (w ++ s) = trim s := by
  rw [trim, trimStart_append blank, trim]

theorem trim_append_right {w : Text} (blank : isBlank w = true) (s : Text) :
    trim (s ++ w) = trim s := by
  unfold trim
  by_cases white : isBlank s = true
  case pos =>
    have all : isBlank (s ++ w) = true := by rw [isBlank_append, white, blank]; rfl
    rw [trimStart_eq_nil_iff.mpr all, trimStart_eq_nil_iff.mpr white]
  case neg =>
    have stays : (trimStart s).isEmpty = false := by
      rw [List.isEmpty_eq_false_iff, ne_eq, trimStart_eq_nil_iff]
      exact white
    have pushed : trimStart (s ++ w) = trimStart s ++ w := by
      rw [trimStart, List.dropWhile_append]
      exact if_neg (by rw [← trimStart, stays]; exact Bool.false_ne_true)
    rw [pushed, trimEnd_append blank]

theorem mem_trim {c : Char} (dark : isWhite c = false) {s : Text} (mem : c ∈ s) : c ∈ trim s := by
  obtain ⟨w, before, front⟩ := exists_trimStart s
  obtain ⟨v, behind, back⟩ := exists_trimEnd (trimStart s)
  rw [front, back, List.mem_append, List.mem_append] at mem
  rcases mem with mem | mem | mem
  · rw [isBlank_iff.mp before c mem] at dark
    contradiction
  · exact mem
  · rw [isBlank_iff.mp behind c mem] at dark
    contradiction

/-- Something other than white space stands at both ends. -/
structure Solid (s : Text) : Prop where
  nonempty : s ≠ []
  starts : trimStart s = s
  ends : trimEnd s = s

namespace Solid

variable {s t : Text}

theorem trim_eq (h : Solid s) : trim s = s := by rw [trim, h.starts, h.ends]

theorem trimStart_append_self (h : Solid s) (rest : Text) : trimStart (s ++ rest) = s ++ rest := by
  obtain ⟨c, more, rfl⟩ := List.exists_cons_of_ne_nil h.nonempty
  have notWhite : isWhite c = false := by
    rw [← Bool.not_eq_true]
    intro white
    have shorter := congrArg List.length h.starts
    rw [trimStart, List.dropWhile_cons_of_pos white] at shorter
    have bound := (List.dropWhile_suffix isWhite (l := more)).length_le
    rw [List.length_cons] at shorter
    omega
  rw [List.cons_append, trimStart, List.dropWhile_cons_of_neg (by rw [notWhite]; decide)]

theorem trimEnd_append_self (h : Solid s) (before : Text) :
    trimEnd (before ++ s) = before ++ s := by
  have turned : Solid s.reverse := by
    have back := congrArg List.reverse h.ends
    have front := congrArg List.reverse h.starts
    refine ⟨?_, ?_, ?_⟩
    · simpa using h.nonempty
    · rwa [trimEnd, dropEndWhile, List.reverse_reverse] at back
    · rwa [trimEnd, dropEndWhile, List.reverse_reverse]
  have kept := congrArg List.reverse (turned.trimStart_append_self before.reverse)
  rwa [← List.reverse_append, List.reverse_reverse] at kept

theorem isBlank_eq (h : Solid s) : isBlank s = false := by
  rw [← Bool.not_eq_true, ← trimStart_eq_nil_iff, h.starts]
  exact h.nonempty

theorem trimEnd_append_right (h : Solid s) (rest : Text) : trimEnd (s ++ rest) = s ++ trimEnd rest := by
  cases blank : isBlank rest with
  | true => rw [trimEnd_append blank, h.ends, trimEnd_eq_nil_iff.mpr blank, List.append_nil]
  | false => exact trimEnd_append_of_text blank s

theorem append (hs : Solid s) (ht : Solid t) (between : Text) : Solid (s ++ between ++ t) where
  nonempty := by simp [hs.nonempty]
  starts := by rw [List.append_assoc, hs.trimStart_append_self]
  ends := ht.trimEnd_append_self _

end Solid

theorem trimStart_trimStart (s : Text) : trimStart (trimStart s) = trimStart s :=
  List.dropWhile_idempotent isWhite s

theorem trimStart_trim (s : Text) : trimStart (trim s) = trim s := by
  obtain ⟨w, -, split⟩ := exists_trimEnd (trimStart s)
  rw [trim]
  cases begins : trimEnd (trimStart s) with
  | nil => rfl
  | cons c rest =>
    have start := trimStart_trimStart s
    rw [split, begins, List.cons_append] at start
    cases white : isWhite c with
    | false => rw [trimStart, List.dropWhile_cons_of_neg (by rw [white]; exact Bool.false_ne_true)]
    | true =>
      have shorter := congrArg List.length start
      rw [trimStart, List.dropWhile_cons_of_pos white] at shorter
      have bound := (List.dropWhile_suffix isWhite (l := rest ++ w)).length_le
      rw [List.length_cons] at shorter
      omega

theorem trimEnd_trimEnd (s : Text) : trimEnd (trimEnd s) = trimEnd s := by
  rw [trimEnd, trimEnd, dropEndWhile, dropEndWhile, List.reverse_reverse, List.dropWhile_idempotent]

theorem trim_trim (s : Text) : trim (trim s) = trim s := by
  rw [trim, trimStart_trim]
  exact trimEnd_trimEnd _

theorem solid_trim {s : Text} (nonempty : trim s ≠ []) : Solid (trim s) where
  nonempty := nonempty
  starts := trimStart_trim s
  ends := trimEnd_trimEnd (trimStart s)

theorem solid_intercalate (sep : Text) {parts : List Text} (nonempty : parts ≠ [])
    (each : ∀ t ∈ parts, Solid t) : Solid (sep.intercalate parts) := by
  induction parts with
  | nil => contradiction
  | cons t rest ih =>
    rw [List.forall_mem_cons] at each
    cases rest with
    | nil =>
      rw [List.intercalate_singleton]
      exact each.1
    | cons u more =>
      rw [List.intercalate_cons_cons]
      exact each.1.append (ih (by simp) each.2) sep

theorem solid_of_forall {s : Text} (nonempty : s ≠ []) (each : ∀ c ∈ s, isWhite c = false) :
    Solid s where
  nonempty := nonempty
  starts := by
    rw [trimStart, List.dropWhile_eq_self_iff]
    intro inside
    rw [each _ (List.getElem_mem inside)]
    decide
  ends := by
    rw [trimEnd, dropEndWhile_eq_rdropWhile, List.rdropWhile_eq_self_iff]
    intro inside
    rw [each _ (List.getLast_mem inside)]
    decide

theorem dark_of_all {s : Text} (all : s.all (fun c => !isWhite c) = true) :
    ∀ c ∈ s, isWhite c = false :=
  fun c mem => by simpa using List.all_eq_true.mp all c mem

theorem solid_of_all {s : Text} (nonempty : s ≠ []) (all : s.all (fun c => !isWhite c) = true) :
    Solid s :=
  solid_of_forall nonempty (dark_of_all all)

end Text
end ModuleDocs
