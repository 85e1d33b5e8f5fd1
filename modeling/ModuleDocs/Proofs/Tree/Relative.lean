import ModuleDocs.Proofs.Text.Trim
import ModuleDocs.Proofs.Tree.Path

namespace ModuleDocs
open Text

namespace Text

theorem trimBy_eq_self {p : Char → Bool} {s : Text} (first : ∀ c ∈ s.head?, p c = false)
    (last : ∀ c ∈ s.getLast?, p c = false) : trimBy p s = s ∧ dropEndWhile p s = s := by
  have back : dropEndWhile p s = s := by
    rw [dropEndWhile_eq_rdropWhile, List.rdropWhile_eq_self_iff]
    intro nonempty
    rw [last _ (List.getLast?_eq_getLast_of_ne_nil nonempty)]
    decide
  refine ⟨?_, back⟩
  cases s with
  | nil => rfl
  | cons c rest =>
    rw [trimBy, List.dropWhile_cons_of_neg (by rw [first c rfl]; decide), back]

end Text

namespace Path

theorem trimFront_eq_self {s : Text} (trimmed : Trimmed s) (fuel : Nat) : trimFront fuel s = s := by
  rcases trimmed with rfl | ⟨nonempty, notHere⟩
  · cases fuel <;> rfl
  · cases fuel with
    | zero => rfl
    | succ fuel =>
      unfold trimFront
      split
      case h_1 => simp at nonempty
      case h_2 => simp at notHere
      case h_3 => simp at notHere
      case h_4 => rfl

theorem trimFront_nothing {s : Text} (nothing : s = [] ∨ s = ['.']) (fuel : Nat) (rest : Text) :
    trimFront (fuel + 1) (s ++ '/' :: rest) = trimFront fuel rest := by
  rcases nothing with rfl | rfl <;> rfl

theorem takeWhile_single {s : Text} (single : '/' ∉ s) (rest : Text) :
    (s ++ '/' :: rest).takeWhile (· != '/') = s := by
  rw [List.takeWhile_append_of_pos fun c mem => bne_iff_ne.mpr (ne_of_mem_of_not_mem mem single),
    List.takeWhile_cons_of_neg (by simp), List.append_nil]

theorem trimmed_append_slash {s : Text} (single : '/' ∉ s) (part : ¬ (s = [] ∨ s = ['.'])) (rest : Text) :
    Trimmed (s ++ '/' :: rest) := by
  unfold Trimmed
  rw [takeWhile_single single]
  exact .inr (not_or.mp part)

theorem afterPart_append_slash {s : Text} (single : '/' ∉ s) (part : ¬ (s = [] ∨ s = ['.']))
    (rest : Text) : afterPart (s ++ '/' :: rest) = trimFront (s.length + rest.length) rest := by
  have behind : (s ++ '/' :: rest).dropWhile (· != '/') = '/' :: rest := by
    rw [List.dropWhile_append_of_pos fun c mem => bne_iff_ne.mpr (ne_of_mem_of_not_mem mem single),
      List.dropWhile_cons_of_neg (by simp)]
  unfold afterPart
  dsimp only
  rw [trimFront_eq_self (trimmed_append_slash single part rest), behind, List.length_append,
    List.length_cons, ← Nat.add_assoc]
  exact trimFront_nothing (.inl rfl) _ rest

theorem foldl_afterPart_append {path : Text} (trimmed : Trimmed path) (folder : Text) {fuel : Nat}
    (enough : (folder ++ '/' :: path).length ≤ fuel) :
    (parts folder).foldl (fun p _ => afterPart p) (trimFront fuel (folder ++ '/' :: path)) = path := by
  induction folder using splitInduction '/' generalizing fuel with
  | last s single =>
    obtain ⟨fuel, rfl⟩ : ∃ n, fuel = n + 1 :=
      Nat.exists_eq_succ_of_ne_zero (by rw [List.length_append, List.length_cons] at enough; omega)
    rw [parts_single single]
    by_cases part : s = [] ∨ s = ['.']
    case pos =>
      rw [if_pos part, trimFront_nothing part, trimFront_eq_self trimmed]
      rfl
    case neg =>
      rw [if_neg part, trimFront_eq_self (trimmed_append_slash single part path)]
      exact (afterPart_append_slash single part path).trans (trimFront_eq_self trimmed _)
  | more s rest single ih =>
    rw [List.append_assoc, List.cons_append, List.length_append, List.length_cons] at enough
    obtain ⟨fuel, rfl⟩ : ∃ n, fuel = n + 1 := Nat.exists_eq_succ_of_ne_zero (by omega)
    rw [parts_append_slash, List.append_assoc, List.cons_append, parts_single single]
    by_cases part : s = [] ∨ s = ['.']
    case pos =>
      rw [if_pos part, List.nil_append, trimFront_nothing part]
      exact ih (by omega)
    case neg =>
      rw [if_neg part, trimFront_eq_self (trimmed_append_slash single part _), List.singleton_append,
        List.foldl_cons, afterPart_append_slash single part]
      exact ih (Nat.le_add_left _ _)

theorem relative_of_trimmed {path : Text} (trimmed : Trimmed path) : isAbsolute path = false := by
  rcases trimmed with rfl | ⟨nonempty, -⟩
  · rfl
  · match path with
    | [] => rfl
    | c :: rest =>
      have other : c ≠ '/' := by
        rintro rfl
        simp at nonempty
      simp [isAbsolute, other]

theorem exists_join (folder : Text) : ∃ front, (front = [] ∨ front.getLast? = some '/') ∧
    ∀ path, isAbsolute path = false → join folder path = front ++ path := by
  by_cases empty : folder.isEmpty = true
  case pos =>
    refine ⟨[], .inl rfl, fun path relative => ?_⟩
    rw [join_relative folder relative, if_pos empty, List.nil_append]
  case neg =>
    by_cases slash : folder.getLast? = some '/'
    case pos =>
      refine ⟨folder, .inr slash, fun path relative => ?_⟩
      rw [join_relative folder relative, if_neg empty, if_pos slash]
    case neg =>
      refine ⟨folder ++ ['/'], .inr List.getLast?_concat, fun path relative => ?_⟩
      rw [join_relative folder relative, if_neg empty, if_neg slash, List.append_assoc, List.singleton_append]

theorem below?_join_self (folder : Text) {path : Text} (trimmed : Trimmed path) :
    below? folder (join folder path) = some path := by
  have relative := relative_of_trimmed trimmed
  have start : parts folder <+: parts (join folder path) := by
    rw [parts_join_relative folder relative]
    exact List.prefix_append _ _
  unfold below?
  rw [if_pos ⟨(isAbsolute_join_relative folder relative).symm, List.isPrefixOf_iff_prefix.mpr start⟩,
    join_relative folder relative]
  apply congrArg some
  split
  case isTrue empty =>
    rw [List.isEmpty_iff] at empty
    rw [empty]
    exact trimFront_eq_self trimmed _
  case isFalse =>
    split
    case isTrue slash =>
      obtain ⟨front, rfl⟩ := List.getLast?_eq_some_iff.mp slash
      have same : parts (front ++ ['/']) = parts front :=
        (parts_append_slash front []).trans (List.append_nil _)
      rw [same, List.append_assoc, List.singleton_append]
      exact foldl_afterPart_append trimmed front (Nat.le_refl _)
    case isFalse => exact foldl_afterPart_append trimmed folder (Nat.le_refl _)

theorem ofParts_concat (names : List Text) (name : Text) :
    ofParts (names ++ [name]) = if names = [] then name else ofParts names ++ '/' :: name := by
  unfold ofParts
  induction names with
  | nil => rw [if_pos rfl, List.nil_append, List.intercalate_singleton]
  | cons first rest ih =>
    rw [if_neg (List.cons_ne_nil first rest), List.cons_append]
    cases rest with
    | nil =>
      rw [List.nil_append, List.intercalate_cons_cons, List.intercalate_singleton,
        List.intercalate_singleton, List.append_assoc, List.singleton_append]
    | cons second more =>
      rw [if_neg (List.cons_ne_nil second more), List.cons_append] at ih
      rw [List.cons_append, List.intercalate_cons_cons, ih, List.intercalate_cons_cons]
      simp only [List.append_assoc]

theorem mem_ofParts {c : Char} (other : c ≠ '/') {names : List Text} (mem : c ∈ ofParts names) :
    ∃ name ∈ names, c ∈ name := by
  unfold ofParts at mem
  induction names with
  | nil => contradiction
  | cons first rest ih =>
    cases rest with
    | nil =>
      rw [List.intercalate_singleton] at mem
      exact ⟨first, List.mem_cons_self, mem⟩
    | cons second more =>
      rw [List.intercalate_cons_cons, List.append_assoc, List.mem_append, List.mem_append,
        List.mem_singleton] at mem
      rcases mem with here | same | later
      · exact ⟨first, List.mem_cons_self, here⟩
      · exact absurd same other
      · obtain ⟨name, inside, mem⟩ := ih later
        exact ⟨name, List.mem_cons_of_mem first inside, mem⟩

section
variable {names : List Text} (each : ∀ name ∈ names, Name name)
include each

theorem splitOn_ofParts (nonempty : names ≠ []) : splitOn '/' (ofParts names) = names :=
  splitOn_intercalate (fun name mem => (each name mem).single) nonempty

theorem ofParts_injective {names' : List Text} (each' : ∀ name ∈ names', Name name) (nonempty : names ≠ [])
    (nonempty' : names' ≠ []) (same : ofParts names = ofParts names') : names = names' := by
  rw [← splitOn_ofParts each nonempty, same, splitOn_ofParts each' nonempty']

theorem ofParts_ne_nil (nonempty : names ≠ []) : ofParts names ≠ [] := by
  intro nothing
  have split := splitOn_ofParts each nonempty
  rw [nothing] at split
  exact (each [] (split ▸ List.mem_singleton_self [])).nonempty rfl

theorem parts_ofParts : parts (ofParts names) = names := by
  by_cases empty : names = []
  case pos => subst empty; rfl
  case neg =>
    rw [parts, splitOn_ofParts each empty, List.filter_eq_self]
    intro name mem
    simp [(each name mem).nonempty, (each name mem).notHere]

theorem trimmed_ofParts : Trimmed (ofParts names) := by
  cases names with
  | nil => exact .inl rfl
  | cons first rest =>
    obtain ⟨single, nonempty, notHere, -⟩ := each first List.mem_cons_self
    cases rest with
    | nil =>
      have whole : first.takeWhile (· != '/') = first :=
        List.takeWhile_eq_self_iff.mpr fun c mem => bne_iff_ne.mpr (ne_of_mem_of_not_mem mem single)
      rw [ofParts, List.intercalate_singleton]
      exact .inr (by rw [whole]; exact ⟨nonempty, notHere⟩)
    | cons second more =>
      rw [ofParts, List.intercalate_cons_cons, List.append_assoc, List.singleton_append]
      exact trimmed_append_slash single (not_or.mpr ⟨nonempty, notHere⟩) _

theorem head?_ofParts : ∀ c ∈ (ofParts names).head?, c ≠ '/' := by
  have relative := relative_of_trimmed (trimmed_ofParts each)
  rintro c first rfl
  rw [isAbsolute, Option.mem_def.mp first] at relative
  contradiction

theorem getLast?_ofParts : ∀ c ∈ (ofParts names).getLast?, c ≠ '/' := by
  rcases List.eq_nil_or_concat names with rfl | ⟨front, name, rfl⟩
  · intro c last
    contradiction
  · rw [List.concat_eq_append] at each ⊢
    have named := each name (by simp)
    have ends : (ofParts (front ++ [name])).getLast? = name.getLast? := by
      rw [ofParts_concat]
      split
      case isTrue => rfl
      case isFalse =>
        rw [← List.singleton_append, ← List.append_assoc]
        exact List.getLast?_append_of_ne_nil _ named.nonempty
    rintro c last rfl
    rw [ends] at last
    exact named.single (List.mem_of_getLast? last)

theorem trimBy_ofParts : trimBy (· == '/') (ofParts names) = ofParts names ∧
    dropEndWhile (· == '/') (ofParts names) = ofParts names :=
  trimBy_eq_self (fun c first => beq_eq_false_iff_ne.mpr (head?_ofParts each c first))
    fun c last => beq_eq_false_iff_ne.mpr (getLast?_ofParts each c last)

theorem join_join (folder : Text) {name : Text} (named : Name name) :
    join (join folder (ofParts names)) name = join folder (ofParts (names ++ [name])) := by
  have longer : isAbsolute (ofParts (names ++ [name])) = false := by
    refine relative_of_trimmed (trimmed_ofParts ?_)
    simpa [or_imp, forall_and] using ⟨each, named⟩
  obtain ⟨front, ends, joined⟩ := exists_join folder
  rw [joined _ (relative_of_trimmed (trimmed_ofParts each)), joined _ longer, ofParts_concat,
    join_name _ named]
  by_cases empty : names = []
  case pos =>
    subst empty
    have nothing : ofParts [] = [] := rfl
    rw [if_pos rfl, nothing, List.append_nil]
    rcases ends with rfl | slash
    · rfl
    · rw [if_pos slash]
      split
      case isTrue none => rw [List.isEmpty_iff.mp none]; rfl
      case isFalse => rfl
  case neg =>
    have inner := ofParts_ne_nil each empty
    have plain : (front ++ ofParts names).getLast? ≠ some '/' := by
      rw [List.getLast?_append_of_ne_nil _ inner]
      exact fun slash => getLast?_ofParts each '/' slash rfl
    rw [if_neg empty, if_neg (by simp [inner]), if_neg plain, List.append_assoc]

end
end Path
end ModuleDocs
