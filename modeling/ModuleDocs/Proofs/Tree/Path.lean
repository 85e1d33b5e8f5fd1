import ModuleDocs.Proofs.Text.Split
import ModuleDocs.Tree.Path

namespace ModuleDocs.Path
open Text

/-- A single part of a path that leads one step down. -/
structure Name (name : Text) : Prop where
  single : '/' ∉ name
  nonempty : name ≠ []
  notHere : name ≠ ['.']
  notUp : name ≠ ['.', '.']

instance (name : Text) : Decidable (Name name) :=
  decidable_of_iff ('/' ∉ name ∧ name ≠ [] ∧ name ≠ ['.'] ∧ name ≠ ['.', '.'])
    ⟨fun ⟨a, b, c, d⟩ => ⟨a, b, c, d⟩, fun ⟨a, b, c, d⟩ => ⟨a, b, c, d⟩⟩

theorem parts_append_slash (s rest : Text) : parts (s ++ '/' :: rest) = parts s ++ parts rest := by
  unfold parts
  rw [splitOn_append_cons, List.filter_append]

theorem parts_slash (rest : Text) : parts ('/' :: rest) = parts rest :=
  parts_append_slash [] rest

theorem parts_point_slash (rest : Text) : parts ('.' :: '/' :: rest) = parts rest :=
  parts_append_slash ['.'] rest

theorem parts_single {s : Text} (single : '/' ∉ s) :
    parts s = if s = [] ∨ s = ['.'] then [] else [s] := by
  unfold parts
  rw [splitOn_eq_singleton single]
  by_cases empty : s = [] <;> by_cases here : s = ['.'] <;> simp [empty, here]

theorem Name.parts_eq {name : Text} (h : Name name) : parts name = [name] := by
  rw [parts_single h.single, if_neg (not_or.mpr ⟨h.nonempty, h.notHere⟩)]

theorem parts_trimFront (fuel : Nat) (s : Text) : parts (trimFront fuel s) = parts s := by
  fun_induction trimFront fuel s with
  | case1 => rfl
  | case2 fuel rest ih => rw [ih, parts_slash]
  | case3 => rfl
  | case4 fuel rest ih => rw [ih, parts_point_slash]
  | case5 => rfl

def Trimmed (s : Text) : Prop :=
  s = [] ∨ s.takeWhile (· != '/') ≠ [] ∧ s.takeWhile (· != '/') ≠ ['.']

theorem trimmed_trimFront {fuel : Nat} {s : Text} (enough : s.length ≤ fuel) :
    Trimmed (trimFront fuel s) := by
  fun_induction trimFront fuel s with
  | case1 s => exact .inl (List.eq_nil_of_length_eq_zero (Nat.le_zero.mp enough))
  | case2 fuel rest ih => exact ih (Nat.le_of_succ_le_succ enough)
  | case3 => exact .inl rfl
  | case4 fuel rest ih =>
    apply ih
    simp only [List.length_cons] at enough
    omega
  | case5 fuel s notSlash notHere notPoint =>
    match s with
    | [] => exact .inl rfl
    | c :: rest =>
      have other : c ≠ '/' := fun same => notSlash rest (by rw [same])
      have first : (c :: rest).takeWhile (· != '/') = c :: rest.takeWhile (· != '/') := by
        simp [other]
      refine .inr ⟨by rw [first]; exact List.cons_ne_nil _ _, ?_⟩
      rw [first]
      intro here
      obtain ⟨rfl, nothing⟩ := List.cons.inj here
      match rest with
      | [] => exact notHere rfl
      | d :: more =>
        by_cases same : d = '/'
        · exact notPoint more (by rw [same])
        · simp [same] at nothing

theorem slash_notMem_takeWhile (s : Text) : '/' ∉ s.takeWhile (· != '/') := by
  induction s with
  | nil => exact List.not_mem_nil
  | cons c rest ih =>
    by_cases same : c = '/'
    case pos => simp [same]
    case neg => simpa [same, Ne.symm same] using ih

theorem dropWhile_slash (s : Text) : s.dropWhile (· != '/') = [] ∨
    ∃ rest, s.dropWhile (· != '/') = '/' :: rest := by
  induction s with
  | nil => exact .inl rfl
  | cons c rest ih =>
    by_cases same : c = '/'
    case pos => exact .inr ⟨rest, by simp [same]⟩
    case neg => simpa [same] using ih

theorem parts_afterPart (path : Text) : parts (afterPart path) = (parts path).drop 1 := by
  unfold afterPart
  have trimmed := trimmed_trimFront (Nat.le_refl path.length)
  rw [parts_trimFront, ← parts_trimFront path.length path]
  generalize trimFront path.length path = front at trimmed
  rcases trimmed with rfl | ⟨nonempty, notHere⟩
  · rfl
  · have whole := List.takeWhile_append_dropWhile (p := (· != '/')) (l := front)
    have word := parts_single (slash_notMem_takeWhile front)
    rw [if_neg (not_or.mpr ⟨nonempty, notHere⟩)] at word
    generalize front.takeWhile (· != '/') = first at whole word
    rcases dropWhile_slash front with nothing | ⟨rest, more⟩
    · rw [nothing, List.append_nil] at whole
      rw [nothing, ← whole, word]
      rfl
    · rw [more] at whole
      rw [more, ← whole, parts_slash, parts_append_slash, word]
      rfl

theorem parts_foldl_afterPart {α : Type} (folder : List α) (path : Text) :
    parts (folder.foldl (fun p _ => afterPart p) path) = (parts path).drop folder.length := by
  induction folder generalizing path with
  | nil => rfl
  | cons part rest ih =>
    rw [List.foldl_cons, ih, parts_afterPart, List.drop_drop, List.length_cons, Nat.add_comm]

theorem below?_eq_some {folder path inner : Text} (below : below? folder path = some inner) :
    isAbsolute folder = isAbsolute path ∧ parts folder <+: parts path ∧
      parts inner = (parts path).drop (parts folder).length := by
  unfold below? at below
  split at below
  case isTrue holds =>
    obtain rfl := Option.some.inj below
    refine ⟨holds.1, List.isPrefixOf_iff_prefix.mp holds.2, ?_⟩
    rw [parts_foldl_afterPart, parts_trimFront]
  case isFalse => contradiction

theorem join_relative (folder : Text) {path : Text} (relative : isAbsolute path = false) :
    join folder path = if folder.isEmpty then path
      else if folder.getLast? = some '/' then folder ++ path else folder ++ '/' :: path := by
  unfold join
  split
  case h_1 rest => contradiction
  case h_2 => rfl

theorem isAbsolute_join_relative (folder : Text) {path : Text} (relative : isAbsolute path = false) :
    isAbsolute (join folder path) = isAbsolute folder := by
  rw [join_relative folder relative]
  match folder with
  | [] => exact relative
  | c :: rest =>
    rw [if_neg (by simp)]
    split <;> rfl

theorem parts_join_relative (folder : Text) {path : Text} (relative : isAbsolute path = false) :
    parts (join folder path) = parts folder ++ parts path := by
  rw [join_relative folder relative]
  split
  case isTrue empty =>
    rw [List.isEmpty_iff] at empty
    rw [empty]
    rfl
  case isFalse =>
    split
    case isTrue slash =>
      obtain ⟨front, rfl⟩ := List.getLast?_eq_some_iff.mp slash
      rw [List.append_assoc, List.singleton_append, parts_append_slash, parts_append_slash]
      simp [parts, splitOn]
    case isFalse => rw [parts_append_slash]

theorem below?_join_relative {base folder inner : Text} (below : below? base folder = some inner)
    {path : Text} (relative : isAbsolute path = false) :
    ∃ inner', below? base (join folder path) = some inner' ∧ parts inner' = parts inner ++ parts path := by
  obtain ⟨absolute, start, rest⟩ := below?_eq_some below
  have start' : parts base <+: parts (join folder path) := by
    rw [parts_join_relative folder relative]
    exact start.trans (List.prefix_append _ _)
  have found : below? base (join folder path) = some _ := if_pos
    ⟨by rw [isAbsolute_join_relative folder relative, absolute], List.isPrefixOf_iff_prefix.mpr start'⟩
  refine ⟨_, found, ?_⟩
  rw [(below?_eq_some found).2.2, parts_join_relative folder relative, rest,
    List.drop_append_of_le_length start.length_le]

theorem Name.relative {name : Text} (h : Name name) : isAbsolute name = false := by
  obtain ⟨c, rest, rfl⟩ := List.exists_cons_of_ne_nil h.nonempty
  have other : c ≠ '/' := fun same => h.single (by simp [same])
  simp [isAbsolute, other]

theorem join_name (folder : Text) {name : Text} (h : Name name) :
    join folder name = if folder.isEmpty then name
      else if folder.getLast? = some '/' then folder ++ name else folder ++ '/' :: name :=
  join_relative folder h.relative

theorem parts_join (folder : Text) {name : Text} (h : Name name) :
    parts (join folder name) = parts folder ++ [name] := by
  rw [parts_join_relative folder h.relative, h.parts_eq]

theorem below?_join {base folder inner : Text} (below : below? base folder = some inner)
    {name : Text} (h : Name name) :
    ∃ inner', below? base (join folder name) = some inner' ∧
      parts inner' = parts inner ++ [name] := by
  rw [← h.parts_eq]
  exact below?_join_relative below h.relative

def lastPart (path : Text) : Text := (splitOn '/' path).getLastD []

theorem lastPart_single {s : Text} (single : '/' ∉ s) : lastPart s = s := by
  rw [lastPart, splitOn_eq_singleton single]
  rfl

theorem lastPart_append_slash (s rest : Text) : lastPart (s ++ '/' :: rest) = lastPart rest := by
  obtain ⟨first, more, whole⟩ := List.exists_cons_of_ne_nil (splitOn_ne_nil '/' rest)
  rw [lastPart, lastPart, splitOn_append_cons, whole, List.getLastD_eq_getLast?,
    List.getLastD_eq_getLast?, List.getLast?_append, List.getLast?_cons, Option.some_or]

theorem lastPart_join (folder : Text) {name : Text} (h : Name name) :
    lastPart (join folder name) = name := by
  have alone := lastPart_single h.single
  rw [join_name folder h]
  split
  case isTrue => exact alone
  case isFalse =>
    split
    case isTrue slash =>
      obtain ⟨front, rfl⟩ := List.getLast?_eq_some_iff.mp slash
      rw [List.append_assoc, List.singleton_append, lastPart_append_slash, alone]
    case isFalse => rw [lastPart_append_slash, alone]

theorem lastPart_suffix {path inner : Text} (suffix : inner <:+ path) (inside : '/' ∈ inner) :
    lastPart inner = lastPart path := by
  obtain ⟨front, rfl⟩ := suffix
  obtain ⟨a, b, rfl, -⟩ := List.eq_append_cons_of_mem inside
  rw [lastPart_append_slash, ← List.append_assoc, lastPart_append_slash]

theorem trimFront_suffix (fuel : Nat) (s : Text) : trimFront fuel s <:+ s := by
  fun_induction trimFront fuel s with
  | case1 => exact List.suffix_rfl
  | case2 fuel rest ih => exact ih.trans (List.suffix_cons _ _)
  | case3 => exact List.nil_suffix
  | case4 fuel rest ih => exact ih.trans ((List.suffix_cons _ _).trans (List.suffix_cons _ _))
  | case5 => exact List.suffix_rfl

theorem afterPart_suffix (path : Text) : afterPart path <:+ path :=
  (trimFront_suffix _ _).trans ((List.dropWhile_suffix _).trans (trimFront_suffix _ _))

theorem foldl_afterPart_suffix {α : Type} (folder : List α) (path : Text) :
    folder.foldl (fun p _ => afterPart p) path <:+ path := by
  induction folder generalizing path with
  | nil => exact List.suffix_rfl
  | cons part rest ih => exact (ih (afterPart path)).trans (afterPart_suffix path)

theorem below?_suffix {folder path inner : Text} (below : below? folder path = some inner) :
    inner <:+ path := by
  unfold below? at below
  split at below
  case isTrue =>
    obtain rfl := Option.some.inj below
    exact (foldl_afterPart_suffix _ _).trans (trimFront_suffix _ _)
  case isFalse => contradiction

theorem lastPart_below? {base folder name inner : Text} (h : Name name)
    (below : below? base (join folder name) = some inner) :
    lastPart inner = name ∨ lastPart inner = [] ∨ lastPart inner = ['.'] := by
  by_cases inside : '/' ∈ inner
  case pos => exact .inl ((lastPart_suffix (below?_suffix below) inside).trans (lastPart_join folder h))
  case neg =>
    have rest := (below?_eq_some below).2.2
    rw [parts_single inside, parts_join folder h] at rest
    rw [lastPart_single inside]
    split at rest
    case isTrue nothing => exact .inr nothing
    case isFalse =>
      have last := congrArg List.getLast? rest
      rw [List.getLast?_drop, List.getLast?_concat, List.getLast?_singleton] at last
      split at last
      case isTrue => contradiction
      case isFalse => exact .inl (Option.some.inj last)

end ModuleDocs.Path
