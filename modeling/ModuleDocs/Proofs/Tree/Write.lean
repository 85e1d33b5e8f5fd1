import ModuleDocs.Proofs.Keyed
import ModuleDocs.Proofs.Tree.Path
import ModuleDocs.Tree.Basic

namespace ModuleDocs.Tree

theorem get?_put_self (t : Tree) (place : List Text) (e : Entry) :
    (t.put place e).get? place = some e := by
  simp [get?, put, Keyed.lookup_put_self]

theorem get?_put_ne {t : Tree} {place other : List Text} (different : other ≠ place) {d : Entry}
    (there : t.get? other = some d) (e : Entry) : (t.put place e).get? other = some d := by
  unfold get? put at *
  simp only at there ⊢
  rw [Keyed.lookup_put_ne different]
  cases found : t.entries.lookup other with
  | some listed =>
    rw [found] at there
    exact there
  | none =>
    rw [found] at there
    simp only at there ⊢
    split at there
    case isTrue below =>
      rw [Keyed.any_put (fun p => other.isPrefixOf p), if_pos]
      · exact there
      · rw [Bool.or_eq_true] at below ⊢
        exact below.imp id fun any => by rw [any, Bool.or_true]
    case isFalse => contradiction

section
variable {t : Tree} {onLink : List Text → List Text → Option (List Text)}

/-- What a name leads to: up, into a folder, to a file at the end, or along a link. -/
inductive Walks (t : Tree) (onLink : List Text → List Text → Option (List Text))
    (place : List Text) (name : Text) (rest target : List Text) : Prop where
  | up : name = ['.', '.'] → place ≠ [] → t.walk? onLink place.dropLast rest = some target →
      Walks t onLink place name rest target
  | folder : name ≠ ['.', '.'] → t.get? (place ++ [name]) = some .folder →
      t.walk? onLink (place ++ [name]) rest = some target → Walks t onLink place name rest target
  | file (content : Bytes) : name ≠ ['.', '.'] →
      t.get? (place ++ [name]) = some (.file content) → rest = [] → place ++ [name] = target →
      Walks t onLink place name rest target
  | link (path : Text) (start names : List Text) : name ≠ ['.', '.'] →
      t.get? (place ++ [name]) = some (.link path) → t.linkStart? place path = some (start, names) →
      onLink start (names ++ rest) = some target → Walks t onLink place name rest target

theorem walk?_cons {place : List Text} {name : Text} {rest target : List Text} :
    t.walk? onLink place (name :: rest) = some target ↔ Walks t onLink place name rest target := by
  constructor
  · intro walked
    rw [walk?] at walked
    by_cases up : name = ['.', '.']
    case pos =>
      rw [if_pos up] at walked
      split at walked
      case isTrue => contradiction
      case isFalse inner => exact .up up (by simpa using inner) walked
    case neg =>
      rw [if_neg up] at walked
      cases found : t.get? (place ++ [name]) with
      | none => simp [found] at walked
      | some e =>
        simp only [found] at walked
        cases e with
        | folder => exact .folder up found walked
        | file content =>
          simp only [Option.ite_none_right_eq_some, List.isEmpty_iff, Option.some.injEq] at walked
          exact .file content up found walked.1 walked.2
        | link path =>
          obtain ⟨⟨start, names⟩, leads, walked⟩ := Option.bind_eq_some_iff.mp walked
          exact .link path start names up found leads walked
  · intro walks
    rw [walk?]
    cases walks with
    | up up inner walked => simp [up, inner, walked]
    | folder up found walked => simp [up, found, walked]
    | file content up found last here =>
      subst here
      simp [up, found, last]
    | link path start names up found leads walked => simp [up, found, leads, walked]

end

def Open (t : Tree) (place : List Text) : Prop :=
  ∀ p, p ≠ [] → p <+: place → t.get? p = some .folder

theorem open_base (t : Tree) : t.Open [] := by
  intro p nonempty start
  exact absurd (List.prefix_nil.mp start) nonempty

theorem Open.dropLast {t : Tree} {place : List Text} (h : t.Open place) : t.Open place.dropLast :=
  fun p nonempty start => h p nonempty (start.trans place.dropLast_prefix)

theorem Open.step {t : Tree} {place : List Text} {name : Text} (h : t.Open place)
    (folder : t.get? (place ++ [name]) = some .folder) : t.Open (place ++ [name]) := by
  intro p nonempty start
  rcases List.prefix_concat_iff.mp start with rfl | before
  · exact folder
  · exact h p nonempty before

theorem Open.linkStart? {t : Tree} {place start names : List Text} {path : Text} (h : t.Open place)
    (leads : t.linkStart? place path = some (start, names)) : t.Open start := by
  unfold Tree.linkStart? at leads
  split at leads
  case isTrue =>
    obtain ⟨inner, -, same⟩ := Option.map_eq_some_iff.mp leads
    rw [← (Prod.mk.inj same).1]
    exact t.open_base
  case isFalse =>
    rw [← (Prod.mk.inj (Option.some.inj leads)).1]
    exact h

/-- The place is one of a folder on an open way, or of a file. -/
def Lands (t : Tree) (place : List Text) : Prop :=
  t.Open place ∨ ∃ content, t.get? place = some (.file content)

theorem walk?_lands {t : Tree} {onLink : List Text → List Text → Option (List Text)}
    (linked : ∀ place names target, t.Open place → onLink place names = some target →
      t.Lands target) {place names target : List Text} (h : t.Open place)
    (walked : t.walk? onLink place names = some target) : t.Lands target := by
  induction names generalizing place with
  | nil =>
    obtain rfl := Option.some.inj walked
    exact .inl h
  | cons name rest ih =>
    cases walk?_cons.mp walked with
    | up _ _ walked => exact ih h.dropLast walked
    | folder _ found walked => exact ih (h.step found) walked
    | file content _ found _ here => exact .inr ⟨content, here ▸ found⟩
    | link path start names _ _ leads walked => exact linked _ _ _ (h.linkStart? leads) walked

theorem follow?_lands {t : Tree} {links : Nat} {place names target : List Text} (h : t.Open place)
    (walked : t.follow? links place names = some target) : t.Lands target := by
  induction links generalizing place names target with
  | zero => exact walk?_lands (fun _ _ _ _ none => by contradiction) h walked
  | succ links ih => exact walk?_lands (fun _ _ _ open_ linked => ih open_ linked) h walked

/-- The second tree has all that the first has, where files may have another content. -/
structure Grows (t t' : Tree) : Prop where
  base : t'.base = t.base
  kept : ∀ p e, p ≠ [] → t.get? p = some e → t'.get? p = some e ∨
    ∃ old new, e = .file old ∧ t'.get? p = some (.file new)

theorem Grows.folder {t t' : Tree} (h : Grows t t') {p : List Text} (nonempty : p ≠ [])
    (found : t.get? p = some .folder) : t'.get? p = some .folder := by
  rcases h.kept p _ nonempty found with same | ⟨_, _, impossible, _⟩
  · exact same
  · contradiction

theorem Grows.link {t t' : Tree} (h : Grows t t') {p : List Text} (nonempty : p ≠ []) {path : Text}
    (found : t.get? p = some (.link path)) : t'.get? p = some (.link path) := by
  rcases h.kept p _ nonempty found with same | ⟨_, _, impossible, _⟩
  · exact same
  · contradiction

theorem Grows.file {t t' : Tree} (h : Grows t t') {p : List Text} (nonempty : p ≠ [])
    {old : Bytes} (found : t.get? p = some (.file old)) : ∃ new, t'.get? p = some (.file new) := by
  rcases h.kept p _ nonempty found with same | ⟨_, new, _, changed⟩
  · exact ⟨old, same⟩
  · exact ⟨new, changed⟩

theorem Grows.linkStart? {t t' : Tree} (h : Grows t t') (place : List Text) (path : Text) :
    t'.linkStart? place path = t.linkStart? place path := by
  rw [Tree.linkStart?, Tree.linkStart?, h.base]

theorem Grows.walk? {t t' : Tree} (h : Grows t t')
    {onLink onLink' : List Text → List Text → Option (List Text)}
    (linked : ∀ place names target, onLink place names = some target →
      onLink' place names = some target) {place names target : List Text}
    (walked : t.walk? onLink place names = some target) :
    t'.walk? onLink' place names = some target := by
  induction names generalizing place with
  | nil => exact walked
  | cons name rest ih =>
    have nonempty : place ++ [name] ≠ [] := by simp
    apply walk?_cons.mpr
    cases walk?_cons.mp walked with
    | up up inner walked => exact .up up inner (ih walked)
    | folder down found walked => exact .folder down (h.folder nonempty found) (ih walked)
    | file old down found last here =>
      obtain ⟨new, changed⟩ := h.file nonempty found
      exact .file new down changed last here
    | link path start names down found leads walked =>
      rw [← h.linkStart?] at leads
      exact .link path start names down (h.link nonempty found) leads (linked _ _ _ walked)

theorem Grows.follow? {t t' : Tree} (h : Grows t t') {links : Nat} {place names target : List Text}
    (walked : t.follow? links place names = some target) :
    t'.follow? links place names = some target := by
  induction links generalizing place names target with
  | zero => exact h.walk? (fun _ _ _ none => by contradiction) walked
  | succ links ih => exact h.walk? (fun _ _ _ linked => ih linked) walked

theorem walk?_file {t : Tree} {onLink : List Text → List Text → Option (List Text)}
    {folder : List Text} {name : Text} {content : Bytes} (isFolder : t.get? folder = some .folder)
    (file : t.get? (folder ++ [name]) = some (.file content)) (notUp : name ≠ ['.', '.'])
    (linked : ∀ place names, onLink place names = some folder →
      onLink place (names ++ [name]) = some (folder ++ [name]))
    {place names : List Text} (walked : t.walk? onLink place names = some folder) :
    t.walk? onLink place (names ++ [name]) = some (folder ++ [name]) := by
  induction names generalizing place with
  | nil =>
    obtain rfl := Option.some.inj walked
    exact walk?_cons.mpr (.file content notUp file rfl rfl)
  | cons next rest ih =>
    rw [List.cons_append]
    apply walk?_cons.mpr
    cases walk?_cons.mp walked with
    | up up inner walked => exact .up up inner (ih walked)
    | folder down found walked => exact .folder down found (ih walked)
    | file other _ found _ here =>
      rw [here, isFolder] at found
      cases found
    | link path start names down found leads walked =>
      refine .link path start names down found leads ?_
      rw [← List.append_assoc]
      exact linked _ _ walked

theorem follow?_file {t : Tree} {folder : List Text} {name : Text} {content : Bytes}
    (isFolder : t.get? folder = some .folder)
    (file : t.get? (folder ++ [name]) = some (.file content)) (notUp : name ≠ ['.', '.'])
    {links : Nat} {place names : List Text} (walked : t.follow? links place names = some folder) :
    t.follow? links place (names ++ [name]) = some (folder ++ [name]) := by
  induction links generalizing place names with
  | zero => exact walk?_file isFolder file notUp (fun _ _ none => by contradiction) walked
  | succ links ih => exact walk?_file isFolder file notUp (fun _ _ linked => ih linked) walked

theorem place?_eq_some {t : Tree} {path : Text} {place : List Text} :
    t.place? path = some place ↔ ∃ inner, Path.below? t.base path = some inner ∧
      t.follow? maxLinks [] (Path.parts inner) = some place ∧
      (asksFolder path = true → t.get? place = some .folder) := by
  have asked : (!asksFolder path || t.get? place == some .folder) = true ↔
      (asksFolder path = true → t.get? place = some .folder) := by
    cases asksFolder path <;> simp
  simp only [place?, Option.bind_eq_some_iff, Option.filter_eq_some_iff, asked]

theorem grows_put {t : Tree} {place : List Text} (content : Bytes)
    (file : place ≠ [] → ∀ e, t.get? place = some e → ∃ old, e = .file old) :
    Grows t (t.put place (.file content)) where
  base := rfl
  kept := by
    intro p e nonempty found
    by_cases same : p = place
    case pos =>
      subst same
      obtain ⟨old, rfl⟩ := file nonempty e found
      exact .inr ⟨old, content, rfl, t.get?_put_self p _⟩
    case neg => exact .inl (get?_put_ne same found _)

theorem asksFolder_join (folder : Text) {name : Text} (h : Path.Name name) :
    asksFolder (Path.join folder name) = false := by
  have ends : name <:+ Path.join folder name := by
    rw [Path.join_name folder h]
    split
    · exact List.suffix_refl name
    · split
      · exact List.suffix_append _ _
      · exact (List.suffix_cons '/' name).trans (List.suffix_append _ _)
  have slash (s : Text) (suffix : '/' :: s <:+ Path.join folder name) :
      name.length < s.length + 1 := by
    rcases Nat.lt_or_ge name.length (s.length + 1) with short | long
    · exact short
    · have within : '/' :: s <:+ name := List.suffix_of_suffix_length_le suffix ends long
      exact absurd (within.subset List.mem_cons_self) h.single
  have some_ : 0 < name.length := List.length_pos_iff.mpr h.nonempty
  unfold asksFolder Text.endsWith
  rw [Bool.or_eq_false_iff]
  constructor
  · rw [Bool.eq_false_iff]
    intro suffix
    have short := slash [] (List.isSuffixOf_iff_suffix.mp suffix)
    rw [List.length_nil] at short
    omega
  · rw [Bool.eq_false_iff]
    intro suffix
    rw [List.isSuffixOf_iff_suffix] at suffix
    have short := slash ['.'] suffix
    rw [List.length_singleton] at short
    obtain ⟨c, rfl⟩ := List.length_eq_one_iff.mp (by omega : name.length = 1)
    obtain ⟨front, same⟩ : [c] <:+ ['/'] ++ ['.'] :=
      List.suffix_of_suffix_length_le ends suffix (by simp)
    exact h.notHere (List.append_inj_right' same rfl)

theorem bytes?_of_place? {t : Tree} {path : Text} {place : List Text} {content : Bytes}
    (found : t.place? path = some place) (file : t.get? place = some (.file content)) :
    t.bytes? path = some content := by
  rw [bytes?, found, Option.bind_some, file]

theorem place?_join {t : Tree} {folder inner : Text} {place : List Text} {name : Text} {content : Bytes}
    (h : Path.Name name) (below : Path.below? t.base folder = some inner)
    (walked : t.follow? maxLinks [] (Path.parts inner) = some place)
    (isFolder : t.get? place = some .folder)
    (file : t.get? (place ++ [name]) = some (.file content)) :
    t.place? (Path.join folder name) = some (place ++ [name]) := by
  obtain ⟨inner', below', parts⟩ := Path.below?_join below h
  refine place?_eq_some.mpr ⟨inner', below', ?_, fun asks => ?_⟩
  · rw [parts]
    exact follow?_file isFolder file h.notUp walked
  · rw [asksFolder_join folder h] at asks
    contradiction

theorem place?_put {t : Tree} {path : Text} {target : List Text}
    (found : t.place? path = some target) (notFolder : t.get? target ≠ some .folder)
    (content : Bytes) : (t.put target (.file content)).place? path = some target := by
  obtain ⟨inner, below, walked, asked⟩ := place?_eq_some.mp found
  have grows : Grows t (t.put target (.file content)) := by
    apply grows_put
    intro nonempty e there
    rcases follow?_lands t.open_base walked with open_ | ⟨old, file⟩
    · exact absurd (open_ target nonempty (List.prefix_refl target)) notFolder
    · exact ⟨old, Option.some.inj (there.symm.trans file)⟩
  exact place?_eq_some.mpr
    ⟨inner, below, grows.follow? walked, fun asks => absurd (asked asks) notFolder⟩

theorem place?_put_new {t : Tree} {folder : Text} {place : List Text} {name : Text}
    (h : Path.Name name) (found : t.folder? folder = some place)
    (free : t.get? (place ++ [name]) = none) (content : Bytes) :
    (t.put (place ++ [name]) (.file content)).place? (Path.join folder name) =
      some (place ++ [name]) := by
  obtain ⟨found, isFolder⟩ := Option.filter_eq_some_iff.mp found
  rw [beq_iff_eq] at isFolder
  obtain ⟨inner, below, walked, -⟩ := place?_eq_some.mp found
  have grows : Grows t (t.put (place ++ [name]) (.file content)) :=
    grows_put content fun _ e there => by rw [free] at there; cases there
  have different : place ≠ place ++ [name] := by simp
  exact place?_join h below (grows.follow? walked) (get?_put_ne different isFolder _) (get?_put_self _ _ _)

/-- What is written to a file is read from it. -/
theorem bytes?_writeFile? {t t' : Tree} {folder name : Text} {content : Bytes} (h : Path.Name name)
    (written : t.writeFile? folder name content = some t') :
    t'.bytes? (Path.join folder name) = some content := by
  obtain ⟨place, found, written⟩ := Option.bind_eq_some_iff.mp written
  cases there : t.place? (Path.join folder name) with
  | some target =>
    simp only [there, Option.ite_none_left_eq_some, Option.some.injEq] at written
    obtain ⟨notFolder, rfl⟩ := written
    exact bytes?_of_place? (place?_put there notFolder content) (get?_put_self _ _ _)
  | none =>
    simp only [there, Option.ite_none_right_eq_some, Option.isNone_iff_eq_none,
      Option.some.injEq] at written
    obtain ⟨free, rfl⟩ := written
    exact bytes?_of_place? (place?_put_new h found free content) (get?_put_self _ _ _)

theorem isSome_writeFile? (t : Tree) (folder name : Text) (content other : Bytes) :
    (t.writeFile? folder name content).isSome = (t.writeFile? folder name other).isSome := by
  unfold writeFile?
  cases t.folder? folder with
  | none => rfl
  | some place =>
    cases t.place? (Path.join folder name) <;> simp only [Option.bind_some] <;> split <;> rfl

end ModuleDocs.Tree
