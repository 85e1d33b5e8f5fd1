import ModuleDocs.Proofs.Keyed
import ModuleDocs.Proofs.Tree.Relative
import ModuleDocs.Proofs.Tree.Write

namespace ModuleDocs

def Entry.text? : Entry → Option Text
  | .file bytes => Utf8.decode? bytes
  | _ => none

namespace Tree

/-- Folders and text files, each at a place of its own, and nothing below a file. On the way to a file no
name holds a backslash, which a path that is shown has as a separator. -/
structure OfTexts (t : Tree) : Prop where
  named : ∀ e ∈ t.entries, ∀ name ∈ e.1, Path.Name name
  plain : ∀ e ∈ t.entries, e.2 ≠ .folder → ∀ name ∈ e.1, '\\' ∉ name
  distinct : (t.entries.map (·.1)).Nodup
  texts : ∀ e ∈ t.entries, e.2 = .folder ∨ e.2.text?.isSome
  closed : ∀ e ∈ t.entries, e.2 ≠ .folder → ∀ e' ∈ t.entries, e.1 <+: e'.1 → e'.1 = e.1

instance (t : Tree) : Decidable t.OfTexts :=
  decidable_of_iff ((∀ e ∈ t.entries, ∀ name ∈ e.1, Path.Name name) ∧
      (∀ e ∈ t.entries, e.2 ≠ .folder → ∀ name ∈ e.1, '\\' ∉ name) ∧ (t.entries.map (·.1)).Nodup ∧
      (∀ e ∈ t.entries, e.2 = .folder ∨ e.2.text?.isSome) ∧
      ∀ e ∈ t.entries, e.2 ≠ .folder → ∀ e' ∈ t.entries, e.1 <+: e'.1 → e'.1 = e.1)
    ⟨fun ⟨a, b, c, d, e⟩ => ⟨a, b, c, d, e⟩, fun ⟨a, b, c, d, e⟩ => ⟨a, b, c, d, e⟩⟩

theorem leaves_eq (t : Tree) (place : List Text) : ∃ leaf : List Text × Entry → Option Leaf,
    t.leaves place = t.entries.filterMap leaf ∧
      ∀ e l, leaf e = some l ↔ l.names ≠ [] ∧ e = (place ++ l.names, .file l.content) := by
  refine ⟨_, rfl, ?_⟩
  rintro ⟨p, entry⟩ ⟨names, content⟩
  constructor
  · intro found
    dsimp only at found
    split at found
    case h_1 content' name rest below =>
      cases found
      rw [List.isPrefixOf?_eq_some_iff_append_eq] at below
      exact ⟨List.cons_ne_nil _ _, by rw [below]⟩
    case h_2 => contradiction
  · rintro ⟨nonempty, same⟩
    cases same
    obtain ⟨name, rest, rfl⟩ := List.exists_cons_of_ne_nil nonempty
    have below : place.isPrefixOf? (place ++ name :: rest) = some (name :: rest) :=
      List.isPrefixOf?_eq_some_iff_append_eq.mpr rfl
    simp only [below]

theorem mem_leaves {t : Tree} {place : List Text} {l : Leaf} : l ∈ t.leaves place ↔
    l.names ≠ [] ∧ (place ++ l.names, .file l.content) ∈ t.entries := by
  obtain ⟨leaf, leaves, read⟩ := t.leaves_eq place
  rw [leaves, List.mem_filterMap]
  constructor
  · rintro ⟨e, mem, found⟩
    obtain ⟨nonempty, rfl⟩ := (read e l).mp found
    exact ⟨nonempty, mem⟩
  · rintro ⟨nonempty, mem⟩
    exact ⟨_, mem, (read _ _).mpr ⟨nonempty, rfl⟩⟩

theorem mem_filesIn {t : Tree} {place : List Text} {l : Leaf} : l ∈ t.filesIn place ↔
    ∃ name content, (place ++ [name], .file content) ∈ t.entries ∧ l = ⟨[name], content⟩ := by
  unfold filesIn
  rw [List.mem_filter, mem_leaves]
  constructor
  · obtain ⟨names, content⟩ := l
    rintro ⟨⟨-, mem⟩, single⟩
    obtain ⟨name, rfl⟩ := List.length_eq_one_iff.mp (beq_iff_eq.mp single)
    exact ⟨name, content, mem, rfl⟩
  · rintro ⟨name, content, mem, rfl⟩
    exact ⟨⟨List.cons_ne_nil _ _, mem⟩, rfl⟩

namespace OfTexts

variable {t : Tree} (h : t.OfTexts)
include h

theorem distinct_leaves (place : List Text) : (t.leaves place).Pairwise fun l l' => l.names ≠ l'.names := by
  obtain ⟨leaf, leaves, read⟩ := t.leaves_eq place
  have places : t.entries.Pairwise fun e e' => e.1 ≠ e'.1 := List.pairwise_map.mp h.distinct
  rw [leaves, List.pairwise_filterMap]
  refine places.imp fun different l found l' found' same => different ?_
  rw [((read _ _).mp found).2, ((read _ _).mp found').2, same]

theorem text_of_file {place : List Text} {bytes : Bytes} (mem : (place, .file bytes) ∈ t.entries) :
    ∃ content, Utf8.decode? bytes = some content := by
  rcases h.texts _ mem with folder | text
  · cases folder
  · exact Option.isSome_iff_exists.mp text

theorem get?_of_mem {e : List Text × Entry} (mem : e ∈ t.entries) : t.get? e.1 = some e.2 := by
  rw [get?, Keyed.lookup_of_mem h.distinct mem]

theorem get?_before {e : List Text × Entry} (mem : e ∈ t.entries) {place : List Text}
    (start : place <+: e.1) (before : place ≠ e.1) : t.get? place = some .folder := by
  unfold get?
  cases found : t.entries.lookup place with
  | none =>
    have below : (t.entries.any fun e => place.isPrefixOf e.1) = true :=
      List.any_eq_true.mpr ⟨e, mem, List.isPrefixOf_iff_prefix.mpr start⟩
    simp [below]
  | some d =>
    have listed := Keyed.mem_of_lookup found
    by_cases folder : d = .folder
    case pos => exact congrArg some folder
    case neg => exact absurd (h.closed _ listed folder e mem start).symm before

theorem get?_ne_link (place : List Text) (path : Text) : t.get? place ≠ some (.link path) := by
  intro link
  unfold get? at link
  cases found : t.entries.lookup place with
  | none =>
    rw [found] at link
    dsimp only at link
    split at link <;> cases link
  | some d =>
    rw [found] at link
    obtain rfl := Option.some.inj link
    rcases h.texts _ (Keyed.mem_of_lookup found) with folder | text
    · cases folder
    · cases text

theorem eq_of_name {names : List Text} {l : Leaf} (mem : l ∈ t.filesIn names) {l' : Leaf}
    (mem' : l' ∈ t.filesIn names) (same : l.name = l'.name) : l = l' := by
  obtain ⟨name, content, file, rfl⟩ := mem_filesIn.mp mem
  obtain ⟨name', content', file', rfl⟩ := mem_filesIn.mp mem'
  obtain rfl : name = name' := same
  have entry := h.get?_of_mem file
  rw [h.get?_of_mem file'] at entry
  cases entry
  rfl

section
variable {onLink : List Text → List Text → Option (List Text)}

theorem walk?_append {place names middle : List Text} (folder : t.get? middle = some .folder)
    (walked : t.walk? onLink place names = some middle) (more : List Text) :
    t.walk? onLink place (names ++ more) = t.walk? onLink middle more := by
  induction names generalizing place with
  | nil =>
    obtain rfl := Option.some.inj walked
    rfl
  | cons name rest ih =>
    rw [List.cons_append, walk?]
    cases walk?_cons.mp walked with
    | up up inner walked => rw [if_pos up, if_neg (by simpa using inner), ih walked]
    | folder down found walked =>
      rw [if_neg down]
      simp only [found]
      exact ih walked
    | file content _ found _ here =>
      rw [here, folder] at found
      cases found
    | link path _ _ _ found => exact absurd found (h.get?_ne_link _ path)

theorem eq_of_walk? {place names target : List Text} (down : ∀ name ∈ names, name ≠ ['.', '.'])
    (walked : t.walk? onLink place names = some target) : target = place ++ names := by
  induction names generalizing place with
  | nil => rw [List.append_nil, Option.some.inj walked]
  | cons name rest ih =>
    rw [List.forall_mem_cons] at down
    cases walk?_cons.mp walked with
    | up up => exact absurd up down.1
    | folder _ _ walked => rw [ih down.2 walked, List.append_assoc, List.singleton_append]
    | file _ _ _ last here => rw [← here, last]
    | link path _ _ _ found => exact absurd found (h.get?_ne_link _ path)

omit h in
theorem walk?_open {place names : List Text} (down : ∀ name ∈ names, name ≠ ['.', '.'])
    (folders : ∀ p, p ≠ [] → p <+: names → t.get? (place ++ p) = some .folder) :
    t.walk? onLink place names = some (place ++ names) := by
  induction names generalizing place with
  | nil => rw [List.append_nil]; rfl
  | cons name rest ih =>
    rw [List.forall_mem_cons] at down
    have first := folders [name] (List.cons_ne_nil _ _) (List.prefix_append [name] rest)
    refine walk?_cons.mpr (.folder down.1 first ?_)
    rw [ih down.2 fun p nonempty start => ?_, List.append_assoc, List.singleton_append]
    have longer := folders (name :: p) (List.cons_ne_nil _ _) (List.cons_prefix_cons.mpr ⟨rfl, start⟩)
    rwa [List.append_assoc, List.singleton_append]

end

section
variable {root : Text} (base : t.folder? root = some [])
include base

omit h in
theorem get?_root : t.get? [] = some .folder := by
  obtain ⟨-, folder⟩ := Option.filter_eq_some_iff.mp base
  exact beq_iff_eq.mp folder

variable {names : List Text} (each : ∀ name ∈ names, Path.Name name)
include each

theorem exists_below : ∃ inner, Path.below? t.base (Path.join root (Path.ofParts names)) = some inner ∧
    t.follow? maxLinks [] (Path.parts inner) = t.follow? maxLinks [] names := by
  obtain ⟨found, -⟩ := Option.filter_eq_some_iff.mp base
  obtain ⟨inner, below, walked, -⟩ := place?_eq_some.mp found
  obtain ⟨inner', below', parts⟩ :=
    Path.below?_join_relative below (Path.relative_of_trimmed (Path.trimmed_ofParts each))
  refine ⟨inner', below', ?_⟩
  rw [parts, Path.parts_ofParts each]
  exact h.walk?_append (get?_root base) walked names

theorem eq_of_folder? {place : List Text}
    (found : t.folder? (Path.join root (Path.ofParts names)) = some place) : place = names := by
  obtain ⟨inner, below, walk⟩ := h.exists_below base each
  obtain ⟨found, -⟩ := Option.filter_eq_some_iff.mp found
  obtain ⟨inner', below', walked, -⟩ := place?_eq_some.mp found
  obtain rfl := Option.some.inj (below.symm.trans below')
  rw [walk] at walked
  exact h.eq_of_walk? (fun name mem => (each name mem).notUp) walked

omit each

variable {name : Text} {content : Bytes} (mem : (names ++ [name], .file content) ∈ t.entries)
include mem

omit base in
theorem names_of_file : (∀ n ∈ names, Path.Name n) ∧ Path.Name name := by
  have all := h.named _ mem
  exact ⟨fun n inside => all n (List.mem_append_left _ inside), all name (List.mem_concat_self)⟩

theorem isFolder_of_file : t.get? names = some .folder := by
  by_cases here : names = []
  case pos => rw [here]; exact get?_root base
  case neg => exact h.get?_before mem (List.prefix_append names [name]) (by simp)

omit base in
theorem follow?_of_file : t.follow? maxLinks [] names = some names := by
  refine walk?_open (fun n inside => ((h.names_of_file mem).1 n inside).notUp) fun p _ start => ?_
  exact h.get?_before mem (start.trans (List.prefix_append names [name])) (by
    rintro rfl
    exact absurd start.length_le (by simp))

theorem folder?_of_file : t.folder? (Path.join root (Path.ofParts names)) = some names := by
  obtain ⟨inner, below, walk⟩ := h.exists_below base (h.names_of_file mem).1
  have folder := h.isFolder_of_file base mem
  have found := place?_eq_some.mpr ⟨inner, below, walk.trans (h.follow?_of_file mem), fun _ => folder⟩
  simp [folder?, found, folder]

theorem text?_of_file : t.text? (Path.join root (Path.ofParts (names ++ [name]))) = Utf8.decode? content := by
  obtain ⟨each, named⟩ := h.names_of_file mem
  obtain ⟨inner, below, walk⟩ := h.exists_below base each
  have file := h.get?_of_mem mem
  have found := place?_join named below (walk.trans (h.follow?_of_file mem))
    (h.isFolder_of_file base mem) file
  rw [Path.join_join each root named] at found
  simp [text?, bytes?_of_place? found file]

end
end OfTexts
end Tree

end ModuleDocs
