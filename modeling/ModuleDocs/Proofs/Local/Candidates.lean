import ModuleDocs.Local.Documents
import ModuleDocs.Proofs.Document.Choice
import ModuleDocs.Proofs.Tree.Texts

namespace ModuleDocs.Local
open Document
open ModuleDocs.Tree (Leaf mem_filesIn)

def itemIn? (t : Tree) (k : Kind) (source : Source) (names : List Text) : Option Item :=
  (chosen? k Leaf.name (t.filesIn names)).bind fun l => ((Utf8.decode? l.content).map fun content =>
    Item.ofKind k content l.name (Path.ofParts (names ++ [l.name])) source).filter Item.hasContent

section
variable {t : Tree} (h : t.OfTexts) {root : Text}
include h

theorem shownPath_of_file {names : List Text} {name : Text} {content : Bytes}
    (mem : (names ++ [name], .file content) ∈ t.entries) :
    shownPath root (Path.join root (Path.ofParts (names ++ [name]))) = Path.ofParts (names ++ [name]) := by
  rw [shownPath, Path.below?_join_self root (Path.trimmed_ofParts (h.named _ mem))]
  have same : ∀ c ∈ Path.ofParts (names ++ [name]), (if c = '\\' then '/' else c) = id c := by
    intro c inside
    refine if_neg ?_
    rintro rfl
    obtain ⟨n, listed, inside⟩ := Path.mem_ofParts (by decide) inside
    exact h.plain _ mem (by simp) n listed inside
  rw [Option.getD_some, List.map_congr_left same, List.map_id]

theorem fileName_of_file {names : List Text} {name : Text} {content : Bytes}
    (mem : (names ++ [name], .file content) ∈ t.entries) :
    fileName (Path.join root (Path.ofParts (names ++ [name]))) = name := by
  have each := h.named _ mem
  rw [fileName, Path.parts_join_relative root (Path.relative_of_trimmed (Path.trimmed_ofParts each)),
    Path.parts_ofParts each, ← List.append_assoc, List.getLastD_concat]

variable (base : t.folder? root = some [])
include base

theorem pathIn?_join {names : List Text} (each : ∀ name ∈ names, Path.Name name) (k : Kind) :
    pathIn? t k (Path.join root (Path.ofParts names)) =
      (chosen? k Leaf.name (t.filesIn names)).map fun l =>
        Path.join root (Path.ofParts (names ++ [l.name])) := by
  unfold pathIn?
  cases chosen : chosen? k Leaf.name (t.filesIn names) with
  | none =>
    cases found : t.folder? (Path.join root (Path.ofParts names)) with
    | none => rfl
    | some place =>
      obtain rfl := h.eq_of_folder? base each found
      simp [chosen]
  | some l =>
    obtain ⟨name, content, mem, rfl⟩ := mem_filesIn.mp (chosen?_eq_some chosen).1
    simp only [h.folder?_of_file base mem, Option.bind_some, chosen, Option.map_some]
    exact congrArg some (Path.join_join each root (h.names_of_file mem).2)

omit h in
theorem pathIn?_root (k : Kind) : pathIn? t k root =
    (chosen? k Leaf.name (t.filesIn [])).map fun l => Path.join root (Path.ofParts ([] ++ [l.name])) := by
  simp only [pathIn?, base, Option.bind_some, List.nil_append, Path.ofParts, List.intercalate_singleton]

theorem read_pathIn? {names : List Text} {k : Kind} {path : Option Text}
    (given : path = (chosen? k Leaf.name (t.filesIn names)).map fun l =>
      Path.join root (Path.ofParts (names ++ [l.name]))) :
    (path.toList.filterMap fun p => (t.text? p).map fun content =>
      Item.ofKind k content (fileName p) (shownPath root p) .localFile).filter Item.hasContent =
      (itemIn? t k .localFile names).toList := by
  subst given
  unfold itemIn?
  cases chosen : chosen? k Leaf.name (t.filesIn names) with
  | none => rfl
  | some l =>
    obtain ⟨name, content, mem, rfl⟩ := mem_filesIn.mp (chosen?_eq_some chosen).1
    have alone : Leaf.name ⟨[name], content⟩ = name := rfl
    have text := h.text?_of_file base mem
    have file : fileName (Path.join root (Path.ofParts (names ++ [name]))) = name := fileName_of_file h mem
    have shown : shownPath root (Path.join root (Path.ofParts (names ++ [name]))) = _ :=
      shownPath_of_file h mem
    simp only [Option.map_some, Option.bind_some, Option.toList_some, alone, List.filterMap_cons,
      List.filterMap_nil, text, file, shown]
    cases Utf8.decode? content with
    | none => rfl
    | some c =>
      simp only [Option.map_some, Option.filter_some, List.filter_cons, List.filter_nil]
      split <;> rfl

omit base in
theorem parts_of_file {names : List Text} {k : Kind} {l : Leaf}
    (chosen : chosen? k Leaf.name (t.filesIn names) = some l) :
    Path.parts (Path.join root (Path.ofParts (names ++ [l.name]))) =
      Path.parts root ++ (names ++ [l.name]) := by
  obtain ⟨name, content, mem, rfl⟩ := mem_filesIn.mp (chosen?_eq_some chosen).1
  have each : ∀ n ∈ names ++ [name], Path.Name n := h.named _ mem
  exact (Path.parts_join_relative root (Path.relative_of_trimmed (Path.trimmed_ofParts each))).trans
    (congrArg (Path.parts root ++ ·) (Path.parts_ofParts each))

theorem paths_of_texts {names : List Text} (each : ∀ name ∈ names, Path.Name name) (k : Kind) :
    paths t k root (some (Path.join root (Path.ofParts names))) = (pathIn? t k root).toList ++
      if names = [] then [] else (pathIn? t k (Path.join root (Path.ofParts names))).toList := by
  unfold paths
  dsimp only
  rw [Option.bind_some, pathIn?_join h base each, pathIn?_root base, List.append_cancel_left_eq]
  by_cases here : names = []
  case pos =>
    subst here
    rw [if_pos rfl, List.filter_eq_nil_iff]
    intro p mem
    have again : Path.same p p = true := by simp [Path.same]
    rw [Bool.not_eq_true, Bool.not_eq_false', List.any_eq_true]
    exact ⟨p, mem, again⟩
  case neg =>
    rw [if_neg here, List.filter_eq_self]
    intro p mem
    obtain ⟨l, chosen, rfl⟩ := Option.map_eq_some_iff.mp (Option.mem_toList.mp mem)
    rw [Bool.not_eq_true', List.any_eq_false]
    intro q mem'
    obtain ⟨l', chosen', rfl⟩ := Option.map_eq_some_iff.mp (Option.mem_toList.mp mem')
    intro same
    have parts := (Bool.and_eq_true_iff.mp same).2
    rw [beq_iff_eq, parts_of_file h chosen, parts_of_file h chosen', List.append_cancel_left_eq] at parts
    have longer := congrArg List.length parts
    simp [here] at longer

theorem candidates_of_texts (k : Kind) {secondary : Option (List Text)}
    (each : ∀ names ∈ secondary, ∀ name ∈ names, Path.Name name) :
    candidates t root (secondary.map fun names => Path.join root (Path.ofParts names)) k =
      ([] :: (secondary.filter (· ≠ [])).toList).filterMap (itemIn? t k .localFile) := by
  have first := read_pathIn? h base (pathIn?_root base k)
  have split (rest : List (List Text)) : ([] :: rest).filterMap (itemIn? t k .localFile) =
      (itemIn? t k .localFile []).toList ++ rest.filterMap (itemIn? t k .localFile) := by
    rw [List.filterMap_cons]
    cases itemIn? t k .localFile [] <;> rfl
  rw [candidates_apply, candidatesOf, split]
  cases secondary with
  | none =>
    have alone : paths t k root none = (pathIn? t k root).toList := List.append_nil _
    rw [Option.map_none, alone, first]
    exact (List.append_nil _).symm
  | some names =>
    have each := each names rfl
    have second := read_pathIn? h base (pathIn?_join h base each k)
    rw [Option.map_some, paths_of_texts h base each, List.filterMap_append, List.filter_append, first,
      Option.filter_some]
    by_cases here : names = []
    case pos => simp [here]
    case neg =>
      rw [if_neg here, second, if_pos (by simpa using here), Option.toList_some, List.filterMap_cons]
      cases itemIn? t k .localFile names <;> rfl

end
end ModuleDocs.Local
