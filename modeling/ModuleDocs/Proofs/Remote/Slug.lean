import ModuleDocs.Proofs.Text.Matching
import ModuleDocs.Proofs.Text.Split
import ModuleDocs.Proofs.Text.Trim
import ModuleDocs.Remote.GitHub
import ModuleDocs.Remote.Slug

namespace ModuleDocs.Remote
open Text

structure IsPart (s : Text) : Prop where
  nonempty : s ≠ []
  unslashed : '/' ∉ s
  dark : ∀ c ∈ s, isWhite c = false

def gitEnding : Text := ".git"

/-- An address of a repository: one of the known beginnings, owner and name, the ending or none, slashes,
and white space around all of it. -/
structure RepositoryAddress where
  before : Text
  start : Text
  owner : Text
  name : Text
  ended : Bool
  slashes : Nat
  behind : Text
  known : start ∈ addressStarts
  owner_part : IsPart owner
  name_part : IsPart name
  unended : ended = false → ¬ gitEnding <:+ name
  blank_before : isBlank before = true
  blank_behind : isBlank behind = true

namespace RepositoryAddress

variable (a : RepositoryAddress)

def slug : Text := a.owner ++ '/' :: a.name

def path : Text := a.slug ++ if a.ended then gitEnding else []

def core : Text := a.start ++ (a.path ++ List.replicate a.slashes '/')

def text : Text := a.before ++ a.core ++ a.behind

end RepositoryAddress

theorem dark_of_mem_addressStarts {start : Text} (known : start ∈ addressStarts) :
    ∀ c ∈ start, isWhite c = false := by
  have all : (addressStarts.all fun start => start.all fun c => !isWhite c) = true := by decide
  exact dark_of_all (List.all_eq_true.mp all start known)

theorem isPart_gitEnding : IsPart gitEnding := ⟨by decide, by decide, dark_of_all (by decide)⟩

theorem findSome?_addressStarts {start : Text} (known : start ∈ addressStarts) (rest : Text) :
    addressStarts.findSome? (fun start' => stripPrefix? (start ++ rest) start') = some rest := by
  unfold addressStarts at known
  simp only [List.mem_cons, List.not_mem_nil, or_false] at known
  rcases known with rfl | rfl | rfl | rfl <;> rfl

namespace RepositoryAddress

variable (a : RepositoryAddress)

theorem dark_core : ∀ c ∈ a.core, isWhite c = false := by
  intro c mem
  simp only [core, path, slug, List.mem_append, List.mem_cons] at mem
  rcases mem with start | ((owner | rfl | name) | ending) | slash
  · exact dark_of_mem_addressStarts a.known c start
  · exact a.owner_part.dark c owner
  · decide
  · exact a.name_part.dark c name
  · split at ending
    case isTrue => exact isPart_gitEnding.dark c ending
    case isFalse => contradiction
  · exact List.eq_of_mem_replicate slash ▸ by decide

theorem trim_text : trim a.text = a.core := by
  have nonempty : a.core ≠ [] := by simp [core, path, slug]
  rw [text, trim_append_right a.blank_behind, trim_append_left a.blank_before,
    (solid_of_forall nonempty a.dark_core).trim_eq]

theorem dropEndWhile_path :
    dropEndWhile (· == '/') (a.path ++ List.replicate a.slashes '/') = a.path := by
  have path : a.path = (a.owner ++ ['/']) ++ (a.name ++ if a.ended then gitEnding else []) := by
    simp [path, slug]
  have unslashed : '/' ∉ a.name ++ if a.ended then gitEnding else [] := by
    rw [List.mem_append, not_or]
    refine ⟨a.name_part.unslashed, ?_⟩
    split
    case isTrue => exact isPart_gitEnding.unslashed
    case isFalse => exact List.not_mem_nil
  rw [dropEndWhile_append fun c mem => beq_iff_eq.mpr (List.eq_of_mem_replicate mem), path]
  exact dropEndWhile_append_eq _ (by simp [a.name_part.nonempty]) fun c mem =>
    beq_eq_false_iff_ne.mpr fun same => unslashed (same ▸ mem)

theorem not_gitEnding_slug (unended : ¬ gitEnding <:+ a.name) : ¬ gitEnding <:+ a.slug := by
  intro ends
  rcases List.suffix_or_suffix_of_suffix ends (List.suffix_append a.owner ('/' :: a.name)) with
    inner | outer
  · rcases List.suffix_cons_iff.mp inner with whole | name
    · exact absurd (List.cons.inj whole).1 (by decide)
    · exact unended name
  · exact absurd (outer.subset List.mem_cons_self) (by decide)

theorem stripSuffix?_path : (stripSuffix? a.path gitEnding).getD a.path = a.slug := by
  cases ended : a.ended with
  | true =>
    have path : a.path = a.slug ++ gitEnding := by rw [path, ended, if_pos rfl]
    rw [path, stripSuffix?_append, Option.getD_some]
  | false =>
    have path : a.path = a.slug := by rw [path, ended, if_neg Bool.false_ne_true, List.append_nil]
    rw [path, stripSuffix?_eq_none (a.not_gitEnding_slug (a.unended ended)), Option.getD_none]

theorem splitOn_slug : splitOn '/' a.slug = [a.owner, a.name] := by
  rw [slug, splitOn_append_cons, splitOn_eq_singleton a.owner_part.unslashed,
    splitOn_eq_singleton a.name_part.unslashed, List.singleton_append]

theorem slug?_text : slug? a.text = some a.slug := by
  have parts : (a.owner.isEmpty || a.name.isEmpty) = false := by
    simp [a.owner_part.nonempty, a.name_part.nonempty]
  unfold slug?
  simp only [a.trim_text, core, findSome?_addressStarts a.known, Option.bind_eq_bind, Option.bind_some,
    a.dropEndWhile_path]
  rw [show (stripSuffix? a.path ".git").getD a.path = a.slug from a.stripSuffix?_path, a.splitOn_slug]
  simp only [parts, Bool.false_eq_true, if_false]
  rfl

end RepositoryAddress

theorem exists_of_slug? {address slug : Text} (found : slug? address = some slug) :
    ∃ owner name, slug = owner ++ '/' :: name ∧ (owner ≠ [] ∧ '/' ∉ owner) ∧
      name ≠ [] ∧ '/' ∉ name := by
  unfold slug? at found
  simp only [Option.bind_eq_bind, Option.bind_eq_some_iff] at found
  obtain ⟨rest, -, found⟩ := found
  split at found
  case h_2 => contradiction
  case h_1 owner name more parts =>
    rw [Option.ite_none_left_eq_some, Option.some.injEq, Bool.or_eq_true, List.isEmpty_iff,
      List.isEmpty_iff, not_or] at found
    obtain ⟨⟨owner_nonempty, name_nonempty⟩, rfl⟩ := found
    have unslashed {part : Text} (mem : part ∈ owner :: name :: more) : '/' ∉ part :=
      notMem_of_mem_splitOn (parts ▸ mem)
    exact ⟨owner, name, rfl, ⟨owner_nonempty, unslashed (by simp)⟩, name_nonempty,
      unslashed (by simp)⟩

theorem GitHub.ofSlug?_slug {owner name : Text} (owner_part : owner ≠ [] ∧ '/' ∉ owner)
    (name_part : name ≠ [] ∧ '/' ∉ name) (base : Text) (token : Option Text) (bound : Duration) :
    GitHub.ofSlug? base (owner ++ '/' :: name) token bound =
      .ok ⟨dropEndWhile (· == '/') base, owner, name, token, bound⟩ := by
  have parts : splitOn '/' (owner ++ '/' :: name) = [owner, name] := by
    rw [splitOn_append_cons, splitOn_eq_singleton owner_part.2, splitOn_eq_singleton name_part.2,
      List.singleton_append]
  have nonempty : (owner.isEmpty || name.isEmpty) = false := by simp [owner_part.1, name_part.1]
  simp only [GitHub.ofSlug?, parts, nonempty, Bool.false_eq_true, if_false]

/-- An address of a repository gives its owner and its name. Any text that gives something gives two parts
that are not empty around the only slash, and with them the client is made. -/
theorem slug?_names_repository :
    (∀ a : RepositoryAddress, slug? a.text = some (a.owner ++ '/' :: a.name)) ∧
    ∀ address slug, slug? address = some slug → ∃ owner name, slug = owner ++ '/' :: name ∧
      (owner ≠ [] ∧ '/' ∉ owner) ∧ (name ≠ [] ∧ '/' ∉ name) ∧
      ∀ base token bound, GitHub.ofSlug? base slug token bound =
        .ok ⟨dropEndWhile (· == '/') base, owner, name, token, bound⟩ := by
  refine ⟨fun a => a.slug?_text, fun address slug found => ?_⟩
  obtain ⟨owner, name, rfl, owner_part, name_part⟩ := exists_of_slug? found
  exact ⟨owner, name, rfl, owner_part, name_part, GitHub.ofSlug?_slug owner_part name_part⟩

def endingAddress : RepositoryAddress where
  before := "\t "
  start := "ssh://git@github.com/"
  owner := "me.x"
  name := ".git"
  ended := true
  slashes := 2
  behind := "\n"
  known := by decide
  owner_part := ⟨by decide, by decide, dark_of_all (by decide)⟩
  name_part := isPart_gitEnding
  unended := by decide
  blank_before := by decide
  blank_behind := by decide

theorem slug?_names_repository_branch :
    slug? "\t ssh://git@github.com/me.x/.git.git//\n" = some "me.x/.git".toList ∧
    slug? "https://github.com/owner/name/tree/main" = some "owner/name".toList ∧
    ∃ owner name, "owner/name".toList = owner ++ '/' :: name ∧
      (owner ≠ [] ∧ '/' ∉ owner) ∧ (name ≠ [] ∧ '/' ∉ name) ∧
      ∀ base token bound, GitHub.ofSlug? base "owner/name" token bound =
        .ok ⟨dropEndWhile (· == '/') base, owner, name, token, bound⟩ := by
  have read : slug? "https://github.com/owner/name/tree/main" = some "owner/name".toList := by decide
  exact ⟨slug?_names_repository.1 endingAddress, read, slug?_names_repository.2 _ _ read⟩

end ModuleDocs.Remote
