import ModuleDocs.Proofs.Local.Candidates
import ModuleDocs.Proofs.Remote.Listings
import ModuleDocs.Proofs.Selection.Copies

/-! The two searches for documents. Against a repository with the same text files both of them find the same
documents. Main statement: the candidates of a project and of its repository, and what makes a file the one
that is chosen in a folder. -/
namespace ModuleDocs.Selection
open Text Document Remote
open ModuleDocs.Tree (Leaf mem_leaves mem_filesIn)

/-- A repository that answers every call and has the text files of a tree, each once. -/
structure Mirrors (r : Repository) (t : Tree) : Prop where
  reached : r.failing = false
  allowed : r.forbidden = []
  distinct : (r.files.map (·.1)).Nodup
  same : ∀ path content, (path, content) ∈ r.files ↔ ∃ place bytes, (place, .file bytes) ∈ t.entries ∧
    path = Path.ofParts place ∧ Utf8.decode? bytes = some content

section
variable {t : Tree} {r : Repository} (mirrors : Mirrors r t)
include mirrors

variable (h : t.OfTexts) (base : t.get? [] = some .folder) {names : List Text}
  (each : ∀ name ∈ names, Path.Name name)
include h base each

theorem mem_listing_mirrors {e : Listed} : e ∈ r.listing (Path.ofParts names) ↔
    ∃ l ∈ t.filesIn names, ⟨l.name, Path.ofParts (names ++ [l.name])⟩ = e := by
  have start (name : Text) : (if (Path.ofParts names).isEmpty then []
      else dropEndWhile Repository.isSlash (Path.ofParts names) ++ ['/']) ++ name =
        Path.ofParts (names ++ [name]) := by
    have unslashed : dropEndWhile Repository.isSlash (Path.ofParts names) = Path.ofParts names :=
      (Path.trimBy_ofParts each).2
    rw [Path.ofParts_concat, unslashed]
    by_cases here : names = []
    case pos => simp [here, Path.ofParts]
    case neg => simp [here, Path.ofParts_ne_nil each here]
  rw [mem_listing, start]
  constructor
  · rintro ⟨content, mem, single, path⟩
    obtain ⟨place, bytes, file, same, -⟩ := (mirrors.same _ _).mp mem
    have inside : place ≠ [] := by
      rintro rfl
      have root := h.get?_of_mem file
      rw [base] at root
      cases root
    have plain : ∀ name ∈ names ++ [e.name], '/' ∉ name := by
      simpa [or_imp, forall_and] using ⟨fun name mem => (each name mem).single, single⟩
    have parts := congrArg (splitOn '/') (same.symm.trans path)
    rw [Path.splitOn_ofParts (h.named _ file) inside, Path.ofParts,
      splitOn_intercalate plain (by simp)] at parts
    subst parts
    exact ⟨_, mem_filesIn.mpr ⟨e.name, bytes, file, rfl⟩, congrArg (Listed.mk e.name) path.symm⟩
  · rintro ⟨l, mem, rfl⟩
    obtain ⟨name, bytes, file, rfl⟩ := mem_filesIn.mp mem
    obtain ⟨content, decoded⟩ := h.text_of_file file
    exact ⟨content, (mirrors.same _ _).mpr ⟨_, _, file, rfl, decoded⟩,
      (h.named _ file name List.mem_concat_self).single, rfl⟩

theorem candidateIn_mirrors {m : Type → Type} [Monad m] [LawfulMonad m] {f : Fetcher m}
    (client : f.client = r.client) (k : Kind) (b : Text) :
    f.candidateIn k b (Path.ofParts names) = pure (.ok (Local.itemIn? t k .remote names)) := by
  have chosen : chosen? k Listed.name (r.listing (Path.ofParts names)) =
      (chosen? k Leaf.name (t.filesIn names)).map fun l => ⟨l.name, Path.ofParts (names ++ [l.name])⟩ :=
    chosen?_map _ (fun _ mem _ mem' => h.eq_of_name mem mem') (fun _ _ => rfl)
      fun e => mem_listing_mirrors mirrors h base each
  unfold Fetcher.candidateIn Local.itemIn?
  have allowed := Repository.check_open mirrors.reached mirrors.allowed
  simp only [client, Repository.listFiles_client (allowed _), Repository.fileContent_client (allowed _),
    pure_bind, bounded, chosen]
  cases found : chosen? k Leaf.name (t.filesIn names) with
  | none => rfl
  | some l =>
    obtain ⟨name, bytes, file, rfl⟩ := mem_filesIn.mp (chosen?_eq_some found).1
    obtain ⟨content, decoded⟩ := h.text_of_file file
    have held := Keyed.lookup_of_mem mirrors.distinct ((mirrors.same _ _).mpr ⟨_, _, file, rfl, decoded⟩)
    have alone : Leaf.name ⟨[name], bytes⟩ = name := rfl
    dsimp only at held
    simp only [Option.map_some, Option.bind_some, alone, held, decoded]

omit each

theorem candidatesIn_mirrors {m : Type → Type} [Monad m] [LawfulMonad m] {f : Fetcher m}
    (client : f.client = r.client) (k : Kind) (b : Text) {searched : List (List Text)}
    (each : ∀ names ∈ searched, ∀ name ∈ names, Path.Name name) :
    f.candidatesIn k b (searched.map Path.ofParts) =
      pure { items := searched.filterMap (Local.itemIn? t k .remote) } := by
  have outcomes : ((searched.map Path.ofParts).mapM fun folder => do
      pure (folder, ← f.candidateIn k b folder)) = (pure (searched.map fun names =>
        (Path.ofParts names, .ok (Local.itemIn? t k .remote names))) : m _) := by
    induction searched with
    | nil => rfl
    | cons names rest ih =>
      rw [List.forall_mem_cons] at each
      rw [List.map_cons, List.mapM_cons, candidateIn_mirrors mirrors h base each.1 client, ih each.2]
      simp only [pure_bind, List.map_cons]
  unfold Fetcher.candidatesIn
  rw [outcomes, pure_bind]
  simp [Located.ofOutcomes, List.filterMap_map]

end

theorem mirrors_mirror {t : Tree} (h : t.OfTexts) (base : t.get? [] = some .folder) (branch : Text) :
    Mirrors (mirror t branch) t where
  reached := rfl
  allowed := rfl
  distinct := by
    refine List.pairwise_map.mpr (List.pairwise_filterMap.mpr ((h.distinct_leaves []).imp_of_mem ?_))
    intro l l' mem mem' different f read f' read' same
    obtain ⟨content, -, rfl⟩ := Option.map_eq_some_iff.mp read
    obtain ⟨content', -, rfl⟩ := Option.map_eq_some_iff.mp read'
    obtain ⟨inside, file⟩ := mem_leaves.mp mem
    obtain ⟨inside', file'⟩ := mem_leaves.mp mem'
    exact different (Path.ofParts_injective (h.named _ file) (h.named _ file') inside inside' same)
  same := by
    intro path content
    constructor
    · intro mem
      obtain ⟨⟨names, bytes⟩, leaf, read⟩ := List.mem_filterMap.mp mem
      obtain ⟨content', decoded, same⟩ := Option.map_eq_some_iff.mp read
      cases same
      exact ⟨names, bytes, (mem_leaves.mp leaf).2, rfl, decoded⟩
    · rintro ⟨place, bytes, file, rfl, decoded⟩
      have inside : place ≠ [] := by
        rintro rfl
        have root := h.get?_of_mem file
        rw [base] at root
        cases root
      refine List.mem_filterMap.mpr ⟨⟨place, bytes⟩, mem_leaves.mpr ⟨inside, file⟩, ?_⟩
      simp only [decoded, Option.map_some]

theorem secondaryFolder?_ofParts {secondary : Option (List Text)}
    (each : ∀ names ∈ secondary, ∀ name ∈ names, Path.Name name) :
    secondaryFolder? (secondary.map Path.ofParts) = (secondary.filter (· ≠ [])).map Path.ofParts := by
  unfold secondaryFolder?
  cases secondary with
  | none => rfl
  | some names =>
    rw [Option.map_some, Option.map_some, (Path.trimBy_ofParts (each names rfl)).1]
    by_cases here : names = []
    case pos => subst here; rfl
    case neg =>
      have inner := Path.ofParts_ne_nil (each names rfl) here
      rw [Option.filter_some, Option.filter_some, if_pos (by simpa using inner), if_pos (by simpa using here),
        Option.map_some]

theorem itemIn?_remote (t : Tree) (k : Kind) (names : List Text) : Local.itemIn? t k .remote names =
    (Local.itemIn? t k .localFile names).map fun i => { i with source := .remote } := by
  unfold Local.itemIn?
  cases chosen? k Leaf.name (t.filesIn names) with
  | none => rfl
  | some l =>
    dsimp only [Option.bind_some]
    cases Utf8.decode? l.content with
    | none => rfl
    | some content =>
      have same : (Item.ofKind k content l.name (Path.ofParts (names ++ [l.name])) .remote).hasContent =
          (Item.ofKind k content l.name (Path.ofParts (names ++ [l.name])) .localFile).hasContent := rfl
      rw [Option.map_some, Option.map_some, Option.filter_some, Option.filter_some, same]
      split <;> rfl

/-- The documents of a project and those of a repository with the same text files are the same but for
their source, with any second folder below the root. For any client the file that is read in a folder is
chosen by its name, in whatever order the folder is listed. -/
theorem candidates_agree {t : Tree} (h : t.OfTexts) {root : Text} (base : t.folder? root = some [])
    {r : Repository} (mirrors : Mirrors r t) {secondary : Option (List Text)}
    (each : ∀ names ∈ secondary, ∀ name ∈ names, Path.Name name) :
    let locals := Local.candidates t root (secondary.map fun names => Path.join root (Path.ofParts names))
    (∀ {m : Type → Type} [Monad m] [LawfulMonad m] (bound : Duration) (b : Text) (k : Kind),
      let f : Fetcher m := ⟨r.client, bound, secondaryFolder? (secondary.map Path.ofParts)⟩
      (∀ i ∈ locals k, i.source = .localFile) ∧
      f.candidates k b = pure { items := (locals k).map fun i => { i with source := .remote } }) ∧
    ∀ {σ : Type} (f : Fetcher (StateM σ)) (k : Kind) (b folder : Text),
      (∀ f' : Fetcher (StateM σ), f'.bound = f.bound → Relisted f.client f'.client →
        f'.candidateIn k b folder = f.candidateIn k b folder) ∧
      ∀ {entries : List Listed} {s s₁ : σ}, (entries.map Listed.name).Nodup →
        (f.client.listFiles folder b).run s = (some (.ok entries), s₁) →
        ∃ choice, IsChoice k entries choice ∧ (f.candidateIn k b folder).run s = match choice with
          | none => (.ok none, s₁)
          | some e => (f.readEntry k b e).run s₁ := by
  intro locals
  refine ⟨fun bound b k => ⟨fun i mem => ?_, ?_⟩, fun f k b folder => ⟨fun f' bound relisted =>
    candidateIn_relisted bound relisted, fun names listed => candidateIn_listed names listed⟩⟩
  · exact (foundIn_candidates t root _ k i mem).source_eq
  · have searched : [] :: (secondaryFolder? (secondary.map Path.ofParts)).toList =
        ([] :: (secondary.filter (· ≠ [])).toList).map Path.ofParts := by
      rw [secondaryFolder?_ofParts each]
      cases secondary.filter (· ≠ []) <;> rfl
    have named : ∀ names ∈ [] :: (secondary.filter (· ≠ [])).toList, ∀ name ∈ names, Path.Name name := by
      intro names mem
      rcases List.mem_cons.mp mem with rfl | second
      · simp
      · exact each names (Option.mem_filter_iff.mp (Option.mem_toList.mp second)).1
    unfold Fetcher.candidates Fetcher.folders
    dsimp only
    rw [searched, candidatesIn_mirrors mirrors h (Tree.OfTexts.get?_root base) rfl k b named]
    have remote : Local.itemIn? t k .remote = fun names =>
        (Local.itemIn? t k .localFile names).map fun i => { i with source := .remote } :=
      funext (itemIn?_remote t k)
    have found : locals k = _ := Local.candidates_of_texts h base k each
    rw [found, List.map_filterMap, remote]

theorem candidates_agree_mirror :
    let t := Tree.ofList "/p" [("README.md", .file (Utf8.encode "# Demo")),
      ("docs/README.txt", .file (Utf8.encode "more")), ("docs/README", .file (Utf8.encode "first")),
      ("docs/LICENSE", .file [])]
    let r := mirror t "main"
    let f : Fetcher (StateM Unit) := ⟨r.client, ⟨1000⟩, secondaryFolder? (some "docs".toList)⟩
    let locals := Local.candidates t "/p/." (some "/p/./docs".toList)
    let entries : List Listed := [⟨"README.md", "README.md"⟩, ⟨"readme", "readme"⟩]
    let listing (entries : List Listed) : Fetcher (StateM Unit) := {
      client := { r.client with listFiles := fun _ _ => pure (some (.ok entries)) }, bound := ⟨1000⟩ }
    t.OfTexts ∧ t.folder? "/p/." = some [] ∧ Mirrors r t ∧
    (locals .readme).map Item.path = ["README.md".toList, "docs/README".toList] ∧ locals .license = [] ∧
    (∀ k, f.candidates k "main" = pure { items := (locals k).map fun i => { i with source := .remote } }) ∧
    (listing entries.reverse).candidateIn .readme "main" [] = (listing entries).candidateIn .readme "main" [] ∧
    ∃ choice, IsChoice .readme entries choice := by
  intro t r f locals entries listing
  have h : t.OfTexts := by decide +kernel
  have base : t.folder? "/p/." = some [] := by decide +kernel
  have mirrors : Mirrors r t := mirrors_mirror h (Tree.OfTexts.get?_root base) "main"
  have each : ∀ names ∈ some ["docs".toList], ∀ name ∈ names, Path.Name name := by decide
  obtain ⟨agree, choice⟩ := candidates_agree h base mirrors each
  have names : (entries.map Listed.name).Nodup := by decide
  obtain ⟨reordered, listed⟩ := choice (listing entries) .readme "main" []
  have relisted : Relisted (listing entries).client (listing entries.reverse).client := by
    refine ⟨rfl, fun _ _ s => ⟨_, _, s, rfl, rfl, .listed names entries.reverse_perm⟩⟩
  refine ⟨h, base, mirrors, by decide +kernel, by decide +kernel, fun k => (agree ⟨1000⟩ "main" k).2,
    reordered _ rfl relisted, ?_⟩
  obtain ⟨entry, chosen, -⟩ := listed names (s := ()) rfl
  exact ⟨entry, chosen⟩

end ModuleDocs.Selection
