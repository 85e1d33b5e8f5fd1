import ModuleDocs.Proofs.Selection.Backfill
import ModuleDocs.Proofs.Selection.Found

/-! Copies of one document from the project and from its repository. Where copies are not wanted, no
standard document is shown beside its copy. Main statement: that holds of every run against a repository
in memory, a mirror of the project among them. Supplemental documents are compared with nothing and stay
both. -/
namespace ModuleDocs.Selection
open Text Document Remote
open ModuleDocs.Path (lastPart)

/-- What holds of a selection without copies at any time of a run. -/
structure WithoutCopies (result : Result) : Prop where
  wellFormed : ∃ requested, WellFormed requested result
  found : ∀ i ∈ result.items, i.role = .standard → ∃ k, IsCandidate k i.source i ∧ Placed k i
  differ : ∀ i ∈ result.items, ∀ j ∈ result.items, i.source = .localFile → j.source = .remote →
    ∀ k, i.kind = some k → j.kind = some k → i.normalized ≠ j.normalized

theorem normalized_ne_of_mem_mergePicks {mode : Mode} {here there : Item} (different : here ≠ there)
    (first : here ∈ mergePicks mode false (some here) (some there))
    (second : there ∈ mergePicks mode false (some here) (some there)) :
    here.normalized ≠ there.normalized := by
  intro same
  have single : (mergePicks mode false (some here) (some there)).length ≤ 1 := by
    rw [mergePicks, if_pos ⟨rfl, same⟩]
    exact List.length_take_le 1 _
  obtain ⟨a, one⟩ := List.length_eq_one_iff.mp
    (Nat.le_antisymm single (List.length_pos_of_mem first))
  rw [one, List.mem_singleton] at first second
  exact different (first.trans second.symm)

section Plan
variable {r : Request} {locals remotes : Candidates} {k : Kind} {i : Item}

theorem localPick_placed (placed : ∀ i ∈ locals k, Placed k i)
    (here : FoundIn .localFile locals) (pick : localPick r locals k = some i) : Placed k i := by
  have source := (localPick_found here pick).2.source_eq
  unfold localPick at pick
  dsimp only at pick
  split at pick
  case isFalse => contradiction
  case isTrue =>
    rcases List.mem_append.mp (List.mem_of_find?_eq_some pick) with configured | mem
    case inr => exact placed i mem
    case inl =>
      -- The introduction of the request has no path, and no kind has an empty file name.
      split at configured
      case isFalse => contradiction
      case isTrue =>
        obtain ⟨t, -, rfl⟩ := Option.map_eq_some_iff.mp (Option.mem_toList.mp configured)
        refine ⟨fun k' matched => ?_, fun remote => nomatch remote⟩
        rw [show lastPart _ = [] from rfl, Kind.not_matchesName_nil] at matched
        contradiction

theorem mem_of_remotePick (pick : remotePick r remotes k = some i) : i ∈ remotes k := by
  unfold remotePick at pick
  split at pick
  case isTrue => exact List.mem_of_find?_eq_some pick
  case isFalse => contradiction

theorem mem_plan (mem : i ∈ (plan r locals remotes).items) :
    (∃ k, i ∈ shown r locals remotes k) ∨ i ∈ r.supplemental := by
  rw [items_plan] at mem
  rcases List.mem_append.mp mem with standard | extra
  · obtain ⟨k, -, mem⟩ := List.mem_flatMap.mp standard
    exact .inl ⟨k, mem⟩
  · exact .inr (List.mem_of_mem_filter extra)

theorem withoutCopies_plan (own : r.OwnItems) (hidden : r.showDuplicates = false)
    (here : FoundIn .localFile locals) (placed : ∀ k, ∀ i ∈ locals k, Placed k i)
    (there : ∀ k, ∀ i ∈ remotes k, FoundRemote k i) : WithoutCopies (plan r locals remotes) := by
  have there' : FoundIn .remote remotes := fun k i mem => (there k i mem).1
  have offers {k : Kind} {i : Item} (mem : i ∈ shown r locals remotes k) :
      localPick r locals k = some i ∨ remotePick r remotes k = some i := mem_mergePicks mem
  have ofKind {k k' : Kind} {i : Item} (mem : i ∈ shown r locals remotes k')
      (kind : i.kind = some k) : i ∈ shown r locals remotes k := by
    obtain ⟨source, candidate⟩ := (shown_joins here there' k').found i mem
    obtain rfl := Option.some.inj (candidate.kind_eq.symm.trans kind)
    exact mem
  refine ⟨⟨_, wellFormed_plan own here there'⟩, fun i mem standard => ?_, ?_⟩
  · rcases mem_plan mem with ⟨k, mem⟩ | extra
    case inr => exact absurd standard (own i extra).2
    case inl =>
      refine ⟨k, ?_⟩
      rcases offers mem with pick | pick
      · have candidate := (localPick_found here pick).2
        exact ⟨candidate.source_eq.symm ▸ candidate, localPick_placed (placed k) here pick⟩
      · obtain ⟨candidate, place⟩ := there k i (mem_of_remotePick pick)
        exact ⟨candidate.source_eq.symm ▸ candidate, place⟩
  · intro i mem j mem' fromLocal fromRemote k kind kind'
    rcases mem_plan mem with ⟨_, mem⟩ | extra
    case inr => rw [(own i extra).1] at kind; contradiction
    rcases mem_plan mem' with ⟨_, mem'⟩ | extra
    case inr => rw [(own j extra).1] at kind'; contradiction
    have mem := ofKind mem kind
    have mem' := ofKind mem' kind'
    have different : i ≠ j := by
      rintro rfl
      rw [fromLocal] at fromRemote
      contradiction
    have pick : localPick r locals k = some i := by
      refine (offers mem).resolve_right fun pick => ?_
      rw [(remotePick_found there' pick).2.source_eq] at fromLocal
      contradiction
    have pick' : remotePick r remotes k = some j := by
      refine (offers mem').resolve_left fun pick => ?_
      rw [(localPick_found here pick).2.source_eq] at fromRemote
      contradiction
    rw [shown, pick, pick', hidden] at mem mem'
    exact normalized_ne_of_mem_mergePicks different mem mem'

end Plan

theorem WithoutCopies.withNotes {result : Result} (h : WithoutCopies result) (notes : List Note) :
    WithoutCopies { result with notes } := by
  obtain ⟨requested, w⟩ := h.wellFormed
  have wellFormed : WellFormed requested { result with notes } :=
    ⟨w.visible, w.standardFirst, w.remote, w.missing, w.unasked, w.ordered, w.single⟩
  exact ⟨⟨requested, wellFormed⟩, h.found, h.differ⟩

theorem WithoutCopies.insertBackfill {result : Result} (h : WithoutCopies result) {k : Kind}
    {i : Item} (found : FoundRemote k i) : WithoutCopies (result.insertBackfill i).2 := by
  obtain ⟨candidate, placed⟩ := found
  obtain ⟨requested, w⟩ := h.wellFormed
  have again := w.insertBackfill candidate
  have inserts := insertBackfill_cases result i
  generalize result.insertBackfill i = inserted at again inserts
  cases inserts with
  | refused => exact h
  | taken k' kind _ missing =>
    obtain rfl := Option.some.inj (kind.symm.trans candidate.kind_eq)
    have free := w.no_item missing
    have members (j : Item) (mem : j ∈ result.items.takeWhile (·.role == .standard) ++
        i :: result.items.dropWhile (·.role == .standard)) : j = i ∨ j ∈ result.items := by
      rcases List.mem_append.mp mem with before | mem
      · exact .inr ((List.takeWhile_sublist _).subset before)
      · exact (List.mem_cons.mp mem).imp_right fun behind => (List.dropWhile_sublist _).subset behind
    refine ⟨⟨requested, again⟩, fun j mem standard => ?_, ?_⟩
    · rcases members j mem with rfl | before
      · exact ⟨k', candidate.source_eq.symm ▸ candidate, placed⟩
      · exact h.found j before standard
    · intro a mem b mem' fromLocal fromRemote other kind' kind''
      rcases members a mem with rfl | before
      case inl =>
        rw [candidate.source_eq] at fromLocal
        contradiction
      case inr =>
        rcases members b mem' with rfl | before'
        case inr => exact h.differ a before b before' fromLocal fromRemote other kind' kind''
        case inl =>
          rw [candidate.kind_eq] at kind''
          exact absurd (kind'.trans kind''.symm) (free a before)

theorem WithoutCopies.insertAll (found : List Item) {result : Result} (h : WithoutCopies result)
    (remote : ∀ i ∈ found, ∃ k, FoundRemote k i) : WithoutCopies (result.insertAll found) := by
  induction found generalizing result with
  | nil => exact h
  | cons i rest ih =>
    obtain ⟨⟨k, first⟩, remote⟩ := List.forall_mem_cons.mp remote
    exact ih (h.insertBackfill first) remote

section Run
variable {σ : Type} {setup : RemoteSetup (StateM σ)}
  (orderly : ∀ folder b, Always Orderly (setup.client.listFiles folder b))
include orderly

theorem backfillMissing_withoutCopies (branch : Option Text) {result : Result}
    (h : WithoutCopies result) : Always WithoutCopies (backfillMissing setup branch result) := by
  refine always_backfillMissing branch h fun b => ?_
  refine (always_mapM _ fun k => backfill_found (f := setup.fetcher) orderly k b).imp
    fun items found => h.insertAll _ fun i mem => ?_
  obtain ⟨o, given, same⟩ := List.mem_filterMap.mp mem
  exact found o given i same

theorem collectWith_withoutCopies {t : Tree} (plain : PlainNames t) (s : Sources) {r : Request}
    (own : r.OwnItems) (hidden : r.showDuplicates = false) :
    Always WithoutCopies (collectWith t s r setup) := by
  have run (r : Request) (own : r.OwnItems) (hidden : r.showDuplicates = false)
      (branch : Option Text) (notes : List Note) {remotes : Candidates}
      (there : ∀ k, ∀ i ∈ remotes k, FoundRemote k i) :
      Always WithoutCopies (backfillMissing setup branch (planned t s r notes remotes)) :=
    backfillMissing_withoutCopies orderly branch ((withoutCopies_plan own hidden
      (foundIn_candidates t s.root s.secondary) (placed_candidates plain s.root s.secondary)
      there).withNotes _)
  have own := ownItems_withFolders t s own
  have hidden : (withFolders t s r).showDuplicates = false := hidden
  unfold collectWith
  generalize withFolders t s r = r at own hidden
  dsimp only
  split
  case isFalse =>
    exact run { r with remoteAvailable := true } own hidden none []
      fun k i mem => absurd mem List.not_mem_nil
  case isTrue =>
    refine (fetchAll_found (f := setup.fetcher) orderly setup.branch fetchedKinds).bind ?_
    rintro ⟨branch, candidates, notes⟩ there
    have finish (more : List (List Item))
        (extra : ∀ items ∈ more, ∀ i ∈ items, i.kind = none ∧ i.role ≠ .standard) :=
      have own : ∀ i ∈ r.supplemental ++ more.flatten, i.kind = none ∧ i.role ≠ .standard := by
        intro i mem
        rcases List.mem_append.mp mem with mem | mem
        · exact own i mem
        · obtain ⟨items, given, mem⟩ := List.mem_flatten.mp mem
          exact extra items given i mem
      run { r with
        remoteAvailable := branch.isSome
        supplemental := r.supplemental ++ more.flatten } own hidden branch notes there
    cases branch with
    | none => exact finish [] fun items mem => absurd mem List.not_mem_nil
    | some b =>
      exact (always_mapM s.docFolders fun folder =>
        folderItems_own setup.fetcher folder b (by decide)).bind finish

end Run

/-- Against any repository in memory, a mirror of the project among them, and with any folders: unless
copies are wanted, no standard document of the project is shown beside one of the repository that has
the same content and is of the same kind or under the same path. -/
theorem collect_without_copies {σ : Type} {t : Tree} (plain : PlainNames t) (s : Sources) {r : Request}
    (own : r.OwnItems) (hidden : r.showDuplicates = false) {setup : RemoteSetup (StateM σ)}
    {repository : Repository} (held : setup.client = repository.client) (state : σ) :
    let items := ((collect t s r (some setup)).run state).1.items
    ∀ i ∈ items, ∀ j ∈ items, i.role = .standard → j.role = .standard →
      i.source = .localFile → j.source = .remote → i.kind = j.kind ∨ i.path = j.path →
        i.normalized ≠ j.normalized := by
  intro items i mem j mem' standard standard' fromLocal fromRemote alike
  have orderly : ∀ folder b, Always Orderly (setup.client.listFiles folder b) := by
    rw [held]
    exact orderly_repository repository
  have run : WithoutCopies ((collect t s r (some setup)).run state).1 :=
    collectWith_withoutCopies orderly plain s own hidden state
  obtain ⟨k, candidate, placed⟩ := run.found i mem standard
  obtain ⟨k', candidate', placed'⟩ := run.found j mem' standard'
  have same : k' = k := by
    rcases alike with kind | path
    · exact Option.some.inj (candidate'.kind_eq.symm.trans (kind.symm.trans candidate.kind_eq))
    · refine placed.only k' ?_
      rw [path]
      exact placed'.remote fromRemote
  exact run.differ i mem j mem' fromLocal fromRemote k candidate.kind_eq (same ▸ candidate'.kind_eq)

def mirror (t : Tree) (branch : Text) : Repository where
  branch
  files := (t.leaves []).filterMap fun l =>
    (Utf8.decode? l.content).map fun content => (Path.ofParts l.names, content)

theorem collect_mirror :
    let t := Tree.ofList "/p" [("README.md", .file (Utf8.encode "# Demo")),
      ("docs/LICENSE", .file (Utf8.encode "MIT")), ("docs/guide.md", .file (Utf8.encode "# Guide"))]
    let r : Request := { mode := .both, fetchRemote := true }
    let setup : RemoteSetup (StateM Unit) := ⟨(mirror t "main").client, ⟨5000⟩, none, some "docs"⟩
    let items := ((collect t ⟨"/p", some "/p/docs", ["docs"], []⟩ r (some setup)).run ()).1.items
    PlainNames t ∧ r.OwnItems ∧
    (items.filter fun i => i.role == .standard).map (fun i => (i.source, i.path)) =
      [(.localFile, "README.md".toList), (.localFile, "docs/LICENSE".toList)] ∧
    ∀ i ∈ items, ∀ j ∈ items, i.role = .standard → j.role = .standard →
      i.source = .localFile → j.source = .remote → i.kind = j.kind ∨ i.path = j.path →
        i.normalized ≠ j.normalized := by
  intro t r setup items
  have plain : PlainNames t := by decide +kernel
  have own : r.OwnItems := fun i mem => absurd mem List.not_mem_nil
  refine ⟨plain, own, by decide +kernel, ?_⟩
  have held : setup.client = (mirror t "main").client := rfl
  exact collect_without_copies plain ⟨"/p", some "/p/docs", ["docs"], []⟩ own rfl held ()

/-- A guide in a folder of documents is an item of that folder in the project, and the readme in the
mirror of the project. Both are shown. -/
theorem collect_mirror_folder :
    let t := Tree.ofList "/p" [("docs/guide/README.md", .file (Utf8.encode "# Guide"))]
    let r : Request := { mode := .preferRemote, fetchRemote := true }
    let setup : RemoteSetup (StateM Unit) :=
      ⟨(mirror t "main").client, ⟨5000⟩, none, some "docs/guide"⟩
    let items := ((collect t ⟨"/p", some "/p/docs/guide", ["docs"], []⟩ r (some setup)).run ()).1.items
    r.includeLocal = true ∧ r.showDuplicates = false ∧
    ∃ i ∈ items, ∃ j ∈ items, i.role = .supplementalDoc ∧ j.role = .standard ∧
      i.source = .localFile ∧ j.source = .remote ∧
      i.path = j.path ∧ i.normalized = j.normalized := by
  decide +kernel

/-- A backslash in a name is shown as a separator, so two files are shown under one path. -/
theorem collect_mirror_backslash :
    let t := Tree.ofList "/p" [("README\\LICENSE", .file (Utf8.encode "MIT")),
      ("README/LICENSE", .file (Utf8.encode "MIT"))]
    let r : Request := { fetchRemote := true }
    let setup : RemoteSetup (StateM Unit) := ⟨(mirror t "main").client, ⟨5000⟩, none, some "README"⟩
    let items := ((collect t ⟨"/p", none, [], []⟩ r (some setup)).run ()).1.items
    ∃ i ∈ items, ∃ j ∈ items, i.role = .standard ∧ j.role = .standard ∧
      i.source = .localFile ∧ j.source = .remote ∧
      i.path = j.path ∧ i.normalized = j.normalized := by
  decide +kernel

section Articles
variable {σ : Type} {repository : Repository} {f : Fetcher (StateM σ)}

theorem fetchAll_reached (held : f.client = repository.client) (reached : repository.failing = false)
    (preferred : Option Text) (kinds : List Kind) :
    Always (fun fetched => ∃ b, fetched.branch = some b) (f.fetchAll preferred kinds) := by
  have resolved : Always (fun found => ∃ b, found = .ok b) (f.branch preferred) := by
    unfold Fetcher.branch
    split
    case h_1 b _ => exact always_pure ⟨b, rfl⟩
    case h_2 =>
      rw [held, Repository.defaultBranch_client reached, pure_bind]
      exact always_pure ⟨repository.branch, rfl⟩
  unfold Fetcher.fetchAll
  refine resolved.bind ?_
  rintro _ ⟨b, rfl⟩
  exact (always_anything _).bind fun found _ => always_pure ⟨b, rfl⟩

theorem mem_folderItems (held : f.client = repository.client) {folder : Text}
    (listable : repository.check (Text.trimBy Repository.isSlash folder) = .ok ()) {e : Listed}
    (listed : e ∈ repository.listing folder) (readable : repository.check e.path = .ok ())
    {content : Text} (stored : repository.files.lookup e.path = some content)
    (solid : isBlank content = false) (b : Text) (role : Role) :
    Always (Local.folderItem role content e.name e.path .remote ∈ ·) (f.folderItems folder b role) := by
  have read : Always (· = some (Local.folderItem role content e.name e.path .remote))
      (f.folderItem? b role e) := by
    unfold Fetcher.folderItem?
    rw [held, Repository.fileContent_client readable, pure_bind, stored]
    exact always_pure rfl
  unfold Fetcher.folderItems
  rw [held, Repository.listFiles_client listable, pure_bind]
  refine (always_mapM_exists listed read).bind fun items found => always_pure ?_
  obtain ⟨_, mem, rfl⟩ := found
  exact List.mem_filter.mpr ⟨List.mem_filterMap.mpr ⟨_, mem, rfl⟩,
    by simpa [Item.hasContent, Local.folderItem] using solid⟩

theorem supplemental_sublist_planned (t : Tree) (s : Sources) (r : Request) (notes : List Note)
    (remotes : Candidates) :
    (r.supplemental.filter Item.hasContent).Sublist (planned t s r notes remotes).items := by
  change List.Sublist _ (plan r _ remotes).items
  rw [items_plan]
  exact List.sublist_append_right _ _

/-- Supplemental documents are compared with nothing. An article of the project that its repository lists
too is shown twice, under any mode and whether or not copies are wanted, the local one first. -/
theorem collect_article_twice {t : Tree} {s : Sources} {r : Request} (fetch : r.fetchRemote = true)
    {setup : RemoteSetup (StateM σ)} (held : setup.client = repository.client)
    (reached : repository.failing = false) (allowed : repository.forbidden = []) {folder : Text}
    (searched : folder ∈ s.docFolders) {i : Item}
    (here : i ∈ Local.itemsBelow t s.root folder .supplementalDoc)
    (there : ⟨i.fileName, i.path⟩ ∈ repository.listing folder)
    (same : repository.files.lookup i.path = some i.content) (state : σ) :
    [i, { i with source := .remote }].Sublist ((collect t s r (some setup)).run state).1.items := by
  have allowed := Repository.check_open reached allowed
  obtain ⟨made, solid⟩ := of_mem_itemsBelow here
  have remote (b : Text) : Always ({ i with source := .remote } ∈ ·)
      (setup.fetcher.folderItems folder b .supplementalDoc) := by
    have copy : Local.folderItem .supplementalDoc i.content i.fileName i.path .remote =
        { i with source := .remote } := by
      rw [made]
      rfl
    have found := mem_folderItems (f := setup.fetcher) held (allowed _) there (allowed _) same
      (by simpa [Item.hasContent] using solid) b .supplementalDoc
    rwa [copy] at found
  have both {more : List (List Item)} (added : ∃ items ∈ more, { i with source := .remote } ∈ items) :
      [i, { i with source := .remote }].Sublist
        (((withFolders t s r).supplemental ++ more.flatten).filter Item.hasContent) := by
    have first : i ∈ (withFolders t s r).supplemental := List.mem_append_left _
      (List.mem_append_right _ (List.mem_flatMap.mpr ⟨folder, searched, here⟩))
    have second := List.mem_flatten.mpr added
    rw [List.filter_append]
    exact (List.singleton_sublist.mpr (List.mem_filter.mpr ⟨first, solid⟩)).append
      (List.singleton_sublist.mpr (List.mem_filter.mpr ⟨second, solid⟩))
  refine (?_ : Always (fun result => [i, { i with source := .remote }].Sublist result.items)
    (collect t s r (some setup))) state
  change Always _ (collectWith t s r setup)
  unfold collectWith
  dsimp only
  rw [if_pos (show (withFolders t s r).fetchRemote = true from fetch)]
  refine (fetchAll_reached (f := setup.fetcher) held reached setup.branch fetchedKinds).bind ?_
  rintro fetched ⟨b, resolved⟩
  rw [resolved]
  refine (always_mapM_exists searched (remote b)).bind fun more added => ?_
  exact (items_sublist_backfillMissing _ _).imp fun result kept =>
    (both added).trans ((supplemental_sublist_planned t s _ _ _).trans kept)

end Articles

theorem collect_article_twice_guide :
    let t := Tree.ofList "/p" [("docs/guide.md", .file (Utf8.encode "# Guide"))]
    let r : Request := { mode := .both, fetchRemote := true }
    let setup : RemoteSetup (StateM Unit) := ⟨(mirror t "main").client, ⟨5000⟩, none, none⟩
    let guide : Item :=
      ⟨"Guide", .supplementalDoc, "# Guide", "guide.md", "docs/guide.md", .localFile, none⟩
    r.showDuplicates = false ∧ [guide, { guide with source := .remote }].Sublist
      ((collect t ⟨"/p", none, ["docs"], []⟩ r (some setup)).run ()).1.items := by
  intro t r setup guide
  have held : setup.client = (mirror t "main").client := rfl
  exact ⟨rfl, collect_article_twice rfl held rfl rfl List.mem_cons_self (by decide +kernel)
    (by decide +kernel) (by decide +kernel) ()⟩

end ModuleDocs.Selection
