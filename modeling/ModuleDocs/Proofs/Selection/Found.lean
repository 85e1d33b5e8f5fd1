import ModuleDocs.Proofs.Remote.Listings
import ModuleDocs.Proofs.Remote.Visits
import ModuleDocs.Proofs.Selection.Invariant
import ModuleDocs.Proofs.Tree.Texts
import ModuleDocs.Selection.Collect

namespace ModuleDocs.Selection
open Text Document Remote
open ModuleDocs.Path (lastPart)

/-- The name at the end of a document's path is of no other kind than the document, and in a repository
it is of that kind. -/
structure Placed (k : Kind) (i : Item) : Prop where
  only : ∀ k', k'.matchesName (lastPart i.path) = true → k' = k
  remote : i.source = .remote → k.matchesName (lastPart i.path) = true

/-- No name in the tree holds a backslash, which a path that is shown has as a separator. -/
def PlainNames (t : Tree) : Prop :=
  ∀ e ∈ t.entries, ∀ name ∈ e.1, Path.Name name ∧ '\\' ∉ name

instance (t : Tree) : Decidable (PlainNames t) :=
  inferInstanceAs (Decidable (∀ e ∈ t.entries, ∀ name ∈ e.1, Path.Name name ∧ '\\' ∉ name))

theorem exists_entry_of_mem_filesIn {t : Tree} {place : List Text} {l : Tree.Leaf}
    (mem : l ∈ t.filesIn place) : ∃ e ∈ t.entries, l.name ∈ e.1 := by
  obtain ⟨name, content, file, rfl⟩ := Tree.mem_filesIn.mp mem
  exact ⟨_, file, List.mem_concat_self⟩

theorem pathIn?_eq_some {t : Tree} {k : Kind} {folder path : Text}
    (found : Local.pathIn? t k folder = some path) :
    ∃ e ∈ t.entries, ∃ name ∈ e.1, k.matchesName name = true ∧ path = Path.join folder name := by
  obtain ⟨place, -, found⟩ := Option.bind_eq_some_iff.mp found
  obtain ⟨l, chosen, rfl⟩ := Option.map_eq_some_iff.mp found
  obtain ⟨mem, matched⟩ := chosen?_eq_some chosen
  obtain ⟨e, entry, inside⟩ := exists_entry_of_mem_filesIn mem
  exact ⟨e, entry, l.name, inside, matched, rfl⟩

theorem exists_of_mem_paths {t : Tree} {k : Kind} {root : Text} {secondary : Option Text}
    {path : Text} (mem : path ∈ Local.paths t k root secondary) :
    ∃ folder, Local.pathIn? t k folder = some path := by
  rcases List.mem_append.mp mem with first | second
  · exact ⟨root, Option.mem_toList.mp first⟩
  · obtain ⟨folder, -, found⟩ :=
      Option.bind_eq_some_iff.mp (Option.mem_toList.mp (List.mem_of_mem_filter second))
    exact ⟨folder, found⟩

theorem lastPart_slashes {path : Text} (plain : '\\' ∉ lastPart path) :
    lastPart (path.map fun c => if c = '\\' then '/' else c) = lastPart path := by
  induction path using splitInduction '/' with
  | last s single =>
    rw [Path.lastPart_single single] at plain ⊢
    have same : s.map (fun c => if c = '\\' then '/' else c) = s.map id :=
      List.map_congr_left fun c mem => if_neg (ne_of_mem_of_not_mem mem plain)
    rw [same, List.map_id, Path.lastPart_single single]
  | more a b single ih =>
    rw [Path.lastPart_append_slash] at plain ⊢
    rw [List.map_append, List.map_cons, if_neg (by decide), Path.lastPart_append_slash, ih plain]

theorem lastPart_shownPath (root folder : Text) {name : Text} (h : Path.Name name)
    (plain : '\\' ∉ name) :
    let shown := Local.shownPath root (Path.join folder name)
    lastPart shown = name ∨ lastPart shown = [] ∨ lastPart shown = ['.'] := by
  intro shown
  have inner : ∀ path, lastPart path = name ∨ lastPart path = [] ∨ lastPart path = ['.'] →
      lastPart (path.map fun c => if c = '\\' then '/' else c) = lastPart path := by
    intro path ends
    apply lastPart_slashes
    rcases ends with last | last | last <;> rw [last]
    · exact plain
    · exact List.not_mem_nil
    · decide
  cases below : Path.below? root (Path.join folder name) with
  | none =>
    have last := Path.lastPart_join folder h
    simp only [shown, Local.shownPath, below, Option.getD_none, inner _ (.inl last), last]
    exact .inl trivial
  | some path =>
    have last := Path.lastPart_below? h below
    simp only [shown, Local.shownPath, below, Option.getD_some, inner _ last]
    exact last

theorem foundIn_candidates (t : Tree) (root : Text) (secondary : Option Text) :
    FoundIn .localFile (Local.candidates t root secondary) := by
  intro k i mem
  rw [Local.candidates_apply] at mem
  obtain ⟨path, -, read⟩ := List.mem_filterMap.mp (List.mem_of_mem_filter mem)
  obtain ⟨content, -, rfl⟩ := Option.map_eq_some_iff.mp read
  exact ⟨_, _, _, rfl⟩

theorem placed_candidates {t : Tree} (plain : PlainNames t) (root : Text) (secondary : Option Text)
    (k : Kind) : ∀ i ∈ Local.candidates t root secondary k, Placed k i := by
  intro i mem
  rw [Local.candidates_apply] at mem
  obtain ⟨path, found, read⟩ := List.mem_filterMap.mp (List.mem_of_mem_filter mem)
  obtain ⟨content, -, rfl⟩ := Option.map_eq_some_iff.mp read
  obtain ⟨folder, found⟩ := exists_of_mem_paths found
  obtain ⟨e, entry, name, inside, matched, rfl⟩ := pathIn?_eq_some found
  obtain ⟨single, unslashed⟩ := plain e entry name inside
  refine ⟨fun k' matched' => ?_, fun remote => nomatch remote⟩
  change k'.matchesName (lastPart (Local.shownPath root (Path.join folder name))) = true at matched'
  rcases lastPart_shownPath root folder single unslashed with last | last | last
  · rw [last] at matched'
    exact Kind.matchesName_unique matched' matched
  · rw [last, Kind.not_matchesName_nil] at matched'
    contradiction
  · rw [last, Kind.not_matchesName_point] at matched'
    contradiction

theorem of_mem_itemsBelow {t : Tree} {root folder : Text} {role : Role} {i : Item}
    (mem : i ∈ Local.itemsBelow t root folder role) :
    i = Local.folderItem role i.content i.fileName i.path .localFile ∧ i.hasContent = true := by
  unfold Local.itemsBelow at mem
  dsimp only at mem
  split at mem
  case h_1 => contradiction
  case h_2 =>
    obtain ⟨mem, solid⟩ := List.mem_filter.mp mem
    obtain ⟨l, -, read⟩ := List.mem_filterMap.mp mem
    obtain ⟨content, -, rfl⟩ := Option.map_eq_some_iff.mp read
    exact ⟨rfl, solid⟩

theorem own_folderItems {t : Tree} {root : Text} {folders : List Text} {role : Role}
    (other : role ≠ .standard) :
    ∀ i ∈ Local.folderItems t root folders role, i.kind = none ∧ i.role ≠ .standard := by
  intro i mem
  obtain ⟨folder, -, mem⟩ := List.mem_flatMap.mp mem
  rw [(of_mem_itemsBelow mem).1]
  exact ⟨rfl, other⟩

theorem ownItems_withFolders (t : Tree) (s : Sources) {r : Request} (own : r.OwnItems) :
    (withFolders t s r).OwnItems := by
  intro i mem
  rcases List.mem_append.mp mem with mem | script
  · rcases List.mem_append.mp mem with given | document
    · exact own i given
    · exact own_folderItems (by decide) i document
  · exact own_folderItems (by decide) i script

/-- Every entry of a listing has the name that its path ends in. -/
def Orderly (reply : Reply (List Listed)) : Prop :=
  ∀ entries, reply = some (.ok entries) → ∀ e ∈ entries, lastPart e.path = e.name

theorem lastPart_listing (r : Repository) (folder : Text) :
    ∀ e ∈ r.listing folder, lastPart e.path = e.name := by
  intro e mem
  obtain ⟨content, -, single, path⟩ := mem_listing.mp mem
  rw [path]
  split
  case isTrue => exact Path.lastPart_single single
  case isFalse =>
    rw [List.append_assoc, List.singleton_append, Path.lastPart_append_slash, Path.lastPart_single single]

theorem orderly_repository {σ : Type} (r : Repository) (folder b : Text) :
    Always Orderly ((r.client : Client (StateM σ)).listFiles folder b) := by
  refine always_pure fun entries listed => ?_
  cases checked : r.check (trimBy Repository.isSlash folder) with
  | error e => rw [checked] at listed; cases listed
  | ok _ =>
    rw [checked] at listed
    cases listed
    exact lastPart_listing r folder

theorem reply_of_bounded {α : Type} {limit : Duration} {reply : Reply α} {a : α}
    (answered : bounded limit reply = .ok a) : reply = some (.ok a) := by
  cases reply with
  | none => cases answered
  | some outcome => exact congrArg some answered

def FoundRemote (k : Kind) (i : Item) : Prop := IsCandidate k .remote i ∧ Placed k i

theorem foundRemote_ofKind {k : Kind} {entry : Listed} (named : lastPart entry.path = entry.name)
    (matched : k.matchesName entry.name = true) (content : Text) :
    FoundRemote k (Item.ofKind k content entry.name entry.path .remote) := by
  refine ⟨⟨_, _, _, rfl⟩, ⟨fun k' matched' => ?_, fun _ => ?_⟩⟩
  · change k'.matchesName (lastPart entry.path) = true at matched'
    rw [named] at matched'
    exact Kind.matchesName_unique matched' matched
  · change k.matchesName (lastPart entry.path) = true
    rw [named, matched]

section Fetch
variable {σ : Type} {f : Fetcher (StateM σ)}
  (orderly : ∀ folder b, Always Orderly (f.client.listFiles folder b))
include orderly

theorem candidateIn_found (k : Kind) (b folder : Text) :
    Always (fun found => ∀ i, found = .ok (some i) → FoundRemote k i) (f.candidateIn k b folder) := by
  intro s i found
  obtain ⟨o, s₁, visit⟩ := exists_visit f b k folder s
  rw [visit.run] at found
  obtain rfl : o = _ := found
  cases visit with
  | found listed answered chosen =>
    obtain ⟨mem, matched⟩ := chosen?_eq_some chosen
    have named := orderly folder b s
    rw [listed] at named
    exact foundRemote_ofKind (named _ (reply_of_bounded answered) _ mem) matched _

theorem candidatesIn_found (k : Kind) (b : Text) (folders : List Text) :
    Always (fun located => ∀ i ∈ located.items, FoundRemote k i) (f.candidatesIn k b folders) := by
  unfold Fetcher.candidatesIn
  have each : ∀ folder, Always
      (fun o : Text × Except RemoteError (Option Item) => ∀ i, o.2 = .ok (some i) → FoundRemote k i)
      (do pure (folder, ← f.candidateIn k b folder)) := fun folder =>
    (candidateIn_found orderly k b folder).bind fun _ found => always_pure found
  refine (always_mapM folders each).bind fun outcomes found => always_pure fun i mem => ?_
  obtain ⟨o, given, read⟩ := List.mem_filterMap.mp mem
  split at read
  case h_1 answered =>
    subst read
    exact found o given i answered
  case h_2 => contradiction

theorem backfill_found (k : Kind) (b : Text) :
    Always (fun found => ∀ i, found = some i → ∃ k, FoundRemote k i) (f.backfill k b) := by
  unfold Fetcher.backfill
  refine (candidatesIn_found orderly k b _).bind fun located found => always_pure fun i first => ?_
  exact ⟨k, found i (List.mem_of_head? first)⟩

theorem fetchAll_found (preferred : Option Text) (kinds : List Kind) :
    Always (fun fetched => ∀ k, ∀ i ∈ fetched.candidates k, FoundRemote k i)
      (f.fetchAll preferred kinds) := by
  unfold Fetcher.fetchAll
  refine (always_anything _).bind fun branch _ => ?_
  cases branch with
  | error e => exact always_pure fun k i mem => absurd mem List.not_mem_nil
  | ok b =>
    have each : ∀ k, Always (fun l : Kind × Located => ∀ i ∈ l.2.items, FoundRemote l.1 i)
        (do pure (k, ← f.candidates k b)) := fun k =>
      (candidatesIn_found orderly k b _).bind fun _ found => always_pure found
    refine (always_mapM kinds each).bind fun located found => always_pure fun k i mem => ?_
    obtain ⟨items, entry, mem⟩ := Candidates.mem_of.mp mem
    obtain ⟨l, last, rfl⟩ := Option.map_eq_some_iff.mp entry
    have given := List.mem_reverse.mp (List.mem_of_find?_eq_some last)
    have same : l.1 = k := by
      have holds := List.find?_some last
      simp only [Bool.and_eq_true, beq_iff_eq] at holds
      exact holds.1
    exact same ▸ found l given i mem

end Fetch

theorem folderItems_own {σ : Type} (f : Fetcher (StateM σ)) (folder b : Text) {role : Role}
    (other : role ≠ .standard) :
    Always (fun items => ∀ i ∈ items, i.kind = none ∧ i.role ≠ .standard)
      (f.folderItems folder b role) := by
  unfold Fetcher.folderItems
  refine (always_anything _).bind fun reply _ => ?_
  cases bounded f.bound reply with
  | error e => exact always_pure fun i mem => absurd mem List.not_mem_nil
  | ok entries =>
    have each : ∀ entry, Always (fun found => ∀ i, found = some i → i.kind = none ∧ i.role ≠ .standard)
        (f.folderItem? b role entry) := by
      intro entry
      unfold Fetcher.folderItem?
      refine (always_anything _).bind fun reply _ => ?_
      split
      case h_1 content _ =>
        refine always_pure fun i found => ?_
        obtain rfl := Option.some.inj found
        exact ⟨rfl, other⟩
      case h_2 => exact always_pure fun i found => nomatch found
    refine (always_mapM entries each).bind fun items own => always_pure fun i mem => ?_
    obtain ⟨found, given, same⟩ := List.mem_filterMap.mp (List.mem_of_mem_filter mem)
    exact own found given i same

end ModuleDocs.Selection
