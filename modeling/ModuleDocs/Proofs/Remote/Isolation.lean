import Mathlib.Data.List.Nodup
import ModuleDocs.Proofs.Remote.Visits

/-! Locations of a repository that fail on their own. A location is a folder that is searched for a kind.
Main statement: a fetch puts together what its locations give, place by place, so a location that changes
takes nothing from the others. -/
namespace ModuleDocs.Remote
open Document Selection

variable {σ : Type}

def Fetcher.locations {m : Type → Type} (f : Fetcher m) (kinds : List Kind) : List (Kind × Text) :=
  kinds.flatMap fun k => f.folders.map (k, ·)

def addedItem? : Outcome → Option Item
  | .ok found => found
  | .error _ => none

def addedNote? (k : Kind) (folder : Text) : Outcome → Option Note
  | .ok _ => none
  | .error e => some (Note.about k "remote-error" ("remote ".toList ++ k.name ++ " not fetched from ".toList ++
      shownFolder folder ++ ": ".toList ++ e.message))

def itemsFrom (given : Kind → Text → Outcome) (folders : List Text) (k : Kind) : List Item :=
  folders.filterMap fun folder => addedItem? (given k folder)

def notesFrom (given : Kind → Text → Outcome) (folders : List Text) (k : Kind) : List Note :=
  folders.filterMap fun folder => addedNote? k folder (given k folder)

/-- The items of each kind and the notes, kind after kind. There is an entry for a kind exactly if it was
asked for and has items. -/
structure Fetched.Holds (fetched : Fetched) (kinds : List Kind) (items : Kind → List Item)
    (notes : Kind → List Note) : Prop where
  entries : ∀ k, fetched.candidates.entry? k = if k ∈ kinds ∧ items k ≠ [] then some (items k) else none
  notes : fetched.notes = kinds.flatMap notes

theorem Fetched.Holds.candidates {fetched : Fetched} {kinds : List Kind} {items : Kind → List Item}
    {notes : Kind → List Note} (h : fetched.Holds kinds items notes) (k : Kind) :
    fetched.candidates k = if k ∈ kinds then items k else [] := by
  change (fetched.candidates.entry? k).getD [] = _
  rw [h.entries k]
  by_cases wanted : k ∈ kinds <;> by_cases found : items k = [] <;> simp [wanted, found]

section
variable {f : Fetcher (StateM σ)} {b : Text} {k : Kind} {s s₁ : σ}

def locatedFrom (given : Kind → Text → Outcome) (folders : List Text) (k : Kind) : Located :=
  Located.ofOutcomes (folders.map fun folder => (folder, given k folder))

theorem Visits.run_kinds {given : Kind → Text → Outcome} {kinds : List Kind}
    (h : Visits f b given (f.locations kinds) s s₁) :
    (kinds.mapM fun k => do pure (k, ← f.candidates k b)).run s =
      (kinds.map fun k => (k, locatedFrom given f.folders k), s₁) := by
  induction kinds generalizing s with
  | nil => cases h; rfl
  | cons k rest ih =>
    obtain ⟨s', first, others⟩ := h.append
    exact run_mapM_cons (run_bind first.run_candidatesIn) (ih others)

theorem items_locatedFrom (given : Kind → Text → Outcome) (folders : List Text) (k : Kind) :
    (locatedFrom given folders k).items = itemsFrom given folders k := by
  unfold locatedFrom Located.ofOutcomes
  dsimp only
  rw [List.filterMap_map]
  refine List.filterMap_congr fun folder _ => ?_
  dsimp only [Function.comp_apply]
  cases given k folder <;> rfl

theorem failureNotes_locatedFrom (given : Kind → Text → Outcome) (folders : List Text) (k : Kind) :
    failureNotes k (locatedFrom given folders k) = notesFrom given folders k := by
  unfold failureNotes locatedFrom Located.ofOutcomes
  dsimp only
  rw [List.filterMap_map, List.map_filterMap]
  refine List.filterMap_congr fun folder _ => ?_
  dsimp only [Function.comp_apply]
  cases given k folder <;> rfl

theorem entry?_ofLocated_map (b : Text) (kinds : List Kind) (located : Kind → Located) (k : Kind) :
    (Fetched.ofLocated b (kinds.map fun k => (k, located k))).candidates.entry? k =
      if k ∈ kinds ∧ (located k).items ≠ [] then some (located k).items else none := by
  unfold Fetched.ofLocated
  dsimp only
  cases last : (kinds.map fun k => (k, located k)).reverse.find?
      fun l => l.1 == k && !l.2.items.isEmpty with
  | none =>
    rw [Option.map_none, if_neg]
    rintro ⟨wanted, found⟩
    have listed : (k, located k) ∈ (kinds.map fun k => (k, located k)).reverse :=
      List.mem_reverse.mpr (List.mem_map_of_mem wanted)
    have empty := List.find?_eq_none.mp last _ listed
    simp only [beq_self_eq_true, Bool.true_and, Bool.not_eq_true, Bool.not_eq_false',
      List.isEmpty_iff] at empty
    exact found empty
  | some l =>
    have listed := List.mem_reverse.mp (List.mem_of_find?_eq_some last)
    have holds := List.find?_some last
    obtain ⟨k', wanted, rfl⟩ := List.mem_map.mp listed
    simp only [Bool.and_eq_true, beq_iff_eq, Bool.not_eq_true', List.isEmpty_eq_false_iff] at holds
    obtain ⟨rfl, found⟩ := holds
    rw [if_pos ⟨wanted, found⟩, Option.map_some]

theorem Visits.run_fetchAll {given : Kind → Text → Outcome} {preferred : Option Text} {kinds : List Kind}
    {s s₁ s₂ : σ} (resolved : (f.branch preferred).run s = (.ok b, s₁))
    (h : Visits f b given (f.locations kinds) s₁ s₂) : (f.fetchAll preferred kinds).run s =
      (Fetched.ofLocated b (kinds.map fun k => (k, locatedFrom given f.folders k)), s₂) := by
  unfold Fetcher.fetchAll
  rw [run_bind resolved]
  dsimp only
  rw [run_bind h.run_kinds]
  rfl

theorem nodup_folders {dir : Option Text} (searched : f.secondary = secondaryFolder? dir) :
    f.folders.Nodup := by
  unfold Fetcher.folders
  rw [searched]
  cases found : secondaryFolder? dir with
  | none => exact List.nodup_singleton []
  | some folder =>
    obtain ⟨-, named⟩ := Option.filter_eq_some_iff.mp found
    rw [Option.toList_some, List.nodup_cons, List.mem_singleton]
    refine ⟨fun root => ?_, List.nodup_singleton folder⟩
    rw [← root] at named
    contradiction

theorem nodup_locations (folders : f.folders.Nodup) {kinds : List Kind} (distinct : kinds.Nodup) :
    (f.locations kinds).Nodup := by
  refine List.nodup_flatMap.mpr ⟨fun k _ => folders.map fun _ _ same => (Prod.mk.inj same).2, ?_⟩
  refine distinct.imp fun different l here there => ?_
  obtain ⟨folder, -, rfl⟩ := List.mem_map.mp here
  obtain ⟨folder', -, same⟩ := List.mem_map.mp there
  exact different (congrArg Prod.fst same).symm

theorem Visits.holds {given : Kind → Text → Outcome} {preferred : Option Text} {kinds : List Kind}
    {s s₁ s₂ : σ} (resolved : (f.branch preferred).run s = (.ok b, s₁))
    (h : Visits f b given (f.locations kinds) s₁ s₂) :
    ((f.fetchAll preferred kinds).run s).1.Holds kinds (itemsFrom given f.folders)
      (notesFrom given f.folders) := by
  rw [h.run_fetchAll resolved]
  constructor
  · intro k
    rw [entry?_ofLocated_map, items_locatedFrom]
  · change (kinds.map _).flatMap _ = _
    rw [List.flatMap_map]
    exact congrArg (kinds.flatMap ·) (funext (failureNotes_locatedFrom given f.folders))

section
variable {given given' : Kind → Text → Outcome} {before after : List Text}

theorem itemsFrom_congr {folders : List Text}
    (same : ∀ folder ∈ folders, given k folder = given' k folder) :
    itemsFrom given folders k = itemsFrom given' folders k :=
  List.filterMap_congr fun folder mem => by rw [same folder mem]

theorem notesFrom_congr {folders : List Text}
    (same : ∀ folder ∈ folders, given k folder = given' k folder) :
    notesFrom given folders k = notesFrom given' folders k :=
  List.filterMap_congr fun folder mem => by rw [same folder mem]

theorem itemsFrom_split (given : Kind → Text → Outcome) (before : List Text) (folder : Text)
    (after : List Text) (k : Kind) : itemsFrom given (before ++ folder :: after) k =
      itemsFrom given before k ++ (addedItem? (given k folder)).toList ++ itemsFrom given after k := by
  unfold itemsFrom
  rw [List.filterMap_append, List.filterMap_cons, List.append_assoc]
  cases addedItem? (given k folder) <;> rfl

theorem notesFrom_split (given : Kind → Text → Outcome) (before : List Text) (folder : Text)
    (after : List Text) (k : Kind) : notesFrom given (before ++ folder :: after) k =
      notesFrom given before k ++ (addedNote? k folder (given k folder)).toList ++
        notesFrom given after k := by
  unfold notesFrom
  rw [List.filterMap_append, List.filterMap_cons, List.append_assoc]
  cases addedNote? k folder (given k folder) <;> rfl

theorem Fetched.Holds.around {fetched : Fetched} {kinds : List Kind} {folder : Text}
    (h : fetched.Holds kinds (itemsFrom given' (before ++ folder :: after))
      (notesFrom given' (before ++ folder :: after)))
    (same : ∀ k ∈ kinds, ∀ other ∈ before ++ after, given k other = given' k other) :
    fetched.Holds kinds
      (fun k => itemsFrom given before k ++ (addedItem? (given' k folder)).toList ++
        itemsFrom given after k)
      (fun k => notesFrom given before k ++ (addedNote? k folder (given' k folder)).toList ++
        notesFrom given after k) := by
  have first : ∀ k ∈ kinds, ∀ other ∈ before, given k other = given' k other :=
    fun k wanted other mem => same k wanted other (List.mem_append_left after mem)
  have last : ∀ k ∈ kinds, ∀ other ∈ after, given k other = given' k other :=
    fun k wanted other mem => same k wanted other (List.mem_append_right before mem)
  constructor
  · intro k
    rw [h.entries k]
    by_cases wanted : k ∈ kinds
    · rw [itemsFrom_split, itemsFrom_congr (first k wanted), itemsFrom_congr (last k wanted)]
    · rw [if_neg fun both => wanted both.1, if_neg fun both => wanted both.1]
  · rw [h.notes]
    refine List.flatMap_congr fun k wanted => ?_
    rw [notesFrom_split, notesFrom_congr (first k wanted), notesFrom_congr (last k wanted)]

end

theorem Visits.items {given : Kind → Text → Outcome} {kinds : List Kind} {s s₂ : σ}
    (h : Visits f b given (f.locations kinds) s s₂) (wanted : k ∈ kinds) :
    ∀ i ∈ itemsFrom given f.folders k, i.hasContent = true ∧ i.source = .remote ∧ i.kind = some k := by
  intro i mem
  obtain ⟨folder, searched, added⟩ := List.mem_filterMap.mp mem
  obtain ⟨_, _, visit⟩ := h.exists_visit
    (List.mem_flatMap.mpr ⟨k, wanted, List.mem_map_of_mem searched⟩)
  cases outcome : given k folder with
  | error e => rw [outcome] at added; contradiction
  | ok found =>
    rw [outcome] at added visit
    obtain rfl : found = some i := added
    exact visit.item

theorem Fetched.Holds.candidates_eq {fetched fetched' : Fetched} {kinds : List Kind}
    {given given' : Kind → Text → Outcome} {before after : List Text} {folder : Text}
    {notes notes' : Kind → List Note}
    (h : fetched.Holds kinds (fun k => itemsFrom given before k ++ (addedItem? (given k folder)).toList ++
      itemsFrom given after k) notes)
    (h' : fetched'.Holds kinds (fun k => itemsFrom given before k ++
      (addedItem? (given' k folder)).toList ++ itemsFrom given after k) notes')
    (same : given k folder = given' k folder) : fetched.candidates k = fetched'.candidates k := by
  rw [h.candidates k, h'.candidates k, same]

/-- With a branch at hand, a fetch holds for each kind the documents of the folders that gave one, in the
order of the folders, and a note for each folder that failed. Where a second client, at any other state,
answers differently in one folder only, both fetches have in common all that is not from this folder, and
every kind for which its outcome is the same has the same documents. -/
theorem fetchAll_isolated (f : Fetcher (StateM σ)) {dir : Option Text}
    (searched : f.secondary = secondaryFolder? dir) {kinds : List Kind} (distinct : kinds.Nodup)
    {preferred : Option Text} {b : Text} {s s₁ : σ} (resolved : (f.branch preferred).run s = (.ok b, s₁)) :
    let fetched := ((f.fetchAll preferred kinds).run s).1
    ∃ given s₂, Visits f b given (f.locations kinds) s₁ s₂ ∧ fetched.branch = some b ∧
      fetched.Holds kinds (itemsFrom given f.folders) (notesFrom given f.folders) ∧
      (∀ k, ∀ i ∈ fetched.candidates k, i.hasContent = true ∧ i.source = .remote ∧ i.kind = some k) ∧
      ∀ {σ' : Type} (f' : Fetcher (StateM σ')) (_ : f'.secondary = f.secondary) {preferred' : Option Text}
        {b' : Text} {s' s₁' : σ'} (_ : (f'.branch preferred').run s' = (.ok b', s₁')),
        let fetched' := ((f'.fetchAll preferred' kinds).run s').1
        ∃ given' s₂', Visits f' b' given' (f'.locations kinds) s₁' s₂' ∧
          ∀ before folder after, f.folders = before ++ folder :: after →
            (∀ k ∈ kinds, ∀ other ∈ before ++ after, given k other = given' k other) →
            (∀ k ∈ kinds, given k folder = given' k folder →
              fetched.candidates k = fetched'.candidates k) ∧
            fetched.Holds kinds
              (fun k => itemsFrom given before k ++ (addedItem? (given k folder)).toList ++
                itemsFrom given after k)
              (fun k => notesFrom given before k ++ (addedNote? k folder (given k folder)).toList ++
                notesFrom given after k) ∧
            fetched'.Holds kinds
              (fun k => itemsFrom given before k ++ (addedItem? (given' k folder)).toList ++
                itemsFrom given after k)
              (fun k => notesFrom given before k ++ (addedNote? k folder (given' k folder)).toList ++
                notesFrom given after k) := by
  intro fetched
  have several := nodup_locations (nodup_folders searched) distinct
  obtain ⟨given, s₂, visits⟩ := exists_visits f b several s₁
  have holds := visits.holds resolved
  refine ⟨given, s₂, visits, ?_, holds, fun k i mem => ?_, ?_⟩
  · exact congrArg (·.1.branch) (visits.run_fetchAll resolved)
  · rw [holds.candidates k] at mem
    split at mem
    case isTrue wanted => exact visits.items wanted i mem
    case isFalse => contradiction
  · intro σ' f' secondary preferred' b' s' s₁' resolved' fetched'
    have folders : f'.folders = f.folders := congrArg ([] :: Option.toList ·) secondary
    have several' := nodup_locations (nodup_folders (secondary.trans searched)) distinct
    obtain ⟨given', s₂', visits'⟩ := exists_visits f' b' several' s₁'
    have holds' := visits'.holds resolved'
    refine ⟨given', s₂', visits', fun before folder after split same => ?_⟩
    rw [split] at holds
    rw [folders, split] at holds'
    have around := holds.around fun _ _ _ _ => rfl
    have around' := holds'.around same
    exact ⟨fun k _ here => around.candidates_eq around' here, around, around'⟩

end

/-- A folder that is forbidden in one repository and open in another: its readme and the notes on it are all
that the fetches differ in. Neither has an entry for the license. -/
theorem fetchAll_isolated_forbidden :
    let files : List (Text × Text) := [("README".toList, "a".toList), ("docs/README".toList, "b".toList),
      ("CHANGELOG".toList, "c".toList)]
    let folder : Text := "docs".toList
    let f : Fetcher (StateM Unit) := {
      client := Repository.client { branch := "main".toList, files, forbidden := [folder] }
      bound := ⟨1000⟩, secondary := some folder }
    let f' : Fetcher (StateM Unit) := { f with
      client := Repository.client { branch := "main".toList, files } }
    let kinds : List Kind := [.readme, .changelog, .license]
    let fetched := ((f.fetchAll none kinds).run ()).1
    let fetched' := ((f'.fetchAll none kinds).run ()).1
    f.secondary = secondaryFolder? (some "docs/".toList) ∧ kinds.Nodup ∧
    (f.branch none).run () = (.ok "main".toList, ()) ∧ (f'.branch none).run () = (.ok "main".toList, ()) ∧
    (fetched.candidates .readme).map Item.path = ["README".toList] ∧
    (fetched'.candidates .readme).map Item.path = ["README".toList, "docs/README".toList] ∧
    fetched.candidates.entry? .license = none ∧ fetched'.candidates.entry? .license = none ∧
    fetched.notes.map Note.key = ["readme:remote-error".toList, "changelog:remote-error".toList,
      "license:remote-error".toList] ∧
    ∃ given given' : Kind → Text → Outcome, (∀ k ∈ kinds, given k [] = given' k []) ∧
      fetched.Holds kinds (fun k => itemsFrom given [[]] k ++ (addedItem? (given k folder)).toList ++ [])
        (fun k => notesFrom given [[]] k ++ (addedNote? k folder (given k folder)).toList ++ []) ∧
      fetched'.Holds kinds (fun k => itemsFrom given [[]] k ++ (addedItem? (given' k folder)).toList ++ [])
        (fun k => notesFrom given [[]] k ++ (addedNote? k folder (given' k folder)).toList ++ []) := by
  intro files folder f f' kinds fetched fetched'
  have searched : f.secondary = secondaryFolder? (some "docs/".toList) := by decide
  have distinct : kinds.Nodup := by decide
  have resolved : (f.branch none).run () = (.ok "main".toList, ()) := rfl
  have resolved' : (f'.branch none).run () = (.ok "main".toList, ()) := rfl
  refine ⟨searched, distinct, resolved, resolved', by decide, by decide, by decide, by decide, by decide, ?_⟩
  obtain ⟨given, s₂, visits, -, -, -, others⟩ := fetchAll_isolated f searched distinct resolved
  obtain ⟨given', s₂', visits', apart⟩ := others f' rfl resolved'
  have root : ∀ k ∈ kinds, given k [] = given' k [] := by
    intro k wanted
    have mem : (k, []) ∈ f.locations kinds :=
      List.mem_flatMap.mpr ⟨k, wanted, List.mem_map_of_mem List.mem_cons_self⟩
    obtain ⟨_, _, visit⟩ := visits.exists_visit mem
    obtain ⟨_, _, visit'⟩ := visits'.exists_visit mem
    have same : ∀ k ∈ kinds, ((f.candidateIn k "main".toList []).run ()).1 =
        ((f'.candidateIn k "main".toList []).run ()).1 := by decide
    have here := same k wanted
    rwa [visit.run, visit'.run] at here
  refine ⟨given, given', root, (apart [[]] folder [] rfl fun k wanted other mem => ?_).2⟩
  obtain rfl := List.mem_singleton.mp mem
  exact root k wanted

end ModuleDocs.Remote
