import Mathlib.Data.Finset.Card
import ModuleDocs.Proofs.Document.Contents
import ModuleDocs.Proofs.Selection.Invariant

/-! The notes of a plan. Each kind that is asked for has its notes at its place in the order of
presentation: on copies within the project, on copies within the repository, and on the merge. Main
statement: when each of them is there, what the notes on copies count, and that no key is used twice,
also after documents are found later. -/
namespace ModuleDocs.Selection
open Text Document

def visibleContents (candidates : List Item) : List Text :=
  (candidates.filter Item.hasContent).map Item.normalized

/-- All contents that a plan may compare. -/
def contentsAtHand (r : Request) (locals remotes : Candidates) : Set Text :=
  {s | ∃ k, s ∈ visibleContents (localCandidates r locals k) ∨ s ∈ visibleContents (remotes k)}

/-- The note on copies within a source. It is there where copies are not wanted and some content stands
twice among the candidates, and counts the candidates beyond one for each content. -/
def copiesNote? (r : Request) (k : Kind) (source : Source) (candidates : List Item) : Option Note :=
  let contents := visibleContents candidates
  if r.showDuplicates = false ∧ ¬ contents.Nodup then
    some (.about k ("dedup-".toList ++ source.word)
      ("removed ".toList ++ Text.ofNat (contents.length - contents.toFinset.card) ++
        " duplicate ".toList ++ source.word ++ ' ' :: k.name ++ " candidate(s)".toList))
  else none

def mergeNote? (r : Request) (locals remotes : Candidates) (k : Kind) : Option Note :=
  (merge r k (localPick r locals k) (remotePick r remotes k)).notes.head?

theorem contents_dropCopies {texts : Set Text} (told : Set.InjOn Sha256.hexOf texts) {items : List Item}
    (inside : ∀ i ∈ items, i.normalized ∈ texts) {seen : List Text} (known : ∀ s ∈ seen, s ∈ texts) :
    let kept := (dropCopies (seen.map Sha256.hexOf) items).map Item.normalized
    kept.Nodup ∧ ∀ s, s ∈ kept ↔ s ∉ seen ∧ s ∈ items.map Item.normalized := by
  induction items generalizing seen with
  | nil => simp [dropCopies]
  | cons i rest ih =>
    rw [List.forall_mem_cons] at inside
    have key : (seen.map Sha256.hexOf).contains i.contentKey = true ↔ i.normalized ∈ seen := by
      rw [List.contains_iff_mem, List.mem_map]
      constructor
      · rintro ⟨s, mem, same⟩
        exact told (known s mem) inside.1 same ▸ mem
      · intro mem
        exact ⟨_, mem, rfl⟩
    by_cases mem : i.normalized ∈ seen
    case pos =>
      rw [dropCopies, if_pos (key.mpr mem)]
      obtain ⟨distinct, members⟩ := ih inside.2 known
      refine ⟨distinct, fun s => ?_⟩
      rw [members, List.map_cons, List.mem_cons]
      constructor
      · rintro ⟨new, later⟩
        exact ⟨new, .inr later⟩
      · rintro ⟨new, rfl | later⟩
        · exact absurd mem new
        · exact ⟨new, later⟩
    case neg =>
      rw [dropCopies, if_neg fun contained => mem (key.mp contained)]
      have keys : i.contentKey :: seen.map Sha256.hexOf = (i.normalized :: seen).map Sha256.hexOf := rfl
      rw [List.map_cons, List.map_cons, keys]
      have known' : ∀ s ∈ i.normalized :: seen, s ∈ texts := List.forall_mem_cons.mpr ⟨inside.1, known⟩
      obtain ⟨distinct, members⟩ := ih inside.2 known'
      refine ⟨?_, fun s => ?_⟩
      · rw [List.nodup_cons]
        exact ⟨fun again => ((members _).mp again).1 List.mem_cons_self, distinct⟩
      · rw [List.mem_cons, List.mem_cons, members s, List.mem_cons, not_or]
        by_cases same : s = i.normalized
        case pos => simp [same, mem]
        case neg => simp [same]

theorem length_dropCopies {texts : Set Text} (told : Set.InjOn Sha256.hexOf texts) {items : List Item}
    (inside : ∀ i ∈ items, i.normalized ∈ texts) :
    (dropCopies [] items).length = (items.map Item.normalized).toFinset.card := by
  have nothing : ∀ s ∈ ([] : List Text), s ∈ texts := fun s mem => absurd mem List.not_mem_nil
  obtain ⟨distinct, members⟩ := contents_dropCopies told inside nothing
  rw [List.map_nil] at distinct members
  have same : ((dropCopies [] items).map Item.normalized).toFinset =
      (items.map Item.normalized).toFinset := by
    ext s
    simpa using members s
  rw [← same, List.toFinset_card_of_nodup distinct, List.length_map]

theorem notes_eligible {texts : Set Text} (told : Set.InjOn Sha256.hexOf texts) (r : Request) (k : Kind)
    (source : Source) {candidates : List Item} (inside : ∀ s ∈ visibleContents candidates, s ∈ texts) :
    (eligible r k source candidates).notes = (copiesNote? r k source candidates).toList := by
  have counted : (dropCopies [] (candidates.filter Item.hasContent)).length =
      (visibleContents candidates).toFinset.card :=
    length_dropCopies told fun i mem => inside _ (List.mem_map_of_mem mem)
  have total : (candidates.filter Item.hasContent).length = (visibleContents candidates).length :=
    (List.length_map _).symm
  have bound := (visibleContents candidates).toFinset_card_le
  have none_removed : (visibleContents candidates).length - (visibleContents candidates).toFinset.card = 0 ↔
      (visibleContents candidates).Nodup := by
    constructor
    · intro none
      exact Multiset.toFinset_card_eq_card_iff_nodup.mp
        (Nat.le_antisymm bound (Nat.le_of_sub_eq_zero none))
    · intro distinct
      rw [List.toFinset_card_of_nodup distinct, Nat.sub_self]
  simp only [eligible, copiesNote?, counted, total, none_removed]
  cases r.showDuplicates with
  | true => simp
  | false => by_cases distinct : (visibleContents candidates).Nodup <;> simp [distinct]

def mergeEvents : List Text :=
  ["fallback-local", "fallback-remote", "hidden-remote", "hidden-local", "collapsed", "differs"]

theorem notes_merge (r : Request) (k : Kind) (here there : Option Item) :
    (merge r k here there).notes = [] ∨
      ∃ event ∈ mergeEvents, ∃ message, (merge r k here there).notes = [.about k event message] := by
  cases here with
  | none =>
    cases there with
    | none => exact .inl rfl
    | some j => exact .inr ⟨_, by decide, _, rfl⟩
  | some i =>
    cases there with
    | none =>
      rw [merge]
      split
      · exact .inr ⟨_, by decide, _, rfl⟩
      · exact .inl rfl
    | some j =>
      rw [merge]
      cases r.mode <;> dsimp only <;> split <;> exact .inr ⟨_, by decide, _, rfl⟩

theorem notes_merge_eq_nil_iff (r : Request) (k : Kind) (here there : Option Item) :
    (merge r k here there).notes = [] ↔ here = none ∧ there = none ∨
      here ≠ none ∧ there = none ∧ ¬ (r.mode = .preferRemote ∧ r.fetchRemote = true) := by
  cases here with
  | none =>
    cases there with
    | none => exact iff_of_true rfl (.inl ⟨rfl, rfl⟩)
    | some j => exact iff_of_false (List.cons_ne_nil _ _) (by simp)
  | some i =>
    cases there with
    | none =>
      rw [merge]
      dsimp only
      split
      case isTrue asked => exact iff_of_false (List.cons_ne_nil _ _) (by simp [asked])
      case isFalse late => exact iff_of_true rfl (.inr ⟨by simp, rfl, late⟩)
    | some j =>
      rw [merge]
      cases r.mode <;> dsimp only <;> split <;> exact iff_of_false (List.cons_ne_nil _ _) (by simp)

theorem toList_mergeNote? (r : Request) (locals remotes : Candidates) (k : Kind) :
    (mergeNote? r locals remotes k).toList =
      (merge r k (localPick r locals k) (remotePick r remotes k)).notes := by
  unfold mergeNote?
  rcases notes_merge r k (localPick r locals k) (remotePick r remotes k) with none | ⟨_, _, _, one⟩
  · rw [none]
    rfl
  · rw [one]
    rfl

theorem mergeNote?_eq_none_iff (r : Request) (locals remotes : Candidates) (k : Kind) :
    mergeNote? r locals remotes k = none ↔
      localPick r locals k = none ∧ remotePick r remotes k = none ∨
      localPick r locals k ≠ none ∧ remotePick r remotes k = none ∧
        ¬ (r.mode = .preferRemote ∧ r.fetchRemote = true) := by
  rw [← notes_merge_eq_nil_iff r k, ← toList_mergeNote?, Option.toList_eq_nil_iff]

section Plan
variable (r : Request) (locals remotes : Candidates)

theorem notes_decideKind (k : Kind) : (decideKind r locals remotes k).notes =
    (eligible r k .localFile (localCandidates r locals k)).notes ++
      (eligible r k .remote (remotes k)).notes ++ (mergeNote? r locals remotes k).toList := by
  simp only [decideKind, toList_mergeNote?, head?_eligible, find?_localCandidates, remotePick]

theorem notes_addKinds (kinds : List Kind) (result : Result) :
    (kinds.foldl (Result.addKind r locals remotes) result).notes =
      result.notes ++ kinds.flatMap fun k => (decideKind r locals remotes k).notes := by
  induction kinds generalizing result with
  | nil => simp
  | cons k rest ih =>
    rw [List.foldl_cons, ih]
    simp only [Result.addKind, List.flatMap_cons, List.append_assoc]

theorem notes_addSupplemental (extra : List Item) (result : Result) :
    (extra.foldl Result.addSupplemental result).notes = result.notes := by
  induction extra generalizing result with
  | nil => rfl
  | cons i rest ih =>
    rw [List.foldl_cons, ih, Result.addSupplemental]
    split <;> rfl

theorem notes_plan : (plan r locals remotes).notes =
    (requestedKinds r locals remotes).flatMap fun k => (decideKind r locals remotes k).notes := by
  simp only [plan, notes_addSupplemental, notes_addKinds, List.nil_append]

end Plan

def keyOf (k : Kind) (event : Text) : Text := k.name ++ ':' :: event

theorem kind_of_keyOf {k k' : Kind} {event event' : Text} (same : keyOf k event = keyOf k' event') :
    k = k' := by
  have named (k : Kind) : k.name ≠ [] := by cases k <;> decide
  have first := congrArg List.head? same
  rw [keyOf, keyOf, List.head?_append_of_ne_nil _ (named k), List.head?_append_of_ne_nil _ (named k')]
    at first
  revert first
  cases k <;> cases k' <;> decide

theorem keyOf_injective (k : Kind) : Function.Injective (keyOf k) := by
  intro event event' same
  exact (List.cons.inj (List.append_cancel_left same)).2

theorem exists_events (r : Request) (locals remotes : Candidates) (k : Kind) :
    ∃ events : List Text, (decideKind r locals remotes k).notes.map Note.key = events.map (keyOf k) ∧
      events.Nodup ∧ "backfilled".toList ∉ events := by
  have copies (source : Source) (candidates : List Item) :
      ∃ events : List Text, (eligible r k source candidates).notes.map Note.key = events.map (keyOf k) ∧
        events.Sublist ["dedup-".toList ++ source.word] := by
    unfold eligible
    dsimp only
    split
    · exact ⟨[], rfl, List.nil_sublist _⟩
    · split
      · exact ⟨[], rfl, List.nil_sublist _⟩
      · exact ⟨_, rfl, List.Sublist.refl _⟩
  obtain ⟨first, here, among⟩ := copies .localFile (localCandidates r locals k)
  obtain ⟨second, there, among'⟩ := copies .remote (remotes k)
  have merged : ∃ event ∈ mergeEvents, ∃ third : List Text, third.Sublist [event] ∧
      (mergeNote? r locals remotes k).toList.map Note.key = third.map (keyOf k) := by
    rw [toList_mergeNote?]
    rcases notes_merge r k (localPick r locals k) (remotePick r remotes k) with
      none | ⟨event, known, message, one⟩
    · rw [none]
      exact ⟨_, List.mem_cons_self, [], List.nil_sublist _, rfl⟩
    · rw [one]
      exact ⟨event, known, [event], List.Sublist.refl _, rfl⟩
  obtain ⟨event, known, third, among'', last⟩ := merged
  have whole := (among.append among').append among''
  have distinct : ∀ event ∈ mergeEvents,
      (["dedup-local".toList] ++ ["dedup-remote".toList] ++ [event]).Nodup ∧
        "backfilled".toList ∉ ["dedup-local".toList] ++ ["dedup-remote".toList] ++ [event] := by decide
  refine ⟨first ++ second ++ third, ?_, (distinct event known).1.sublist whole,
    fun mem => (distinct event known).2 (whole.subset mem)⟩
  rw [notes_decideKind, List.map_append, List.map_append, here, there, last, List.map_append,
    List.map_append]

/-- No key stands twice among the notes, and no kind that is missing was reported as found later. -/
structure KeyedOnce (result : Result) : Prop where
  distinct : (result.notes.map Note.key).Nodup
  unreported : ∀ k ∈ result.missing, keyOf k "backfilled" ∉ result.notes.map Note.key

theorem keyedOnce_plan (r : Request) (locals remotes : Candidates) :
    KeyedOnce (plan r locals remotes) := by
  choose events keys distinct fresh using exists_events r locals remotes
  have all : (plan r locals remotes).notes.map Note.key =
      (requestedKinds r locals remotes).flatMap fun k => (events k).map (keyOf k) := by
    simp only [notes_plan, List.map_flatMap, keys]
  have kinds : (requestedKinds r locals remotes).Nodup :=
    (requestedKinds_sublist r locals remotes).nodup (by decide)
  constructor
  · rw [all, List.nodup_flatMap]
    refine ⟨fun k _ => (distinct k).map (keyOf_injective k), kinds.imp ?_⟩
    intro k k' different key here there
    obtain ⟨event, -, rfl⟩ := List.mem_map.mp here
    obtain ⟨event', -, same⟩ := List.mem_map.mp there
    exact different (kind_of_keyOf same.symm)
  · intro k _ mem
    rw [all] at mem
    obtain ⟨k', -, mem⟩ := List.mem_flatMap.mp mem
    obtain ⟨event, inside, same⟩ := List.mem_map.mp mem
    obtain rfl := kind_of_keyOf same
    rw [keyOf_injective k' same] at inside
    exact fresh k' inside

theorem KeyedOnce.insertBackfill {result : Result} (h : KeyedOnce result) (i : Item) :
    KeyedOnce (result.insertBackfill i).2 := by
  have inserts := insertBackfill_cases result i
  generalize result.insertBackfill i = inserted at inserts
  cases inserts with
  | refused => exact h
  | taken k _ _ missing =>
    constructor
    · have keys := h.distinct.concat (h.unreported k missing)
      rw [List.concat_eq_append] at keys
      rw [List.map_append]
      exact keys
    · intro k' mem
      rw [List.mem_filter, bne_iff_ne] at mem
      rw [List.map_append, List.mem_append, not_or]
      refine ⟨h.unreported k' mem.1, fun reported => ?_⟩
      exact mem.2 (kind_of_keyOf (List.mem_singleton.mp reported))

theorem KeyedOnce.insertAll (found : List Item) {result : Result} (h : KeyedOnce result) :
    KeyedOnce (result.insertAll found) := by
  induction found generalizing result with
  | nil => exact h
  | cons i rest ih => exact ih (h.insertBackfill i)

/-- The notes of a plan, kind after kind in the order of presentation: on copies in the project, on copies
in the repository, and on the merge, each at most once. The merge is silent exactly where nothing was
picked or only a local document and no remote one was to come first. No key stands twice, whatever is
found later. -/
theorem plan_notes (r : Request) (locals remotes : Candidates)
    (free : CollisionFree (Utf8.encode '' contentsAtHand r locals remotes)) :
    (plan r locals remotes).notes = (requestedKinds r locals remotes).flatMap (fun k =>
      (copiesNote? r k .localFile (localCandidates r locals k)).toList ++
        (copiesNote? r k .remote (remotes k)).toList ++ (mergeNote? r locals remotes k).toList) ∧
    (requestedKinds r locals remotes).Sublist Kind.all ∧
    (∀ k, mergeNote? r locals remotes k = none ↔
      localPick r locals k = none ∧ remotePick r remotes k = none ∨
      localPick r locals k ≠ none ∧ remotePick r remotes k = none ∧
        ¬ (r.mode = .preferRemote ∧ r.fetchRemote = true)) ∧
    (∀ k, ∀ n ∈ mergeNote? r locals remotes k, ∃ event ∈ mergeEvents, n.key = keyOf k event) ∧
    ∀ found : List Item, (((plan r locals remotes).insertAll found).notes.map Note.key).Nodup := by
  have told := hexOf_injOn free
  refine ⟨?_, requestedKinds_sublist r locals remotes, mergeNote?_eq_none_iff r locals remotes,
    fun k n mem => ?_, fun found => ((keyedOnce_plan r locals remotes).insertAll found).distinct⟩
  · rw [notes_plan, List.flatMap_def, List.flatMap_def]
    congr 2
    funext k
    rw [notes_decideKind, notes_eligible told r k .localFile fun s mem => ⟨k, .inl mem⟩,
      notes_eligible told r k .remote fun s mem => ⟨k, .inr mem⟩]
  · have listed := Option.mem_toList.mpr mem
    rw [toList_mergeNote?] at listed
    rcases notes_merge r k (localPick r locals k) (remotePick r remotes k) with
      none | ⟨event, known, message, one⟩
    · rw [none] at listed
      contradiction
    · rw [one, List.mem_singleton] at listed
      exact ⟨event, known, listed ▸ rfl⟩

theorem plan_notes_readme :
    let r : Request := { mode := .preferRemote, fetchRemote := true }
    let readme (content : Text) := Item.ofKind .readme content "README" "README" .localFile
    let remote := Item.ofKind .readme "c" "README" "README" .remote
    let license := Item.ofKind .license "MIT" "LICENSE" ".github/LICENSE" .remote
    let locals := Candidates.ofFound fun k =>
      if k = .readme then [readme "a\r\n", readme "b", readme "a"] else []
    let remotes := Candidates.ofFound fun k => if k = .readme then [remote] else []
    CollisionFree (Utf8.encode '' contentsAtHand r locals remotes) ∧
    ((copiesNote? r .readme .localFile (localCandidates r locals .readme)).map Note.message) =
      some "removed 1 duplicate local readme candidate(s)".toList ∧
    ((plan r locals remotes).insertAll [license, license]).notes.map Note.key =
      ["readme:dedup-local".toList, "readme:differs".toList, "license:backfilled".toList] ∧
    (((plan r locals remotes).insertAll [license, license]).notes.map Note.key).Nodup := by
  intro r readme remote license locals remotes
  have texts : contentsAtHand r locals remotes ⊆ {s | s ∈ ["a".toList, "b".toList, "c".toList]} := by
    rintro s ⟨k, here | there⟩
    · revert s
      cases k <;> decide
    · revert s
      cases k <;> decide
  have free : CollisionFree (Utf8.encode '' contentsAtHand r locals remotes) :=
    Set.InjOn.mono (Set.image_mono texts) (collisionFree_of_nodup (by decide +kernel))
  exact ⟨free, by decide +kernel, by decide +kernel,
    (plan_notes r locals remotes free).2.2.2.2 [license, license]⟩

end ModuleDocs.Selection
