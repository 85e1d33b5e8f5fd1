import ModuleDocs.Proofs.Selection.Policy

/-! What holds of a selection at any time: after the plan, and after every document that is found
later. Each step of the plan and each insertion preserves it, so a whole run does. -/
namespace ModuleDocs.Selection
open Document

/-- An item as every search builds it: of a kind, from a source. -/
def IsCandidate (k : Kind) (source : Source) (i : Item) : Prop :=
  ∃ content fileName path, i = Item.ofKind k content fileName path source

theorem IsCandidate.kind_eq {k : Kind} {source : Source} {i : Item} (h : IsCandidate k source i) :
    i.kind = some k := by
  obtain ⟨_, _, _, rfl⟩ := h
  rfl

theorem IsCandidate.role_eq {k : Kind} {source : Source} {i : Item} (h : IsCandidate k source i) :
    i.role = .standard := by
  obtain ⟨_, _, _, rfl⟩ := h
  rfl

theorem IsCandidate.source_eq {k : Kind} {source : Source} {i : Item}
    (h : IsCandidate k source i) : i.source = source := by
  obtain ⟨_, _, _, rfl⟩ := h
  rfl

def FoundIn (source : Source) (candidates : Candidates) : Prop :=
  ∀ k, ∀ i ∈ candidates k, IsCandidate k source i

/-- The items of the request itself stand for no kind. -/
def Request.OwnItems (r : Request) : Prop :=
  ∀ i ∈ r.supplemental, i.kind = none ∧ i.role ≠ .standard

def copies (k : Kind) (source : Source) (items : List Item) : List Item :=
  items.filter fun i => i.kind == some k && i.source == source

def StandardFirst (items : List Item) : Prop :=
  ∃ standard others, items = standard ++ others ∧
    (∀ i ∈ standard, i.role = .standard) ∧ ∀ i ∈ others, i.role ≠ .standard

/-- The facts about a selection, for the kinds that were asked for. -/
structure WellFormed (requested : List Kind) (result : Result) : Prop where
  visible : ∀ i ∈ result.items, i.hasContent
  standardFirst : StandardFirst result.items
  remote : result.usedRemote = true ↔ ∃ i ∈ result.items, i.source = .remote
  missing : ∀ k ∈ requested, k ∈ result.missing ↔ ∀ i ∈ result.items, i.kind ≠ some k
  unasked : ∀ k, k ∉ requested → k ∉ result.missing ∧ ∀ i ∈ result.items, i.kind ≠ some k
  ordered : result.missing.Sublist requested
  single : ∀ k source, (copies k source result.items).length ≤ 1

theorem WellFormed.no_item {requested : List Kind} {result : Result}
    (h : WellFormed requested result) {k : Kind} (absent : k ∈ result.missing) :
    ∀ i ∈ result.items, i.kind ≠ some k :=
  (h.missing k (h.ordered.subset absent)).mp absent

theorem mergePicks_some (mode : Mode) (showDuplicates : Bool) (i j : Item) :
    mergePicks mode showDuplicates (some i) (some j) ∈ [[i], [j], [i, j], [j, i]] := by
  simp only [mergePicks]
  split <;> split <;> simp

theorem mem_mergePicks {mode : Mode} {showDuplicates : Bool} {here there : Option Item} {i : Item}
    (h : i ∈ mergePicks mode showDuplicates here there) : here = some i ∨ there = some i := by
  cases here with
  | none => cases there <;> simp_all [mergePicks]
  | some a =>
    cases there with
    | none => simp_all [mergePicks]
    | some b =>
      have form := mergePicks_some mode showDuplicates a b
      simp only [List.mem_cons, List.not_mem_nil, or_false] at form
      rcases form with form | form | form | form <;> simp_all [eq_comm, or_comm]

theorem localPick_found {r : Request} {locals : Candidates} {k : Kind} {i : Item}
    (found : FoundIn .localFile locals) (pick : localPick r locals k = some i) :
    i.hasContent = true ∧ IsCandidate k .localFile i := by
  simp only [localPick] at pick
  split at pick
  · refine ⟨List.find?_some pick, ?_⟩
    rcases List.mem_append.mp (List.mem_of_find?_eq_some pick) with configured | h
    · split at configured
      · rename_i kind
        obtain ⟨t, _, rfl⟩ := by simpa using configured
        exact ⟨t, [], [], by rw [kind]⟩
      · simp at configured
    · exact found k i h
  · contradiction

theorem remotePick_found {r : Request} {remotes : Candidates} {k : Kind} {i : Item}
    (found : FoundIn .remote remotes) (pick : remotePick r remotes k = some i) :
    i.hasContent = true ∧ IsCandidate k .remote i := by
  unfold remotePick at pick
  split at pick
  · exact ⟨List.find?_some pick, found k i (List.mem_of_find?_eq_some pick)⟩
  · contradiction

structure Joins (k : Kind) (new : List Item) : Prop where
  visible : ∀ i ∈ new, i.hasContent = true
  found : ∀ i ∈ new, ∃ source, IsCandidate k source i
  single : ∀ source, (copies k source new).length ≤ 1

theorem shown_joins {r : Request} {locals remotes : Candidates}
    (here : FoundIn .localFile locals) (there : FoundIn .remote remotes) (k : Kind) :
    Joins k (shown r locals remotes k) := by
  constructor
  · intro i member
    rcases mem_mergePicks member with pick | pick
    · exact (localPick_found here pick).1
    · exact (remotePick_found there pick).1
  · intro i member
    rcases mem_mergePicks member with pick | pick
    · exact ⟨_, (localPick_found here pick).2⟩
    · exact ⟨_, (remotePick_found there pick).2⟩
  · intro source
    unfold shown
    cases here? : localPick r locals k with
    | none =>
      cases remotePick r remotes k with
      | none => exact Nat.zero_le 1
      | some j => exact List.length_filter_le _ [j]
    | some i =>
      cases there? : remotePick r remotes k with
      | none => exact List.length_filter_le _ [i]
      | some j =>
        have fromLocal := (localPick_found here here?).2
        have fromRemote := (remotePick_found there there?).2
        have form := mergePicks_some r.mode r.showDuplicates i j
        simp only [List.mem_cons, List.not_mem_nil, or_false] at form
        rcases form with form | form | form | form <;> rw [form] <;> cases source <;>
          simp [copies, fromLocal.source_eq, fromRemote.source_eq, fromLocal.kind_eq,
            fromRemote.kind_eq]

/-- Items join a selection behind its standard documents and before all others. -/
structure Added (new : List Item) (result result' : Result) : Prop where
  placed : ∃ standard others, result.items = standard ++ others ∧
    (∀ i ∈ standard, i.role = .standard) ∧ (∀ i ∈ others, i.role ≠ .standard) ∧
    result'.items = standard ++ new ++ others
  used : result'.usedRemote = (result.usedRemote || new.any fun i => i.source == .remote)

theorem Added.mem {new : List Item} {result result' : Result} (h : Added new result result')
    {i : Item} : i ∈ result'.items ↔ i ∈ new ∨ i ∈ result.items := by
  obtain ⟨standard, others, before, _, _, after⟩ := h.placed
  rw [before, after]
  simp only [List.mem_append]
  constructor
  · rintro ((h | h) | h)
    · exact .inr (.inl h)
    · exact .inl h
    · exact .inr (.inr h)
  · rintro (h | h | h)
    · exact .inl (.inr h)
    · exact .inl (.inl h)
    · exact .inr h

theorem Added.length_copies {new : List Item} {result result' : Result}
    (h : Added new result result') (k : Kind) (source : Source) :
    (copies k source result'.items).length =
      (copies k source new).length + (copies k source result.items).length := by
  obtain ⟨standard, others, before, _, _, after⟩ := h.placed
  rw [before, after]
  simp only [copies, List.filter_append, List.length_append]
  omega

theorem Joins.kind_eq {k : Kind} {new : List Item} (h : Joins k new) {i : Item} (member : i ∈ new) :
    i.kind = some k := by
  obtain ⟨_, candidate⟩ := h.found i member
  exact candidate.kind_eq

section Step
variable {k : Kind} {new : List Item} {result result' : Result}

theorem Added.visible (h : Added new result result') (joins : Joins k new)
    (before : ∀ i ∈ result.items, i.hasContent = true) :
    ∀ i ∈ result'.items, i.hasContent = true := by
  intro i member
  rcases h.mem.mp member with member | member
  · exact joins.visible i member
  · exact before i member

theorem Added.standardFirst (h : Added new result result') (joins : Joins k new) :
    StandardFirst result'.items := by
  obtain ⟨standard, others, _, first, last, after⟩ := h.placed
  refine ⟨standard ++ new, others, after, ?_, last⟩
  intro i member
  rcases List.mem_append.mp member with member | member
  · exact first i member
  · obtain ⟨_, candidate⟩ := joins.found i member
    exact candidate.role_eq

theorem Added.usedRemote_iff (h : Added new result result')
    (before : result.usedRemote = true ↔ ∃ i ∈ result.items, i.source = .remote) :
    result'.usedRemote = true ↔ ∃ i ∈ result'.items, i.source = .remote := by
  rw [h.used, Bool.or_eq_true, before, List.any_eq_true]
  constructor
  · rintro (⟨i, member, remote⟩ | ⟨i, member, remote⟩)
    · exact ⟨i, h.mem.mpr (.inr member), remote⟩
    · exact ⟨i, h.mem.mpr (.inl member), by simpa using remote⟩
  · rintro ⟨i, member, remote⟩
    rcases h.mem.mp member with member | member
    · exact .inr ⟨i, member, by simpa using remote⟩
    · exact .inl ⟨i, member, remote⟩

theorem Added.free_other (h : Added new result result') (joins : Joins k new) {j : Kind}
    (other : j ≠ k) : (∀ i ∈ result'.items, i.kind ≠ some j) ↔
      ∀ i ∈ result.items, i.kind ≠ some j := by
  constructor
  · intro free i member
    exact free i (h.mem.mpr (.inr member))
  · intro free i member
    rcases h.mem.mp member with member | member
    · rw [joins.kind_eq member]
      simpa using Ne.symm other
    · exact free i member

theorem Added.free_self (h : Added new result result') (joins : Joins k new)
    (before : ∀ i ∈ result.items, i.kind ≠ some k) :
    (∀ i ∈ result'.items, i.kind ≠ some k) ↔ new = [] := by
  constructor
  · intro free
    refine List.eq_nil_iff_forall_not_mem.mpr fun i member => ?_
    exact free i (h.mem.mpr (.inl member)) (joins.kind_eq member)
  · rintro rfl i member
    exact before i (by simpa using h.mem.mp member)

theorem Added.single (h : Added new result result') (joins : Joins k new)
    (free : ∀ i ∈ result.items, i.kind ≠ some k)
    (before : ∀ j source, (copies j source result.items).length ≤ 1) (j : Kind) (source : Source) :
    (copies j source result'.items).length ≤ 1 := by
  rw [h.length_copies]
  by_cases same : j = k
  · subst same
    have none : copies j source result.items = [] := by
      refine List.filter_eq_nil_iff.mpr fun i member => ?_
      simp [free i member]
    simpa [none] using joins.single source
  · have none : copies j source new = [] := by
      refine List.filter_eq_nil_iff.mpr fun i member => ?_
      simp [joins.kind_eq member, Ne.symm same]
    simpa [none] using before j source

/-- The step of every run: the items of a kind that had none join a selection. The kind is then
missing exactly if no item came. -/
theorem WellFormed.add {requested requested' : List Kind} (h : WellFormed requested result)
    (joins : Joins k new) (free : ∀ i ∈ result.items, i.kind ≠ some k)
    (added : Added new result result') (asked : ∀ j, j ∈ requested' ↔ j = k ∨ j ∈ requested)
    (missing : ∀ j, j ∈ result'.missing ↔ (j = k ∧ new = []) ∨ (j ≠ k ∧ j ∈ result.missing))
    (ordered : result'.missing.Sublist requested') : WellFormed requested' result' := by
  refine ⟨added.visible joins h.visible, added.standardFirst joins, added.usedRemote_iff h.remote,
    ?_, ?_, ordered, added.single joins free h.single⟩
  · intro j member
    by_cases same : j = k
    · subst same
      rw [missing, added.free_self joins free]
      simp
    · have earlier := h.missing j (((asked j).mp member).resolve_left same)
      rw [missing, added.free_other joins same, ← earlier]
      simp [same]
  · intro j absent
    have other : j ≠ k := fun same => absent ((asked j).mpr (.inl same))
    have earlier := h.unasked j fun member => absent ((asked j).mpr (.inr member))
    refine ⟨?_, (added.free_other joins other).mpr earlier.2⟩
    rw [missing]
    simp [other, earlier.1]

end Step

theorem wellFormed_nothing : WellFormed [] {} := by
  constructor <;> simp [copies]
  exact ⟨[], [], rfl, by simp, by simp⟩

theorem WellFormed.addKind {r : Request} {locals remotes : Candidates} {requested : List Kind}
    {result : Result} {k : Kind} (here : FoundIn .localFile locals)
    (there : FoundIn .remote remotes) (h : WellFormed requested result)
    (standard : ∀ i ∈ result.items, i.role = .standard) (new : k ∉ requested) :
    WellFormed (requested ++ [k]) (result.addKind r locals remotes k) ∧
      ∀ i ∈ (result.addKind r locals remotes k).items, i.role = .standard := by
  have joins := shown_joins (r := r) here there k
  have items := items_decideKind r locals remotes k
  have added : Added (shown r locals remotes k) result (result.addKind r locals remotes k) := by
    refine ⟨⟨result.items, [], by simp, standard, by simp, ?_⟩, ?_⟩
    · simp [Result.addKind, items]
    · simp only [Result.addKind, items]
  constructor
  · refine h.add joins (h.unasked k new).2 added ?_ ?_ ?_
    · intro j
      simp [or_comm]
    · intro j
      have fresh := (h.unasked k new).1
      simp only [Result.addKind, items, List.isEmpty_iff]
      split <;> by_cases same : j = k <;> simp_all
    · simp only [Result.addKind, items, List.isEmpty_iff]
      split
      · exact h.ordered.append (List.Sublist.refl _)
      · exact h.ordered.trans (List.sublist_append_left _ _)
  · intro i member
    rcases added.mem.mp member with member | member
    · obtain ⟨_, candidate⟩ := joins.found i member
      exact candidate.role_eq
    · exact standard i member

theorem wellFormed_addKinds {r : Request} {locals remotes : Candidates}
    (here : FoundIn .localFile locals) (there : FoundIn .remote remotes) (kinds : List Kind)
    {requested : List Kind} {result : Result} (h : WellFormed requested result)
    (standard : ∀ i ∈ result.items, i.role = .standard) (distinct : (requested ++ kinds).Nodup) :
    WellFormed (requested ++ kinds) (kinds.foldl (Result.addKind r locals remotes) result) := by
  induction kinds generalizing requested result with
  | nil => simpa using h
  | cons k rest ih =>
    have new : k ∉ requested := fun member =>
      (List.nodup_append.mp distinct).2.2 k member k List.mem_cons_self rfl
    have step := h.addKind (r := r) here there standard new
    have regroup : requested ++ k :: rest = (requested ++ [k]) ++ rest := by simp
    rw [regroup] at distinct ⊢
    exact ih step.1 step.2 distinct

theorem WellFormed.addSupplemental {requested : List Kind} {result : Result} {i : Item}
    (h : WellFormed requested result) (own : i.kind = none ∧ i.role ≠ .standard) :
    WellFormed requested (result.addSupplemental i) := by
  unfold Result.addSupplemental
  split
  · rename_i content
    have free : ∀ k : Kind, (∀ j ∈ result.items ++ [i], j.kind ≠ some k) ↔
        ∀ j ∈ result.items, j.kind ≠ some k := by
      intro k
      simp [or_imp, forall_and, own.1]
    refine ⟨?_, ?_, ?_, ?_, ?_, h.ordered, ?_⟩
    · intro j member
      rcases List.mem_append.mp member with member | member
      · exact h.visible j member
      · rw [List.mem_singleton.mp member]
        exact content
    · obtain ⟨standard, others, items, first, last⟩ := h.standardFirst
      refine ⟨standard, others ++ [i], by simp [items], first, ?_⟩
      intro j member
      rcases List.mem_append.mp member with member | member
      · exact last j member
      · rw [List.mem_singleton.mp member]
        exact own.2
    · simp [h.remote, or_and_right, exists_or]
    · intro k member
      rw [free]
      exact h.missing k member
    · intro k absent
      rw [free]
      exact h.unasked k absent
    · intro k source
      simpa [copies, own.1] using h.single k source
  · exact h

theorem wellFormed_addSupplemental {requested : List Kind} (extra : List Item) {result : Result}
    (h : WellFormed requested result) (own : ∀ i ∈ extra, i.kind = none ∧ i.role ≠ .standard) :
    WellFormed requested (extra.foldl Result.addSupplemental result) := by
  induction extra generalizing result with
  | nil => exact h
  | cons i rest ih =>
    have step := h.addSupplemental (own i List.mem_cons_self)
    exact ih step fun j member => own j (List.mem_cons_of_mem i member)

theorem wellFormed_plan {r : Request} {locals remotes : Candidates} (own : r.OwnItems)
    (here : FoundIn .localFile locals) (there : FoundIn .remote remotes) :
    WellFormed (requestedKinds r locals remotes) (plan r locals remotes) := by
  have distinct : (requestedKinds r locals remotes).Nodup :=
    (requestedKinds_sublist r locals remotes).nodup (by decide)
  have kinds := wellFormed_addKinds (r := r) here there _ wellFormed_nothing (by simp)
    (by simpa using distinct)
  exact wellFormed_addSupplemental r.supplemental kinds own

theorem StandardFirst.no_later {items : List Item} (h : StandardFirst items) :
    ∀ i ∈ items.dropWhile (fun j => j.role == .standard), i.role ≠ .standard := by
  obtain ⟨standard, others, rfl, first, last⟩ := h
  intro i member
  rw [List.dropWhile_append_of_pos (by simpa using first)] at member
  exact last i ((List.dropWhile_sublist _).subset member)

/-- What an insertion does: it refuses the item, or takes it for a kind that is missing. -/
inductive Inserts (result : Result) (i : Item) : Bool × Result → Prop where
  | refused : Inserts result i (false, result)
  | taken (k : Kind) : i.kind = some k → i.hasContent = true → k ∈ result.missing →
      Inserts result i (true,
        { items := result.items.takeWhile (·.role == .standard) ++
            i :: result.items.dropWhile (·.role == .standard)
          usedRemote := result.usedRemote || i.source == .remote
          notes := result.notes ++
            [.about k "backfilled" (k.name ++ " not found earlier, backfilled from ".toList ++ i.path)]
          missing := result.missing.filter (· != k) })

theorem insertBackfill_cases (result : Result) (i : Item) : Inserts result i (result.insertBackfill i) := by
  unfold Result.insertBackfill
  cases kind : i.kind with
  | none => exact .refused
  | some k =>
    dsimp only
    split
    case isTrue taken =>
      rw [Bool.and_eq_true, List.contains_iff_mem] at taken
      exact .taken k kind taken.1 taken.2
    case isFalse => exact .refused

theorem WellFormed.insertBackfill {requested : List Kind} {result : Result} {k : Kind}
    {source : Source} {i : Item} (h : WellFormed requested result)
    (candidate : IsCandidate k source i) : WellFormed requested (result.insertBackfill i).2 := by
  have inserts := insertBackfill_cases result i
  generalize result.insertBackfill i = inserted at inserts
  cases inserts with
  | refused => exact h
  | taken k' kind content absent =>
    obtain rfl := Option.some.inj (kind.symm.trans candidate.kind_eq)
    have joins : Joins k' [i] := by
      refine ⟨by simpa using content, ?_, fun s => List.length_filter_le _ [i]⟩
      intro j member
      rw [List.mem_singleton.mp member]
      exact ⟨source, candidate⟩
    refine h.add joins (h.no_item absent) ⟨⟨_, _, (List.takeWhile_append_dropWhile).symm, ?_,
      h.standardFirst.no_later, by simp⟩, by simp⟩ ?_ ?_ (List.filter_sublist.trans h.ordered)
    · intro j member
      simpa using List.all_eq_true.mp List.all_takeWhile j member
    · intro j
      have known := h.ordered.subset absent
      constructor
      · exact .inr
      · rintro (rfl | member)
        · exact known
        · exact member
    · intro j
      simp [and_comm]

def Result.insertAll (result : Result) (found : List Item) : Result :=
  found.foldl (fun r i => (r.insertBackfill i).2) result

theorem WellFormed.insertAll {requested : List Kind} (found : List Item) {result : Result}
    (h : WellFormed requested result)
    (candidates : ∀ i ∈ found, ∃ k source, IsCandidate k source i) :
    WellFormed requested (result.insertAll found) := by
  induction found generalizing result with
  | nil => exact h
  | cons i rest ih =>
    obtain ⟨k, source, candidate⟩ := candidates i List.mem_cons_self
    exact ih (h.insertBackfill candidate) fun j member =>
      candidates j (List.mem_cons_of_mem i member)

theorem insertBackfill_refused {result : Result} {i : Item}
    (refused : (result.insertBackfill i).1 = false) : (result.insertBackfill i).2 = result := by
  have inserts := insertBackfill_cases result i
  generalize result.insertBackfill i = inserted at refused inserts
  cases inserts with
  | refused => rfl
  | taken => contradiction

/-- The invariant of a whole run: it holds of the plan and after any number of insertions. The
missing kinds are in the order of presentation, each once. -/
theorem selection_wellFormed (r : Request) (locals remotes : Candidates) (found : List Item)
    (own : r.OwnItems) (here : FoundIn .localFile locals) (there : FoundIn .remote remotes)
    (candidates : ∀ i ∈ found, ∃ k source, IsCandidate k source i) :
    let result := (plan r locals remotes).insertAll found
    WellFormed (requestedKinds r locals remotes) result ∧
    result.missing.Sublist Kind.all ∧ result.missing.Nodup ∧
    ∀ i, (result.insertBackfill i).1 = false → (result.insertBackfill i).2 = result := by
  have run := (wellFormed_plan own here there).insertAll found candidates
  have ordered := run.ordered.trans (requestedKinds_sublist r locals remotes)
  exact ⟨run, ordered, ordered.nodup (by decide), fun i refused => insertBackfill_refused refused⟩

theorem selection_wellFormed_later_license :
    let script : Item := ⟨"demo", .script, "Get-Thing", "demo", "scripts/demo", .remote, none⟩
    let r : Request := { mode := .preferRemote, fetchRemote := true, supplemental := [script] }
    let readme := Item.ofKind .readme "text" "README" "README" .localFile
    let changelog := Item.ofKind .changelog "news" "CHANGELOG" "CHANGELOG" .remote
    let license := Item.ofKind .license "MIT" "LICENSE" ".github/LICENSE" .remote
    let locals := Candidates.ofFound fun k => if k = .readme then [readme] else []
    let remotes := Candidates.ofFound fun k => if k = .changelog then [changelog] else []
    r.OwnItems ∧ FoundIn .localFile locals ∧ FoundIn .remote remotes ∧
    IsCandidate .license .remote license ∧ (plan r locals remotes).missing = [.license] ∧
    ((plan r locals remotes).insertAll [license]).items = [readme, changelog, license, script] ∧
    WellFormed (requestedKinds r locals remotes) ((plan r locals remotes).insertAll [license]) := by
  intro script r readme changelog license locals remotes
  have own : r.OwnItems := by simp [Request.OwnItems, r, script]
  have here : FoundIn .localFile locals := by
    intro k i member
    simp only [locals, Candidates.ofFound_apply] at member
    split at member
    · rename_i kind
      exact ⟨"text", "README", "README", by simpa [kind, readme] using member⟩
    · simp at member
  have there : FoundIn .remote remotes := by
    intro k i member
    simp only [remotes, Candidates.ofFound_apply] at member
    split at member
    · rename_i kind
      exact ⟨"news", "CHANGELOG", "CHANGELOG", by simpa [kind, changelog] using member⟩
    · simp at member
  have candidate : IsCandidate .license .remote license := ⟨_, _, _, rfl⟩
  refine ⟨own, here, there, candidate, by decide, by decide, ?_⟩
  exact (selection_wellFormed r locals remotes [license] own here there
    (by simpa using ⟨_, _, candidate⟩)).1

end ModuleDocs.Selection
