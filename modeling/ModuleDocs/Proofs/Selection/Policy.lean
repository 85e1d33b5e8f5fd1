import ModuleDocs.Selection.Plan

/-! The merge policy without the loop that runs it. Each source offers its first document with
content, whatever copies of it there are, and the mode merges the two offers of a kind. Main
statement: the plan shows exactly what the policy says, kind after kind. -/
namespace ModuleDocs.Selection
open Text Document

/-- The kinds to resolve: those asked for by name, or if there are none all that were not refused. Then an
introduction or upgrade notes have to be at hand. -/
def Requested (r : Request) (locals remotes : Candidates) (k : Kind) : Prop :=
  r.flags k = some true ∨
    (∀ asked, r.flags asked ≠ some true) ∧ r.flags k ≠ some false ∧
      (k = .introduction →
        locals k ≠ [] ∨ remotes k ≠ [] ∨ ∃ t, r.introduction = some t ∧ isBlank t = false) ∧
      (k = .upgrade → locals k ≠ [] ∨ remotes k ≠ [])

/-- The first item with content among the configured introduction and the local candidates. -/
def localPick (r : Request) (locals : Candidates) (k : Kind) : Option Item :=
  let configured := r.introduction.map fun t => Item.ofKind .introduction t [] [] .localFile
  if r.includeLocal || !r.remoteAvailable then
    ((if k = .introduction then configured.toList else []) ++ locals k).find? Item.hasContent
  else none

def remotePick (r : Request) (remotes : Candidates) (k : Kind) : Option Item :=
  if r.fetchRemote then (remotes k).find? Item.hasContent else none

/-- One offer is shown, two different ones both. Of two equal ones the second is left out, unless
copies are wanted. The remote comes first exactly if it is preferred. -/
def mergePicks (mode : Mode) (showDuplicates : Bool) : Option Item → Option Item → List Item
  | none, none => []
  | some here, none => [here]
  | none, some there => [there]
  | some here, some there =>
    let ordered := if mode = .preferRemote then [there, here] else [here, there]
    if showDuplicates = false ∧ here.normalized = there.normalized then ordered.take 1 else ordered

/-- The first item is never a copy, since no key is known before it. No assumption on the keys is
needed for that. -/
theorem head?_dropCopies (items : List Item) : (dropCopies [] items).head? = items.head? := by
  cases items with
  | nil => rfl
  | cons i rest => simp [dropCopies]

theorem head?_eligible (r : Request) (k : Kind) (source : Source) (candidates : List Item) :
    (eligible r k source candidates).items.head? = candidates.find? Item.hasContent := by
  unfold eligible
  cases r.showDuplicates with
  | true => simp [List.head?_filter]
  | false => simp [head?_dropCopies, List.head?_filter]

theorem find?_introduction (r : Request) (rest : List Item) :
    (r.introductionItem.toList ++ rest).find? Item.hasContent =
      ((r.introduction.map fun t => Item.ofKind .introduction t [] [] .localFile).toList ++
        rest).find? Item.hasContent := by
  unfold Request.introductionItem
  cases r.introduction with
  | none => rfl
  | some t =>
    cases blank : isBlank t with
    | false => simp [Option.filter, blank]
    | true => simp [Option.filter, blank, Item.hasContent, Item.ofKind]

theorem find?_localCandidates (r : Request) (locals : Candidates) (k : Kind) :
    (if r.includeLocal || !r.remoteAvailable then
      (localCandidates r locals k).find? Item.hasContent else none) = localPick r locals k := by
  unfold localPick localCandidates
  by_cases intro : k = .introduction
  · simp only [if_pos intro, find?_introduction]
  · simp only [if_neg intro]

theorem items_merge (r : Request) (k : Kind) (here there : Option Item) :
    (merge r k here there).items = mergePicks r.mode r.showDuplicates here there := by
  cases here with
  | none => cases there <;> rfl
  | some i =>
    cases there with
    | none => rfl
    | some j =>
      simp only [merge, mergePicks, Item.sameContent]
      cases r.mode <;> cases r.showDuplicates <;> by_cases same : i.normalized = j.normalized <;>
        simp [same]

theorem mergePicks_eq_nil {mode : Mode} {showDuplicates : Bool} {here there : Option Item} :
    mergePicks mode showDuplicates here there = [] ↔ here = none ∧ there = none := by
  cases here with
  | none => cases there <;> simp [mergePicks]
  | some i =>
    cases there with
    | none => simp [mergePicks]
    | some j =>
      simp only [mergePicks]
      split <;> split <;> simp

def shown (r : Request) (locals remotes : Candidates) (k : Kind) : List Item :=
  mergePicks r.mode r.showDuplicates (localPick r locals k) (remotePick r remotes k)

theorem items_decideKind (r : Request) (locals remotes : Candidates) (k : Kind) :
    (decideKind r locals remotes k).items = shown r locals remotes k := by
  simp only [decideKind, items_merge, head?_eligible, find?_localCandidates, shown, remotePick]

section Loop
variable (r : Request) (locals remotes : Candidates)

theorem items_addKinds (kinds : List Kind) (result : Result) :
    (kinds.foldl (Result.addKind r locals remotes) result).items =
      result.items ++ kinds.flatMap (shown r locals remotes) := by
  induction kinds generalizing result with
  | nil => simp
  | cons k rest ih =>
    rw [List.foldl_cons, ih]
    simp only [Result.addKind, items_decideKind, List.flatMap_cons, List.append_assoc]

theorem missing_addKinds (kinds : List Kind) (result : Result) :
    (kinds.foldl (Result.addKind r locals remotes) result).missing =
      result.missing ++ kinds.filter (fun k => (shown r locals remotes k).isEmpty) := by
  induction kinds generalizing result with
  | nil => simp
  | cons k rest ih =>
    rw [List.foldl_cons, ih]
    simp only [Result.addKind, items_decideKind, List.filter_cons]
    split <;> simp

theorem items_addSupplemental (extra : List Item) (result : Result) :
    (extra.foldl Result.addSupplemental result).items =
      result.items ++ extra.filter Item.hasContent := by
  induction extra generalizing result with
  | nil => simp
  | cons i rest ih =>
    rw [List.foldl_cons, ih, Result.addSupplemental, List.filter_cons]
    split <;> simp

theorem missing_addSupplemental (extra : List Item) (result : Result) :
    (extra.foldl Result.addSupplemental result).missing = result.missing := by
  induction extra generalizing result with
  | nil => rfl
  | cons i rest ih =>
    rw [List.foldl_cons, ih, Result.addSupplemental]
    split <;> rfl

theorem items_plan : (plan r locals remotes).items =
    (requestedKinds r locals remotes).flatMap (shown r locals remotes) ++
      r.supplemental.filter Item.hasContent := by
  simp only [plan, items_addSupplemental, items_addKinds, List.nil_append]

theorem missing_plan : (plan r locals remotes).missing =
    (requestedKinds r locals remotes).filter (fun k => (shown r locals remotes k).isEmpty) := by
  simp only [plan, missing_addSupplemental, missing_addKinds, List.nil_append]

theorem usedRemote_addKinds (kinds : List Kind) (result : Result) :
    (kinds.foldl (Result.addKind r locals remotes) result).usedRemote = (result.usedRemote ||
      (kinds.flatMap (shown r locals remotes)).any fun i => i.source == .remote) := by
  induction kinds generalizing result with
  | nil => simp
  | cons k rest ih =>
    rw [List.foldl_cons, ih]
    simp only [Result.addKind, items_decideKind, List.flatMap_cons, List.any_append, Bool.or_assoc]

theorem usedRemote_addSupplemental (extra : List Item) (result : Result) :
    (extra.foldl Result.addSupplemental result).usedRemote = (result.usedRemote ||
      (extra.filter Item.hasContent).any fun i => i.source == .remote) := by
  induction extra generalizing result with
  | nil => simp
  | cons i rest ih =>
    rw [List.foldl_cons, ih, Result.addSupplemental, List.filter_cons]
    split <;> simp [Bool.or_assoc]

theorem usedRemote_plan : (plan r locals remotes).usedRemote =
    (plan r locals remotes).items.any fun i => i.source == .remote := by
  rw [items_plan, List.any_append]
  simp only [plan, usedRemote_addSupplemental, usedRemote_addKinds, Bool.false_or]

theorem anyRequested_iff {flags : Flags} :
    flags.anyRequested = true ↔ ∃ asked, flags asked = some true := by
  unfold Flags.anyRequested
  rw [List.any_eq_true]
  constructor
  · rintro ⟨asked, -, wanted⟩
    exact ⟨asked, eq_of_beq wanted⟩
  · rintro ⟨asked, wanted⟩
    exact ⟨asked, Kind.mem_all asked, beq_iff_eq.mpr wanted⟩

theorem isSome_introductionItem : r.introductionItem.isSome = true ↔
    ∃ t, r.introduction = some t ∧ isBlank t = false := by
  unfold Request.introductionItem
  cases r.introduction <;> simp

theorem mem_requestedKinds {k : Kind} :
    k ∈ requestedKinds r locals remotes ↔ Requested r locals remotes k := by
  unfold requestedKinds Requested
  split
  case isTrue named =>
    obtain ⟨asked, wanted⟩ := anyRequested_iff.mp named
    rw [List.mem_filter, beq_iff_eq]
    constructor
    · exact fun wanted => .inl wanted.2
    · rintro (wanted | ⟨unnamed, -⟩)
      · exact ⟨Kind.mem_all k, wanted⟩
      · exact absurd wanted (unnamed asked)
  case isFalse unnamed =>
    have unnamed : ∀ asked, r.flags asked ≠ some true := fun asked wanted =>
      unnamed (anyRequested_iff.mpr ⟨asked, wanted⟩)
    cases k <;> simp [Kind.mem_all, unnamed, ← isSome_introductionItem, and_comm, or_comm, or_assoc]

theorem requestedKinds_sublist : (requestedKinds r locals remotes).Sublist Kind.all := by
  unfold requestedKinds
  split
  · exact List.filter_sublist
  · exact List.filter_sublist.trans List.filter_sublist

/-- The plan follows the policy for every request and all candidates. The requested kinds come in the
order of presentation, a kind is missing exactly if neither source offers anything, and removing copies
within a source keeps its offer. -/
theorem plan_follows_policy :
    (plan r locals remotes).items =
      ((requestedKinds r locals remotes).flatMap fun k =>
        mergePicks r.mode r.showDuplicates (localPick r locals k) (remotePick r remotes k)) ++
      r.supplemental.filter Item.hasContent ∧
    (∀ k, k ∈ (plan r locals remotes).missing ↔ k ∈ requestedKinds r locals remotes ∧
      localPick r locals k = none ∧ remotePick r remotes k = none) ∧
    (requestedKinds r locals remotes).Sublist Kind.all ∧
    (∀ k, k ∈ requestedKinds r locals remotes ↔ Requested r locals remotes k) ∧
    (∀ k source candidates,
      (eligible r k source candidates).items.head? = candidates.find? Item.hasContent) := by
  refine ⟨items_plan r locals remotes, ?_, requestedKinds_sublist r locals remotes,
    fun k => mem_requestedKinds r locals remotes, ?_⟩
  · intro k
    rw [missing_plan, List.mem_filter, List.isEmpty_iff, shown, mergePicks_eq_nil]
  · intro k source candidates
    exact head?_eligible r k source candidates

end Loop

/-- A blank copy before the readme, which both sources have, a license that neither has, and a changelog
that is refused. -/
theorem plan_follows_policy_readme :
    let r : Request := { mode := .preferRemote, fetchRemote := true, introduction := some "Welcome"
                         flags := Flags.unsaid.set .changelog false }
    let readme (content : Text) := Item.ofKind .readme content "README" "README" .localFile
    let remote := Item.ofKind .readme "a\r\n" "README" "README" .remote
    let upgrade := Item.ofKind .upgrade "b" "UPGRADE" "UPGRADE" .remote
    let locals := Candidates.ofFound fun k => if k = .readme then [readme " ", readme "a"] else []
    let remotes := Candidates.ofFound fun k =>
      if k = .readme then [remote] else if k = .upgrade then [upgrade] else []
    requestedKinds r locals remotes = [.introduction, .readme, .upgrade, .license] ∧
    localPick r locals .readme = some (readme "a") ∧
    (plan r locals remotes).items =
      [Item.ofKind .introduction "Welcome" [] [] .localFile, remote, upgrade] ∧
    (∀ k, k ∈ (plan r locals remotes).missing ↔ k = .license) ∧
    Requested r locals remotes .license ∧ ¬ Requested r locals remotes .changelog := by
  intro r readme remote upgrade locals remotes
  have kinds : requestedKinds r locals remotes = [.introduction, .readme, .upgrade, .license] := by decide
  obtain ⟨items, missing, -, requested, -⟩ := plan_follows_policy r locals remotes
  refine ⟨kinds, by decide, ?_, fun k => ?_, ?_, ?_⟩
  · rw [items, kinds]
    decide
  · rw [missing, kinds]
    cases k <;> decide
  · rw [← requested, kinds]
    decide
  · rw [← requested, kinds]
    decide
end ModuleDocs.Selection
