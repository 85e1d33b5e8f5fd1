import ModuleDocs.Proofs.Selection.Backfill

/-! A remote that cannot be reached, compared with no remote. Local documents count again only where
the lookup of the branch fails during the fetch. Main statement: exactly when the two selections
are the same. -/
namespace ModuleDocs.Selection
open Text Document Remote

/-- The selections show the same. Their notes may differ. -/
def SameSelection (a b : Result) : Prop :=
  a.items = b.items ∧ a.missing = b.missing ∧ a.usedRemote = b.usedRemote

theorem SameSelection.symm {a b : Result} (h : SameSelection a b) : SameSelection b a :=
  ⟨h.1.symm, h.2.1.symm, h.2.2.symm⟩

theorem SameSelection.trans {a b c : Result} (h : SameSelection a b) (h' : SameSelection b c) :
    SameSelection a c :=
  ⟨h.1.trans h'.1, h.2.1.trans h'.2.1, h.2.2.trans h'.2.2⟩

instance (a b : Result) : Decidable (SameSelection a b) :=
  inferInstanceAs (Decidable (_ ∧ _ ∧ _))

def nothing : Candidates := {}

/-- The fetch finds out that the remote is away: it takes place and has to ask for the branch. -/
def noticed {m : Type → Type} (r : Request) (setup : RemoteSetup m) : Bool :=
  r.fetchRemote && (setup.branch.filter (!isBlank ·)).isNone

theorem localCandidates_visible {r : Request} {locals : Candidates}
    (visible : ∀ k, ∀ i ∈ locals k, i.hasContent = true) (k : Kind) :
    ∀ i ∈ localCandidates r locals k, i.hasContent = true := by
  intro i member
  rcases List.mem_append.mp member with configured | found
  · split at configured
    · obtain ⟨t, text, rfl⟩ := by simpa [Request.introductionItem] using configured
      simpa [Item.hasContent, Item.ofKind] using text.2
    · simp at configured
  · exact visible k i found

theorem candidates_visible (t : Tree) (root : Text) (secondary : Option Text) (k : Kind) :
    ∀ i ∈ Local.candidates t root secondary k, i.hasContent = true := by
  intro i member
  rw [Local.candidates_apply] at member
  exact (List.mem_filter.mp member).2

theorem find?_visible {items : List Item} (visible : ∀ i ∈ items, i.hasContent = true) :
    items.find? Item.hasContent = none ↔ items = [] := by
  rw [List.find?_eq_none]
  constructor
  · intro none
    exact List.eq_nil_iff_forall_not_mem.mpr fun i member => none i member (visible i member)
  · rintro rfl
    simp

theorem shown_nothing (r : Request) (locals : Candidates) (k : Kind) :
    shown r locals nothing k = (localPick r locals k).toList := by
  have none : remotePick r nothing k = none := by
    unfold remotePick
    split <;> rfl
  unfold shown
  rw [none]
  cases localPick r locals k <;> rfl

def Request.withRemote (r : Request) (available : Bool) : Request :=
  { r with remoteAvailable := available }

theorem localPick_withRemote (r : Request) (locals : Candidates) (available : Bool) (k : Kind) :
    localPick (r.withRemote available) locals k = if r.includeLocal || !available then
      (localCandidates r locals k).find? Item.hasContent else none :=
  (find?_localCandidates (r.withRemote available) locals k).symm

theorem requestedKinds_withRemote (r : Request) (locals remotes : Candidates) (available : Bool) :
    requestedKinds (r.withRemote available) locals remotes = requestedKinds r locals remotes :=
  rfl

/-- Without remote documents, the availability of the remote counts exactly if it keeps some local
document out. -/
theorem sameSelection_withRemote_iff (r : Request) (locals : Candidates)
    (visible : ∀ k, ∀ i ∈ locals k, i.hasContent = true) :
    SameSelection (plan (r.withRemote true) locals nothing)
        (plan (r.withRemote false) locals nothing) ↔
      r.includeLocal = true ∨
        ∀ k ∈ requestedKinds r locals nothing, localCandidates r locals k = [] := by
  constructor
  · rintro ⟨_, missing, _⟩
    cases wanted : r.includeLocal with
    | true => exact .inl rfl
    | false =>
      refine .inr fun k member => (find?_visible (localCandidates_visible visible k)).mp ?_
      have absent : k ∈ (plan (r.withRemote true) locals nothing).missing := by
        rw [missing_plan, List.mem_filter, requestedKinds_withRemote, shown_nothing,
          localPick_withRemote, wanted]
        exact ⟨member, rfl⟩
      rw [missing, missing_plan, List.mem_filter, shown_nothing, localPick_withRemote] at absent
      simpa using absent.2
  · intro same
    have shows : ∀ k ∈ requestedKinds r locals nothing,
        shown (r.withRemote true) locals nothing k =
          shown (r.withRemote false) locals nothing k := by
      intro k member
      rw [shown_nothing, shown_nothing, localPick_withRemote, localPick_withRemote]
      rcases same with wanted | none
      · simp [wanted]
      · simp [none k member]
    have items : (plan (r.withRemote true) locals nothing).items =
        (plan (r.withRemote false) locals nothing).items := by
      rw [items_plan, items_plan, requestedKinds_withRemote, requestedKinds_withRemote,
        List.flatMap_def, List.map_congr_left shows]
      rfl
    refine ⟨items, ?_, by rw [usedRemote_plan, usedRemote_plan, items]⟩
    rw [missing_plan, missing_plan, requestedKinds_withRemote, requestedKinds_withRemote]
    exact List.filter_congr fun k member => by rw [shows k member]

section Run
variable {σ : Type} {setup : RemoteSetup (StateM σ)}

theorem backfillMissing_unreachable (down : Unreachable setup.client) (branch : Option Text)
    (result : Result) :
    Always (fun result' => result' = result) (backfillMissing setup branch result) := by
  refine always_backfillMissing branch rfl fun b => ?_
  refine (always_mapM _ fun k => backfill_unreachable (f := setup.fetcher) down k b).imp
    fun items none => ?_
  have nil : items.filterMap id = [] := List.filterMap_eq_nil_iff.mpr none
  rw [nil]
  rfl

theorem planned_same (t : Tree) (s : Sources) (r : Request) (notes : List Note) :
    SameSelection (planned t s r notes nothing)
      (plan r (Local.candidates t s.root s.secondary) nothing) :=
  ⟨rfl, rfl, rfl⟩

theorem folders_unreachable (down : Unreachable setup.client) (folders : List Text)
    (branch : Option Text) : Always (fun more => more.flatten = []) (match branch with
      | some b => folders.mapM fun folder => setup.fetcher.folderItems folder b .supplementalDoc
      | none => pure []) := by
  cases branch with
  | none => exact always_pure rfl
  | some b =>
    refine (always_mapM folders fun folder => folderItems_unreachable (f := setup.fetcher) down
      folder b .supplementalDoc).imp fun more empty => ?_
    exact List.flatten_eq_nil_iff.mpr empty

/-- Without an answer the plan is that of the local documents, under a remote that counts as
available unless the fetch noticed. -/
theorem collectWith_unreachable (t : Tree) (s : Sources) (r : Request)
    (down : Unreachable setup.client) :
    Always (fun result => SameSelection result
      (plan ((withFolders t s r).withRemote (!noticed r setup))
        (Local.candidates t s.root s.secondary) nothing)) (collectWith t s r setup) := by
  unfold collectWith
  dsimp only
  split
  · rename_i fetch
    have flag : (!noticed r setup) = (setup.branch.filter (!isBlank ·)).isSome := by
      have fetch : r.fetchRemote = true := fetch
      unfold noticed
      rw [fetch]
      cases setup.branch.filter (!isBlank ·) <;> rfl
    refine (fetchAll_unreachable (f := setup.fetcher) down setup.branch fetchedKinds).bind ?_
    rintro fetched ⟨branch, candidates⟩
    have finish (more : List (List Item)) (none : more.flatten = []) : Always (fun result =>
        SameSelection result (plan ((withFolders t s r).withRemote (!noticed r setup))
          (Local.candidates t s.root s.secondary) nothing))
        (backfillMissing setup fetched.branch (planned t s
          { withFolders t s r with
            remoteAvailable := fetched.branch.isSome
            supplemental := (withFolders t s r).supplemental ++ more.flatten }
          fetched.notes fetched.candidates)) := by
      refine (backfillMissing_unreachable down fetched.branch _).imp ?_
      rintro _ rfl
      rw [candidates, none, List.append_nil, flag, branch]
      exact planned_same t s _ fetched.notes
    have rest := (folders_unreachable down s.docFolders fetched.branch).bind finish
    revert rest
    cases fetched.branch <;> exact id
  · rename_i late
    have flag : noticed r setup = false := by
      have late : ¬ r.fetchRemote = true := late
      simp [noticed, late]
    refine (backfillMissing_unreachable down none _).imp ?_
    rintro _ rfl
    rw [flag]
    exact planned_same t s _ []

theorem noticed_iff {r : Request} : noticed r setup = true ↔
    r.fetchRemote = true ∧ ∀ b, setup.branch = some b → isBlank b = true := by
  unfold noticed
  cases setup.branch <;> simp

/-- An unreachable remote changes nothing exactly if local documents count anyway, or the fetch
notices, or no kind that is asked for has a local document. -/
theorem collect_unreachable_iff (t : Tree) (s : Sources) (r : Request)
    (down : Unreachable setup.client) (state : σ) :
    SameSelection ((collect t s r (some setup)).run state).1
        ((collect (m := StateM σ) t s r none).run state).1 ↔
      r.includeLocal = true ∨
      (r.fetchRemote = true ∧ ∀ b, setup.branch = some b → isBlank b = true) ∨
      ∀ k ∈ requestedKinds r (Local.candidates t s.root s.secondary) nothing,
        localCandidates r (Local.candidates t s.root s.secondary) k = [] := by
  have with_ := collectWith_unreachable t s r down state
  have without : SameSelection ((collect (m := StateM σ) t s r none).run state).1
      (plan ((withFolders t s r).withRemote false)
        (Local.candidates t s.root s.secondary) nothing) := planned_same t s _ []
  rw [← noticed_iff]
  cases seen : noticed r setup with
  | true =>
    rw [seen] at with_
    exact ⟨fun _ => .inr (.inl rfl), fun _ => with_.trans without.symm⟩
  | false =>
    rw [seen] at with_
    have iff := sameSelection_withRemote_iff (withFolders t s r)
      (Local.candidates t s.root s.secondary) (candidates_visible t s.root s.secondary)
    constructor
    · intro same
      rcases iff.mp ((with_.symm.trans same).trans without) with wanted | none
      · exact .inl wanted
      · exact .inr (.inr none)
    · rintro (wanted | impossible | none)
      · exact (with_.trans (iff.mpr (.inl wanted))).trans without.symm
      · contradiction
      · exact (with_.trans (iff.mpr (.inr none))).trans without.symm

end Run

theorem collect_unreachable_without_branch :
    let t := Tree.ofList "/p" [("README.md", .file (Utf8.encode "# Local"))]
    let r : Request := { includeLocal := false, fetchRemote := true }
    let repository : Repository := { branch := "main", failing := true }
    let setup : RemoteSetup (StateM Unit) := { client := repository.client, bound := ⟨5000⟩ }
    Unreachable setup.client ∧
    ((collect t ⟨"/p", none, [], []⟩ r (some setup)).run ()).1.items =
      [Item.ofKind .readme "# Local" "README.md" "README.md" .localFile] ∧
    SameSelection ((collect t ⟨"/p", none, [], []⟩ r (some setup)).run ()).1
      ((collect (m := StateM Unit) t ⟨"/p", none, [], []⟩ r none).run ()).1 := by
  intro t r repository setup
  have down : Unreachable setup.client := unreachable_failing rfl
  refine ⟨down, by decide +kernel, ?_⟩
  exact (collect_unreachable_iff t ⟨"/p", none, [], []⟩ r down ()).mpr
    (.inr (.inl ⟨rfl, by simp [setup]⟩))

/-- With a branch given, the readme is missing though no call succeeds. -/
theorem collect_unreachable_with_branch :
    let t := Tree.ofList "/p" [("README.md", .file (Utf8.encode "# Local"))]
    let r : Request :=
      { includeLocal := false, fetchRemote := true, flags := Flags.unsaid.set .readme true }
    let repository : Repository := { branch := "main", failing := true }
    let setup : RemoteSetup (StateM Unit) :=
      { client := repository.client, bound := ⟨5000⟩, branch := some "main" }
    Unreachable setup.client ∧
    ((collect t ⟨"/p", none, [], []⟩ r (some setup)).run ()).1.missing = [.readme] ∧
    ((collect (m := StateM Unit) t ⟨"/p", none, [], []⟩ r none).run ()).1.missing = [] ∧
    ¬ SameSelection ((collect t ⟨"/p", none, [], []⟩ r (some setup)).run ()).1
      ((collect (m := StateM Unit) t ⟨"/p", none, [], []⟩ r none).run ()).1 := by
  intro t r repository setup
  exact ⟨unreachable_failing rfl, by decide +kernel, by decide +kernel, by decide +kernel⟩

end ModuleDocs.Selection
