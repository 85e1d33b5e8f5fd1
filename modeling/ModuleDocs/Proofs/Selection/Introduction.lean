import ModuleDocs.Proofs.Selection.Invariant

namespace ModuleDocs.Selection
open Text Document

/-- An item of the kind with the content, and only items of the kind before it. -/
def Leads (k : Kind) (content : Text) (items : List Item) : Prop :=
  ∃ before i after, items = before ++ i :: after ∧ i.kind = some k ∧ i.normalized = content ∧
    ∀ j ∈ before, j.kind = some k

def Request.showsLocal (r : Request) : Bool := r.includeLocal || !r.remoteAvailable

section Leads
variable {k : Kind} {content : Text} {i : Item}

theorem leads_cons (kind : i.kind = some k) (same : i.normalized = content) (rest : List Item) :
    Leads k content (i :: rest) :=
  ⟨[], i, rest, rfl, kind, same, by simp⟩

theorem Leads.cons {items : List Item} (kind : i.kind = some k) (leads : Leads k content items) :
    Leads k content (i :: items) := by
  obtain ⟨before, j, after, rfl, kind', same, front⟩ := leads
  exact ⟨i :: before, j, after, rfl, kind', same, List.forall_mem_cons.mpr ⟨kind, front⟩⟩

theorem Leads.append {items : List Item} (leads : Leads k content items) (more : List Item) :
    Leads k content (items ++ more) := by
  obtain ⟨before, i, after, rfl, kind, same, front⟩ := leads
  exact ⟨before, i, after ++ more, by simp, kind, same, front⟩

theorem Leads.ne_nil {items : List Item} (leads : Leads k content items) : items ≠ [] := by
  obtain ⟨before, i, after, rfl, -⟩ := leads
  simp

theorem Leads.kind_head {items : List Item} (leads : Leads k content (i :: items)) :
    i.kind = some k := by
  obtain ⟨before, j, after, items, kind, -, front⟩ := leads
  cases before with
  | nil => exact (List.cons.inj items).1 ▸ kind
  | cons first rest => exact (List.cons.inj items).1 ▸ front first List.mem_cons_self

end Leads

theorem leads_mergePicks {mode : Mode} {k : Kind} {here : Item} (kind : here.kind = some k)
    (showDuplicates : Bool) {there : Option Item}
    (labelled : mode = .preferRemote → ∀ j ∈ there, j.kind = some k) :
    Leads k here.normalized (mergePicks mode showDuplicates (some here) there) := by
  cases there with
  | none => exact leads_cons kind rfl []
  | some j =>
    by_cases remote : mode = .preferRemote
    case pos =>
      have other := labelled remote j rfl
      simp only [mergePicks, if_pos remote]
      split
      case isTrue copy => exact leads_cons other copy.2.symm []
      case isFalse => exact (leads_cons kind rfl []).cons other
    case neg =>
      simp only [mergePicks, if_neg remote]
      split
      case isTrue => exact leads_cons kind rfl []
      case isFalse => exact leads_cons kind rfl [j]

section Introduction
variable {r : Request} {t : Text}

theorem localPick_introduction (given : r.introduction = some t) (text : isBlank t = false)
    (locals : Candidates) : localPick r locals .introduction =
      if r.showsLocal then some (Item.ofKind .introduction t [] [] .localFile) else none := by
  have visible : (Item.ofKind .introduction t [] [] .localFile).hasContent = true := by
    rw [Item.hasContent, Item.ofKind, text]
    rfl
  simp only [localPick, given, Option.map_some, Option.toList_some, if_true, List.cons_append,
    List.find?_cons, visible, Request.showsLocal]
  rfl

theorem requestedKinds_introduction (given : r.introduction = some t) (text : isBlank t = false)
    (unrefused : r.flags .introduction ≠ some false)
    (asked : r.flags.anyRequested = true → r.flags .introduction = some true)
    (locals remotes : Candidates) :
    ∃ rest, requestedKinds r locals remotes = .introduction :: rest := by
  unfold requestedKinds
  split
  case isTrue some =>
    exact ⟨_, List.filter_cons_of_pos (by rw [asked some]; rfl)⟩
  case isFalse =>
    have own : r.introductionItem.isSome = true := by
      simp [Request.introductionItem, given, Option.filter, text]
    have first : (r.flags .introduction != some false) = true := by simpa using unrefused
    rw [Kind.all, List.filter_cons_of_pos (p := fun k => r.flags k != some false) first]
    exact ⟨_, List.filter_cons_of_pos (by simp [own])⟩

/-- A configured introduction that is not refused leads the plan where local documents are shown, or
where the remote introduction says the same. Candidates that keep their kind leave no other way. -/
theorem introduction_leads {locals remotes : Candidates} (given : r.introduction = some t)
    (text : isBlank t = false) (unrefused : r.flags .introduction ≠ some false)
    (asked : r.flags.anyRequested = true → r.flags .introduction = some true)
    (labelled : r.mode = .preferRemote ∨ r.showsLocal = false →
      ∀ i ∈ remotePick r remotes .introduction, i.kind = some .introduction) :
    ((r.showsLocal = true ∨ ∃ i ∈ remotePick r remotes .introduction, i.normalized = normalize t) →
      Leads .introduction (normalize t) (plan r locals remotes).items) ∧
    (FoundIn .localFile locals → FoundIn .remote remotes → r.OwnItems →
      Leads .introduction (normalize t) (plan r locals remotes).items →
      r.showsLocal = true ∨ ∃ i ∈ remotePick r remotes .introduction, i.normalized = normalize t) := by
  constructor
  case left =>
    intro offered
    obtain ⟨rest, first⟩ := requestedKinds_introduction given text unrefused asked locals remotes
    rw [items_plan, first, List.flatMap_cons, List.append_assoc]
    apply Leads.append
    rw [shown, localPick_introduction given text]
    cases gate : r.showsLocal with
    | true =>
      exact leads_mergePicks rfl r.showDuplicates fun remote => labelled (.inl remote)
    | false =>
      rw [gate] at offered
      obtain ⟨i, pick, same⟩ := offered.resolve_left Bool.false_ne_true
      rw [Option.mem_def.mp pick]
      exact leads_cons (labelled (.inr gate) i pick) same []
  case right =>
    rintro here there own ⟨before, i, after, items, kind, same, -⟩
    have mem : i ∈ (plan r locals remotes).items := by rw [items]; simp
    rw [items_plan, List.mem_append, List.mem_flatMap] at mem
    rcases mem with ⟨k, -, member⟩ | extra
    case inr =>
      rw [(own i ((List.mem_filter.mp extra).1)).1] at kind
      contradiction
    case inl =>
      have same' : k = .introduction := by
        have own := (shown_joins here there k).kind_eq member
        exact Option.some.inj (own.symm.trans kind)
      subst same'
      rcases mem_mergePicks member with pick | pick
      · rw [localPick_introduction given text] at pick
        split at pick
        · exact .inl ‹_›
        · contradiction
      · exact .inr ⟨i, pick, same⟩

end Introduction

theorem introduction_leads_copy :
    let r : Request :=
      { mode := .preferRemote, fetchRemote := true, remoteAvailable := true, includeLocal := false,
        introduction := some "Welcome" }
    let copy := Item.ofKind .introduction "Welcome \n" "INTRODUCTION.md" "INTRODUCTION.md" .remote
    let remotes := Candidates.ofFound fun k => if k = .introduction then [copy] else []
    remotePick r remotes .introduction = some copy ∧
    Leads .introduction (normalize "Welcome") (plan r {} remotes).items := by
  intro r copy remotes
  have pick : remotePick r remotes .introduction = some copy := by decide
  have labelled : r.mode = .preferRemote ∨ r.showsLocal = false →
      ∀ i ∈ remotePick r remotes .introduction, i.kind = some .introduction := by
    intro _ i mem
    rw [pick] at mem
    exact Option.some.inj mem ▸ rfl
  have leads := @introduction_leads r "Welcome" {} remotes rfl (by decide) (by decide)
    (by decide) labelled
  exact ⟨pick, leads.1 (.inr ⟨copy, pick, by decide⟩)⟩

/-- Without local documents and without a remote copy the configured text is not shown. -/
theorem introduction_excluded :
    let r : Request :=
      { includeLocal := false, remoteAvailable := true, introduction := some "Welcome",
        flags := Flags.unsaid.set .introduction true }
    (plan r {} {}).items = [] ∧
    (plan r {} {}).missing = [.introduction] ∧
    ¬ Leads .introduction (normalize "Welcome") (plan r {} {}).items := by
  intro r
  have none : (plan r {} {}).items = [] := by decide
  refine ⟨none, by decide, fun leads => ?_⟩
  rw [none] at leads
  exact leads.ne_nil rfl

/-- A preferred remote document that stands for another kind comes first. -/
theorem introduction_behind_readme :
    let r : Request :=
      { mode := .preferRemote, fetchRemote := true, introduction := some "Welcome",
        flags := Flags.unsaid.set .introduction true }
    let readme := Item.ofKind .readme "Other" "README.md" "README.md" .remote
    let remotes := Candidates.ofFound fun k => if k = .introduction then [readme] else []
    (plan r {} remotes).items =
      [readme, Item.ofKind .introduction "Welcome" [] [] .localFile] ∧
    ¬ Leads .introduction (normalize "Welcome") (plan r {} remotes).items := by
  intro r readme remotes
  have items : (plan r {} remotes).items =
      [readme, Item.ofKind .introduction "Welcome" [] [] .localFile] := by decide +kernel
  refine ⟨items, fun leads => ?_⟩
  rw [items] at leads
  exact absurd leads.kind_head (by decide)

end ModuleDocs.Selection
