import ModuleDocs.Remote.Fetch
import ModuleDocs.Remote.Repository

/-! Runs against a client that may answer every call differently. The client keeps a state of its
own, which stands for all that its answers depend on. -/
namespace ModuleDocs.Remote
open Document

section Always
variable {σ α β : Type}

/-- The property holds of what the run gives, in whatever state the client is. -/
def Always (p : α → Prop) (run : StateM σ α) : Prop := ∀ state, p (run.run state).1

theorem always_pure {p : α → Prop} {a : α} (h : p a) : Always p (pure a : StateM σ α) :=
  fun _ => h

theorem always_anything (run : StateM σ α) : Always (fun _ => True) run :=
  fun _ => trivial

theorem Always.imp {p q : α → Prop} {run : StateM σ α} (h : Always p run)
    (weaken : ∀ a, p a → q a) : Always q run :=
  fun state => weaken _ (h state)

theorem Always.bind {p : α → Prop} {q : β → Prop} {run : StateM σ α} {next : α → StateM σ β}
    (h : Always p run) (step : ∀ a, p a → Always q (next a)) : Always q (run >>= next) := by
  intro state
  exact step (run.run state).1 (h state) (run.run state).2

theorem always_mapM {p : β → Prop} {f : α → StateM σ β} (xs : List α)
    (h : ∀ a, Always p (f a)) : Always (fun ys => ∀ y ∈ ys, p y) (xs.mapM f) := by
  induction xs with
  | nil => exact always_pure (by simp)
  | cons x rest ih =>
    rw [List.mapM_cons]
    refine (h x).bind fun y first => ih.bind fun ys others => always_pure ?_
    intro z member
    rcases List.mem_cons.mp member with same | member
    · exact same ▸ first
    · exact others z member

theorem always_mapM_exists {p : β → Prop} {f : α → StateM σ β} {x : α} {xs : List α} (mem : x ∈ xs)
    (h : Always p (f x)) : Always (fun ys => ∃ y ∈ ys, p y) (xs.mapM f) := by
  induction xs with
  | nil => cases mem
  | cons x' rest ih =>
    rw [List.mapM_cons]
    rcases List.mem_cons.mp mem with rfl | mem
    · refine h.bind fun y here => (always_anything _).bind fun ys _ => always_pure ?_
      exact ⟨y, List.mem_cons_self, here⟩
    · refine (always_anything _).bind fun y' _ => (ih mem).bind fun ys found => always_pure ?_
      obtain ⟨y, mem, here⟩ := found
      exact ⟨y, List.mem_cons_of_mem y' mem, here⟩

theorem run_bind {run : StateM σ α} {next : α → StateM σ β} {s s₁ : σ} {a : α}
    (first : run.run s = (a, s₁)) : (run >>= next).run s = (next a).run s₁ := by
  change (next (run.run s).1).run (run.run s).2 = _
  rw [first]

theorem run_mapM_cons {g : α → StateM σ β} {x : α} {xs : List α} {y : β} {ys : List β}
    {s s₁ s₂ : σ} (first : (g x).run s = (y, s₁)) (others : (xs.mapM g).run s₁ = (ys, s₂)) :
    ((x :: xs).mapM g).run s = (y :: ys, s₂) := by
  rw [List.mapM_cons, run_bind first, run_bind others]
  rfl

end Always

section Unreachable
variable {σ : Type}

def Failed {α : Type} (reply : Reply α) : Prop := ∀ a, reply ≠ some (.ok a)

/-- A client none of whose calls ever succeeds. -/
structure Unreachable (c : Client (StateM σ)) : Prop where
  defaultBranch : Always Failed c.defaultBranch
  fileContent : ∀ path branch, Always Failed (c.fileContent path branch)
  listFiles : ∀ path branch, Always Failed (c.listFiles path branch)

theorem Failed.bounded {α : Type} {reply : Reply α} (h : Failed reply) (limit : Duration) :
    ∃ e, bounded limit reply = .error e := by
  cases reply with
  | none => exact ⟨_, rfl⟩
  | some outcome =>
    cases outcome with
    | error e => exact ⟨e, rfl⟩
    | ok a => exact absurd rfl (h a)

theorem unreachable_failing {r : Repository} (failing : r.failing = true) :
    Unreachable (r.client : Client (StateM σ)) := by
  refine ⟨always_pure ?_, fun path _ => always_pure ?_, fun path _ => always_pure ?_⟩
  · simp [Failed, failing]
  · simp [Failed, Repository.check, failing, Except.map]
  · simp [Failed, Repository.check, failing, Except.map]

variable {f : Fetcher (StateM σ)}

theorem branch_unreachable (down : Unreachable f.client) {preferred : Option Text}
    (unset : preferred.filter (!Text.isBlank ·) = none) :
    Always (fun found => ∃ e, found = .error e) (f.branch preferred) := by
  unfold Fetcher.branch
  rw [unset]
  exact down.defaultBranch.bind fun _ failed => always_pure (failed.bounded f.bound)

theorem branch_given {preferred : Option Text} {b : Text}
    (given : preferred.filter (!Text.isBlank ·) = some b) :
    f.branch preferred = pure (.ok b) := by
  unfold Fetcher.branch
  rw [given]

theorem candidateIn_unreachable (down : Unreachable f.client) (k : Kind) (b folder : Text) :
    Always (fun found => ∃ e, found = .error e) (f.candidateIn k b folder) := by
  unfold Fetcher.candidateIn
  refine (down.listFiles folder b).bind fun reply failed => ?_
  obtain ⟨e, error⟩ := failed.bounded f.bound
  rw [error]
  exact always_pure ⟨e, rfl⟩

theorem candidatesIn_unreachable (down : Unreachable f.client) (k : Kind) (b : Text)
    (folders : List Text) :
    Always (fun located => located.items = []) (f.candidatesIn k b folders) := by
  unfold Fetcher.candidatesIn
  have each : ∀ folder, Always
      (fun o : Text × Except RemoteError (Option Item) => ∃ e, o.2 = .error e)
      (do pure (folder, ← f.candidateIn k b folder)) := fun folder =>
    (candidateIn_unreachable down k b folder).bind fun _ error => always_pure error
  refine (always_mapM folders each).bind fun outcomes errors => always_pure ?_
  refine List.filterMap_eq_nil_iff.mpr fun o member => ?_
  obtain ⟨e, error⟩ := errors o member
  rw [error]

theorem backfill_unreachable (down : Unreachable f.client) (k : Kind) (b : Text) :
    Always (fun found => found = none) (f.backfill k b) := by
  unfold Fetcher.backfill
  refine (candidatesIn_unreachable down k b _).bind fun located nothing => always_pure ?_
  rw [nothing]
  rfl

theorem folderItems_unreachable (down : Unreachable f.client) (folder b : Text) (role : Role) :
    Always (fun items => items = []) (f.folderItems folder b role) := by
  unfold Fetcher.folderItems
  refine (down.listFiles folder b).bind fun reply failed => ?_
  obtain ⟨e, error⟩ := failed.bounded f.bound
  rw [error]
  exact always_pure rfl

theorem candidates_ofLocated {b : Text} {found : List (Kind × Located)}
    (nothing : ∀ l ∈ found, l.2.items = []) :
    (Fetched.ofLocated b found).candidates = {} := by
  have none (k : Kind) : (found.reverse.find? fun l => l.1 == k && !l.2.items.isEmpty) = none := by
    refine List.find?_eq_none.mpr fun l member => ?_
    simp [nothing l (List.mem_reverse.mp member)]
  simp only [Fetched.ofLocated, none, Option.map_none]

/-- The branch is known without the client exactly if one is given. Nothing else is found. -/
theorem fetchAll_unreachable (down : Unreachable f.client) (preferred : Option Text)
    (kinds : List Kind) :
    Always (fun fetched => fetched.branch = preferred.filter (!Text.isBlank ·) ∧
      fetched.candidates = {}) (f.fetchAll preferred kinds) := by
  unfold Fetcher.fetchAll
  cases given : preferred.filter (!Text.isBlank ·) with
  | none =>
    refine (branch_unreachable down given).bind ?_
    rintro _ ⟨e, rfl⟩
    exact always_pure ⟨rfl, rfl⟩
  | some b =>
    rw [branch_given given, pure_bind]
    have each : ∀ k, Always (fun l : Kind × Located => l.2.items = [])
        (do pure (k, ← f.candidates k b)) := fun k =>
      (candidatesIn_unreachable down k b _).bind fun _ nothing => always_pure nothing
    refine (always_mapM kinds each).bind fun found nothing => always_pure ?_
    exact ⟨rfl, candidates_ofLocated nothing⟩

end Unreachable
end ModuleDocs.Remote
