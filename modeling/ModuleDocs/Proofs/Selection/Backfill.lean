import ModuleDocs.Proofs.Remote.Calls
import ModuleDocs.Proofs.Selection.Invariant
import ModuleDocs.Selection.Collect

namespace ModuleDocs.Selection
open Document Remote

theorem items_sublist_insertBackfill (result : Result) (i : Item) :
    result.items.Sublist (result.insertBackfill i).2.items := by
  have inserts := insertBackfill_cases result i
  generalize result.insertBackfill i = inserted at inserts ⊢
  cases inserts with
  | refused => exact .refl _
  | taken k kind content absent =>
    have kept := (List.Sublist.refl (result.items.takeWhile (·.role == .standard))).append
      (List.sublist_cons_self i (result.items.dropWhile (·.role == .standard)))
    rwa [List.takeWhile_append_dropWhile] at kept

theorem items_sublist_insertAll (found : List Item) (result : Result) :
    result.items.Sublist (result.insertAll found).items := by
  induction found generalizing result with
  | nil => exact .refl _
  | cons i rest ih => exact (items_sublist_insertBackfill result i).trans (ih _)

section
variable {σ : Type} {setup : RemoteSetup (StateM σ)}

/-- What holds of a selection and of every selection with documents found later holds in the end. -/
theorem always_backfillMissing {p : Result → Prop} (branch : Option Text) {result : Result}
    (h : p result) (later : ∀ b, Always (fun items => p (result.insertAll (items.filterMap id)))
      ((result.missing.filter (· != .introduction)).mapM fun k => setup.fetcher.backfill k b)) :
    Always p (backfillMissing setup branch result) := by
  unfold backfillMissing
  dsimp only
  split
  case isTrue => exact always_pure h
  case isFalse =>
    cases branch <;> refine (always_anything _).bind fun found _ => ?_
    all_goals
      cases found with
      | error e => exact always_pure h
      | ok b => exact (later b).bind fun items kept => always_pure kept

theorem items_sublist_backfillMissing (branch : Option Text) (result : Result) :
    Always (fun last => result.items.Sublist last.items) (backfillMissing setup branch result) :=
  always_backfillMissing branch (.refl _) fun _ => (always_anything _).imp fun items _ =>
    items_sublist_insertAll (items.filterMap id) result

end
end ModuleDocs.Selection
