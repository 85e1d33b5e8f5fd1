import ModuleDocs.Help.Page
import ModuleDocs.Proofs.Text.Matching

namespace ModuleDocs.Help
open Text

theorem mem_dropRepeats {seen : List Text} {ps : List Parameter} {p : Parameter}
    (mem : p ∈ dropRepeats seen ps) : p ∈ ps ∧ ∀ n ∈ seen, sameName p.name n = false := by
  induction ps generalizing seen with
  | nil => simp [dropRepeats] at mem
  | cons q rest ih =>
    rw [dropRepeats] at mem
    split at mem
    case isTrue =>
      obtain ⟨later, new⟩ := ih mem
      exact ⟨List.mem_cons_of_mem q later, new⟩
    case isFalse fresh =>
      rcases List.mem_cons.mp mem with rfl | mem
      · exact ⟨List.mem_cons_self, by simpa using fresh⟩
      · obtain ⟨later, new⟩ := ih mem
        exact ⟨List.mem_cons_of_mem q later, fun n seen => new n (List.mem_cons_of_mem _ seen)⟩

theorem exists_mem_dropRepeats (seen : List Text) {ps : List Parameter} {p : Parameter}
    (mem : p ∈ ps) : (∃ n ∈ seen, sameName p.name n = true) ∨
      ∃ q ∈ dropRepeats seen ps, sameName p.name q.name = true := by
  induction ps generalizing seen with
  | nil => contradiction
  | cons q rest ih =>
    rw [dropRepeats]
    split
    case isTrue repeated =>
      rcases List.mem_cons.mp mem with rfl | later
      · exact .inl (List.any_eq_true.mp repeated)
      · exact ih seen later
    case isFalse =>
      rcases List.mem_cons.mp mem with rfl | later
      · exact .inr ⟨p, List.mem_cons_self, sameName_refl p.name⟩
      · rcases ih (q.name :: seen) later with ⟨n, before, same⟩ | ⟨r, kept, same⟩
        · rcases List.mem_cons.mp before with rfl | before
          · exact .inr ⟨q, List.mem_cons_self, same⟩
          · exact .inl ⟨n, before, same⟩
        · exact .inr ⟨r, List.mem_cons_of_mem q kept, same⟩

theorem pairwise_dropRepeats (seen : List Text) (ps : List Parameter) :
    (dropRepeats seen ps).Pairwise fun p q => sameName p.name q.name = false := by
  induction ps generalizing seen with
  | nil => exact .nil
  | cons p rest ih =>
    rw [dropRepeats]
    split
    case isTrue => exact ih seen
    case isFalse =>
      refine .cons (fun q mem => ?_) (ih _)
      rw [sameName_comm]
      exact (mem_dropRepeats mem).2 p.name List.mem_cons_self

theorem eraseDups_loop (kept ps : List Parameter) :
    List.eraseDupsBy.loop (fun p q => sameName p.name q.name) ps kept =
      kept.reverse ++ dropRepeats (kept.map (·.name)) ps := by
  induction ps generalizing kept with
  | nil => simp [List.eraseDupsBy.loop, dropRepeats]
  | cons p rest ih =>
    have here : (kept.map (·.name)).any (sameName p.name) =
        kept.any fun q => sameName p.name q.name := by
      rw [List.any_map]
      rfl
    rw [List.eraseDupsBy.loop, dropRepeats, here]
    cases kept.any fun q => sameName p.name q.name with
    | true => exact ih kept
    | false => simp [ih (p :: kept)]

theorem dropRepeats_eq_eraseDups (ps : List Parameter) :
    dropRepeats [] ps = ps.eraseDupsBy fun p q => sameName p.name q.name :=
  (eraseDups_loop [] ps).symm

end ModuleDocs.Help
