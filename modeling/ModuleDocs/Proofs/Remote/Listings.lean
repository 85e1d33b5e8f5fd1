import Mathlib.Data.List.Nodup
import ModuleDocs.Proofs.Document.Choice
import ModuleDocs.Proofs.Remote.Calls

namespace ModuleDocs.Remote
open Document Text

/-- Two answers that list the same files, each under a name of its own, or are the same otherwise. -/
inductive Reordered : Reply (List Listed) → Reply (List Listed) → Prop where
  | same (reply : Reply (List Listed)) : Reordered reply reply
  | listed {entries entries' : List Listed} : (entries.map Listed.name).Nodup → entries'.Perm entries →
      Reordered (some (.ok entries)) (some (.ok entries'))

section
variable {σ : Type}

/-- The second client answers as the first one does, up to the order of its listings. -/
structure Relisted (c c' : Client (StateM σ)) : Prop where
  contents : c'.fileContent = c.fileContent
  listings : ∀ folder b s, ∃ reply reply' s₁, (c.listFiles folder b).run s = (reply, s₁) ∧
    (c'.listFiles folder b).run s = (reply', s₁) ∧ Reordered reply reply'

def Fetcher.readEntry {m : Type → Type} [Monad m] (f : Fetcher m) (k : Kind) (b : Text) (entry : Listed) :
    m (Except RemoteError (Option Item)) := do
  match bounded f.bound (← f.client.fileContent entry.path b) with
  | .error e => pure (.error e)
  | .ok content => pure (.ok ((content.map fun c =>
      Item.ofKind k c entry.name entry.path .remote).filter Item.hasContent))

/-- The choice is the entry whose name matches and is before every other name that does; there is none if no
name matches. -/
structure IsChoice (k : Kind) (entries : List Listed) (choice : Option Listed) : Prop where
  none_iff : choice = none ↔ ∀ e ∈ entries, k.matchesName e.name = false
  some_iff : ∀ e, choice = some e ↔ e ∈ entries ∧ k.matchesName e.name = true ∧
    ∀ other ∈ entries, k.matchesName other.name = true → other = e ∨ Before e.name other.name

theorem distinct_of_nodup {entries : List Listed} (names : (entries.map Listed.name).Nodup) :
    ∀ e ∈ entries, ∀ e' ∈ entries, e.name = e'.name → e = e' :=
  fun _ mem _ mem' same => List.inj_on_of_nodup_map names mem mem' same

variable {f f' : Fetcher (StateM σ)} {k : Kind} {b folder : Text}

theorem candidateIn_listed {entries : List Listed} {s s₁ : σ} (names : (entries.map Listed.name).Nodup)
    (listed : (f.client.listFiles folder b).run s = (some (.ok entries), s₁)) :
    ∃ choice, IsChoice k entries choice ∧ (f.candidateIn k b folder).run s = match choice with
      | none => (.ok none, s₁)
      | some e => (f.readEntry k b e).run s₁ := by
  refine ⟨chosen? k Listed.name entries, ⟨chosen?_eq_none_iff,
    fun e => chosen?_eq_some_iff (distinct_of_nodup names)⟩, ?_⟩
  unfold Fetcher.candidateIn
  rw [run_bind listed]
  dsimp only [bounded]
  cases chosen? k Listed.name entries <;> rfl

theorem candidateIn_relisted (bound : f'.bound = f.bound) (relisted : Relisted f.client f'.client) :
    f'.candidateIn k b folder = f.candidateIn k b folder := by
  funext s
  obtain ⟨reply, reply', s₁, listed, listed', order⟩ := relisted.listings folder b s
  change (f'.candidateIn k b folder).run s = (f.candidateIn k b folder).run s
  unfold Fetcher.candidateIn
  rw [run_bind listed, run_bind listed', relisted.contents, bound]
  cases order with
  | same => rfl
  | @listed entries entries' names reordered =>
    have same : chosen? k Listed.name entries' = chosen? k Listed.name entries := by
      rw [chosen?_map id (distinct_of_nodup names) (fun _ _ => rfl) fun e => ?_, Option.map_id, id]
      simp [reordered.mem_iff]
    dsimp only [bounded]
    rw [same]

end

theorem insertListed_perm (e : Listed) (entries : List Listed) :
    (Repository.insertListed e entries).Perm (e :: entries) := by
  induction entries with
  | nil => exact List.Perm.refl _
  | cons d rest ih =>
    rw [Repository.insertListed]
    split
    case isTrue => exact (ih.cons d).trans (List.Perm.swap e d rest)
    case isFalse => exact List.Perm.refl _

theorem foldr_insertListed_perm (entries : List Listed) :
    (entries.foldr Repository.insertListed []).Perm entries := by
  induction entries with
  | nil => exact List.Perm.refl _
  | cons e rest ih => exact (insertListed_perm e _).trans (ih.cons e)

theorem mem_listing {r : Repository} {folder : Text} {e : Listed} : e ∈ r.listing folder ↔
    ∃ content, (e.path, content) ∈ r.files ∧ '/' ∉ e.name ∧ e.path =
      (if folder.isEmpty then [] else dropEndWhile Repository.isSlash folder ++ ['/']) ++ e.name := by
  unfold Repository.listing
  dsimp only
  rw [(foldr_insertListed_perm _).mem_iff, List.mem_filterMap]
  constructor
  · rintro ⟨⟨path, content⟩, mem, listed⟩
    dsimp only at listed
    split at listed
    case h_2 => contradiction
    case h_1 name below =>
      split at listed
      case isTrue => contradiction
      case isFalse inside =>
        obtain rfl := Option.some.inj listed
        refine ⟨content, mem, fun slash => inside ?_, stripPrefix?_eq_some below⟩
        exact List.any_eq_true.mpr ⟨'/', slash, rfl⟩
  · rintro ⟨content, mem, single, path⟩
    refine ⟨(e.path, content), mem, ?_⟩
    have below : Text.stripPrefix? e.path
        (if folder.isEmpty then [] else dropEndWhile Repository.isSlash folder ++ ['/']) = some e.name :=
      List.isPrefixOf?_eq_some_iff_append_eq.mpr path.symm
    have inside : ¬ e.name.any Repository.isSlash = true := by
      simpa [Repository.isSlash] using single
    simp only [below, if_neg inside]

end ModuleDocs.Remote
