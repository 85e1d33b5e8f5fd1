import ModuleDocs.Document.Choice
import ModuleDocs.Proofs.Text.Matching
import ModuleDocs.Proofs.Text.Utf8

namespace ModuleDocs.Document
open Text

theorem Kind.eq_of_stem {k k' : Kind}
    (same : (lowerAscii k.stem).head? = (lowerAscii k'.stem).head?) : k = k' := by
  revert same
  cases k <;> cases k' <;> decide

theorem Kind.head?_of_matchesName {k : Kind} {name : Text} (matched : k.matchesName name = true) :
    (lowerAscii k.stem).head? = name.head?.map Char.toLower := by
  have letters : lowerAscii (name.take k.stem.length) = lowerAscii k.stem := sameName_iff.mp matched
  rw [← letters, lowerAscii, List.head?_map, List.head?_take, if_neg]
  cases k <;> decide

theorem Kind.matchesName_unique {k k' : Kind} {name : Text} (matched : k.matchesName name = true)
    (matched' : k'.matchesName name = true) : k = k' :=
  Kind.eq_of_stem ((head?_of_matchesName matched).trans (head?_of_matchesName matched').symm)

theorem Kind.not_matchesName_nil (k : Kind) : k.matchesName [] = false := by
  cases k <;> decide

theorem Kind.not_matchesName_point (k : Kind) : k.matchesName ['.'] = false := by
  cases k <;> decide

theorem mem_of_least? {α : Type} {name : α → Text} {xs : List α} {x : α}
    (found : least? name xs = some x) : x ∈ xs := by
  induction xs generalizing x with
  | nil => contradiction
  | cons y rest ih =>
    rw [least?] at found
    split at found
    case h_1 => exact List.mem_cons.mpr (.inl (Option.some.inj found).symm)
    case h_2 z later =>
      obtain rfl := Option.some.inj found
      split
      case isTrue => exact List.mem_cons_of_mem y (ih later)
      case isFalse => exact List.mem_cons_self

theorem chosen?_eq_some {α : Type} {k : Kind} {name : α → Text} {xs : List α} {x : α}
    (found : chosen? k name xs = some x) : x ∈ xs ∧ k.matchesName (name x) = true :=
  List.mem_filter.mp (mem_of_least? found)

/-- Fewer bytes, or as many bytes and the earlier ones. -/
def Before (a b : Text) : Prop :=
  (Utf8.encode a).length < (Utf8.encode b).length ∨
    (Utf8.encode a).length = (Utf8.encode b).length ∧ Utf8.encode a < Utf8.encode b

theorem precedes_iff {a b : Text} : precedes a b = true ↔ Before a b := by
  unfold precedes Before
  rw [Bool.or_eq_true, Bool.and_eq_true, decide_eq_true_iff, beq_iff_eq, decide_eq_true_iff,
    Utf8.length_encode, Utf8.length_encode, Utf8.encode_lt_iff]

theorem Before.trans {a b c : Text} (first : Before a b) (second : Before b c) : Before a c := by
  rcases first with shorter | ⟨long, earlier⟩
  · exact .inl (second.elim (Nat.lt_trans shorter) fun ⟨long', _⟩ => long' ▸ shorter)
  · rcases second with shorter' | ⟨long', earlier'⟩
    · exact .inl (long ▸ shorter')
    · exact .inr ⟨long.trans long', List.lt_trans earlier earlier'⟩

theorem Before.asymm {a b : Text} (first : Before a b) : ¬ Before b a := by
  rintro (shorter' | ⟨long', earlier'⟩)
  · rcases first with shorter | ⟨long, -⟩
    · exact Nat.lt_asymm shorter shorter'
    · exact Nat.ne_of_lt shorter' long.symm
  · rcases first with shorter | ⟨-, earlier⟩
    · exact Nat.ne_of_lt shorter long'.symm
    · exact List.lt_asymm earlier earlier'

theorem before_total (a b : Text) : a = b ∨ Before a b ∨ Before b a := by
  rcases Nat.lt_trichotomy (Utf8.encode a).length (Utf8.encode b).length with shorter | long | longer
  · exact .inr (.inl (.inl shorter))
  · by_cases earlier : Utf8.encode a < Utf8.encode b
    case pos => exact .inr (.inl (.inr ⟨long, earlier⟩))
    case neg =>
      by_cases later : Utf8.encode b < Utf8.encode a
      case pos => exact .inr (.inr (.inr ⟨long.symm, later⟩))
      case neg => exact .inl (Utf8.encode_injective (List.le_antisymm later earlier))
  · exact .inr (.inr (.inl longer))

section
variable {α : Type} {name : α → Text} {xs : List α}

theorem least?_eq_none_iff : least? name xs = none ↔ xs = [] := by
  cases xs with
  | nil => exact iff_of_true rfl rfl
  | cons x rest =>
    rw [least?]
    cases least? name rest <;> simp

theorem least?_le {x : α} (found : least? name xs = some x) :
    ∀ y ∈ xs, name y = name x ∨ Before (name x) (name y) := by
  induction xs generalizing x with
  | nil => contradiction
  | cons first rest ih =>
    rw [least?] at found
    cases later : least? name rest with
    | none =>
      rw [later] at found
      obtain rfl := Option.some.inj found
      obtain rfl := least?_eq_none_iff.mp later
      intro y mem
      obtain rfl := List.mem_singleton.mp mem
      exact .inl rfl
    | some z =>
      rw [later] at found
      obtain rfl := Option.some.inj found
      have least := ih later
      rw [List.forall_mem_cons]
      split
      case isTrue before => exact ⟨.inr (precedes_iff.mp before), least⟩
      case isFalse notBefore =>
        rw [precedes_iff] at notBefore
        refine ⟨.inl rfl, fun y mem => ?_⟩
        -- The first entry is not behind the least one of the rest.
        rcases before_total (name first) (name z) with same | before | behind
        · rw [same]
          exact least y mem
        · rcases least y mem with same | later
          · exact .inr (same ▸ before)
          · exact .inr (before.trans later)
        · exact absurd behind notBefore

variable {k : Kind}

theorem chosen?_eq_none_iff : chosen? k name xs = none ↔ ∀ x ∈ xs, k.matchesName (name x) = false := by
  rw [chosen?, least?_eq_none_iff, List.filter_eq_nil_iff]
  exact forall₂_congr fun _ _ => by rw [Bool.not_eq_true]

/-- Among entries of different names the one is chosen that matches and is before every other that does. -/
theorem chosen?_eq_some_iff (distinct : ∀ x ∈ xs, ∀ y ∈ xs, name x = name y → x = y) {x : α} :
    chosen? k name xs = some x ↔ x ∈ xs ∧ k.matchesName (name x) = true ∧
      ∀ y ∈ xs, k.matchesName (name y) = true → y = x ∨ Before (name x) (name y) := by
  constructor
  · intro found
    obtain ⟨mem, matched⟩ := chosen?_eq_some found
    refine ⟨mem, matched, fun y mem' matched' => ?_⟩
    rcases least?_le found y (List.mem_filter.mpr ⟨mem', matched'⟩) with same | before
    · exact .inl (distinct y mem' x mem same)
    · exact .inr before
  · rintro ⟨mem, matched, least⟩
    cases found : chosen? k name xs with
    | none => rw [chosen?_eq_none_iff.mp found x mem] at matched; contradiction
    | some y =>
      obtain ⟨mem', matched'⟩ := chosen?_eq_some found
      rcases least y mem' matched' with rfl | before
      · rfl
      · rcases least?_le found x (List.mem_filter.mpr ⟨mem, matched⟩) with same | before'
        · exact congrArg some (distinct x mem y mem' same).symm
        · exact absurd before' before.asymm

theorem chosen?_map {β : Type} {name' : β → Text} {ys : List β} (f : α → β)
    (distinct : ∀ x ∈ xs, ∀ y ∈ xs, name x = name y → x = y)
    (names : ∀ x ∈ xs, name' (f x) = name x) (same : ∀ y, y ∈ ys ↔ ∃ x ∈ xs, f x = y) :
    chosen? k name' ys = (chosen? k name xs).map f := by
  have distinct' : ∀ y ∈ ys, ∀ z ∈ ys, name' y = name' z → y = z := by
    intro y mem z mem' equal
    obtain ⟨x, there, rfl⟩ := (same y).mp mem
    obtain ⟨x', there', rfl⟩ := (same z).mp mem'
    rw [names x there, names x' there'] at equal
    rw [distinct x there x' there' equal]
  cases found : chosen? k name xs with
  | none =>
    refine chosen?_eq_none_iff.mpr fun y mem => ?_
    obtain ⟨x, there, rfl⟩ := (same y).mp mem
    rw [names x there]
    exact chosen?_eq_none_iff.mp found x there
  | some x =>
    obtain ⟨mem, matched, least⟩ := (chosen?_eq_some_iff distinct).mp found
    refine (chosen?_eq_some_iff distinct').mpr ⟨(same _).mpr ⟨x, mem, rfl⟩, ?_, fun y mem' matched' => ?_⟩
    · rw [names x mem]
      exact matched
    · obtain ⟨x', there, rfl⟩ := (same y).mp mem'
      rw [names x' there] at matched' ⊢
      rw [names x mem]
      exact (least x' there matched').imp_left fun equal => congrArg f equal

end

end ModuleDocs.Document
