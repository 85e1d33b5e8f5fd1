import Mathlib.Data.List.Basic
import ModuleDocs.Text.Basic

namespace ModuleDocs.Text

theorem stripPrefix?_eq_some {s p rest : Text} (found : s.stripPrefix? p = some rest) :
    s = p ++ rest := (List.append_eq_of_isPrefixOf?_eq_some found).symm

theorem stripSuffix?_append (s ending : Text) : stripSuffix? (s ++ ending) ending = some s :=
  List.isSuffixOf?_eq_some_iff_append_eq.mpr rfl

theorem stripSuffix?_eq_none {s ending : Text} (other : ¬ ending <:+ s) :
    stripSuffix? s ending = none := by
  rw [stripSuffix?, ← Option.isNone_iff_eq_none, ← Option.not_isSome, List.isSome_isSuffixOf?_eq_isSuffixOf,
    Bool.not_eq_true', ← Bool.not_eq_true, List.isSuffixOf_iff_suffix]
  exact other

theorem sameName_iff {a b : Text} : sameName a b = true ↔ lowerAscii a = lowerAscii b := beq_iff_eq

theorem sameName_refl (a : Text) : sameName a a = true := sameName_iff.mpr rfl

theorem sameName_comm (a b : Text) : sameName a b = sameName b a := by
  rw [Bool.eq_iff_iff, sameName_iff, sameName_iff]
  exact eq_comm

theorem length_lowerAscii (s : Text) : (lowerAscii s).length = s.length := List.length_map _

theorem length_of_sameName {a b : Text} (same : sameName a b = true) : a.length = b.length := by
  rw [← length_lowerAscii a, sameName_iff.mp same, length_lowerAscii]

theorem mem_of_sameName {a b : Text} (same : sameName a b = true) {c : Char} (mem : c ∈ a) :
    c.toLower ∈ lowerAscii b :=
  sameName_iff.mp same ▸ List.mem_map_of_mem mem

theorem forall_ascii (p : Char → Prop) (each : ∀ n < 128, p (Char.ofNat n)) {c : Char}
    (ascii : c.toNat < 128) : p c := by
  have here := each c.toNat ascii
  rwa [Char.ofNat_toNat] at here

theorem ascii_of_isAlpha {c : Char} (letter : c.isAlpha = true) : c.toNat < 128 := by
  unfold Char.isAlpha Char.isUpper Char.isLower at letter
  simp [UInt32.le_iff_toNat_le] at letter
  omega

theorem eq_of_toLower_eq {c d : Char} (unlettered : d.isLower = false) (same : c.toLower = d) :
    c = d := by
  unfold Char.toLower at same
  split at same
  case isTrue upper =>
    subst same
    unfold Char.isLower at unlettered
    simp [UInt32.le_iff_toNat_le] at unlettered upper
    omega
  case isFalse => exact same

theorem toLower_eq_self_or (c : Char) :
    c.toLower = c ∨ c.isAlpha = true ∧ c.toLower.isAlpha = true := by
  unfold Char.toLower
  split
  case isFalse => exact .inl rfl
  case isTrue upper =>
    have bounds : 65 ≤ c.toNat ∧ c.toNat ≤ 90 := by
      simpa [UInt32.le_iff_toNat_le] using upper
    unfold Char.isAlpha Char.isUpper Char.isLower
    refine .inr ⟨?_, ?_⟩ <;> simp [UInt32.le_iff_toNat_le, UInt32.toNat_add] <;> omega

theorem eq_or_letters_of_toLower_eq {c d : Char} (same : c.toLower = d.toLower) :
    c = d ∨ c.isAlpha = true ∧ d.isAlpha = true := by
  rcases toLower_eq_self_or c with own | ⟨letter, lower⟩
  · rcases toLower_eq_self_or d with own' | ⟨letter', lower'⟩
    · exact .inl (own.symm.trans (same.trans own'))
    · rw [own] at same
      exact .inr ⟨same ▸ lower', letter'⟩
  · rcases toLower_eq_self_or d with own' | ⟨letter', lower'⟩
    · rw [own'] at same
      exact .inr ⟨letter, same ▸ lower⟩
    · exact .inr ⟨letter, letter'⟩

theorem toLower_beq {c d : Char} (unlettered : d.isAlpha = false) : (c.toLower == d) = (c == d) := by
  rw [Bool.eq_iff_iff, beq_iff_eq, beq_iff_eq]
  constructor
  · exact eq_of_toLower_eq (Bool.or_eq_false_iff.mp unlettered).2
  · rintro rfl
    rcases toLower_eq_self_or c with same | ⟨letter, -⟩
    · exact same
    · exact absurd (letter.symm.trans unlettered) Bool.noConfusion

theorem stripPrefix?_lowerAscii {p : Text} (unlettered : p.any Char.isAlpha = false) (s : Text) :
    (lowerAscii s).stripPrefix? p = (s.stripPrefix? p).map lowerAscii := by
  induction p generalizing s with
  | nil => rfl
  | cons c p ih =>
    rw [List.any_cons, Bool.or_eq_false_iff] at unlettered
    obtain ⟨first, unlettered⟩ := unlettered
    cases s with
    | nil => rfl
    | cons d rest =>
      change (if c == d.toLower then stripPrefix? (lowerAscii rest) p else none) =
        (if c == d then stripPrefix? rest p else none).map lowerAscii
      rw [BEq.comm, toLower_beq first, BEq.comm]
      split
      case isTrue => exact ih unlettered rest
      case isFalse => rfl

theorem cut_lowerAscii {sep : Text} (unlettered : sep.any Char.isAlpha = false) (s : Text) :
    cut sep (lowerAscii s) = (cut sep s).map fun (a, b) => (lowerAscii a, lowerAscii b) := by
  induction s with
  | nil =>
    change cut sep [] = _
    rw [cut]
    split <;> rfl
  | cons c rest ih =>
    have strip : sep.isPrefixOf? (c.toLower :: lowerAscii rest) =
        (sep.isPrefixOf? (c :: rest)).map lowerAscii := stripPrefix?_lowerAscii unlettered (c :: rest)
    change cut sep (c.toLower :: lowerAscii rest) = _
    rw [cut, cut, strip]
    cases sep.isPrefixOf? (c :: rest) with
    | some after => rfl
    | none =>
      change (cut sep (lowerAscii rest)).map (fun (a, b) => (c.toLower :: a, b)) = _
      rw [ih, Option.map_map, Option.map_map]
      rfl

end ModuleDocs.Text
