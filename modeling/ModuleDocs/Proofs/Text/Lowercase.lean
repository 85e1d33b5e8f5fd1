import ModuleDocs.Proofs.Text.Matching
import ModuleDocs.Text.Lowercase

/-! Lower case reached once is kept. Main statements: a text in lower case is its own lower-case form,
which rests on the table of runs, where no lower-case form of a character lies in a run again; and texts
that differ in the case of ASCII letters have one lower-case form. -/
namespace ModuleDocs
namespace CaseRun

def low (r : CaseRun) : Nat := ((r.first : Int) + r.shift).toNat

def high (r : CaseRun) : Nat := ((r.last : Int) + r.shift).toNat

def leads (r : CaseRun) : Bool :=
  Nat.blt 0 r.low && (r.high.blt 0xD800 || Nat.blt 0xDFFF r.low && r.high.blt 0x110000)

/-- The second run covers nothing that the first one leads to: it ends before or starts behind, or the
two go past each other in steps of two. -/
def apart (r other : CaseRun) : Bool :=
  r.high.blt other.first || other.last.blt r.low ||
    (r.step.beq 2 || r.first.beq r.last) && other.step.beq 2 && ((r.low + other.first) % 2).beq 1

theorem leads_of_mem {r : CaseRun} (mem : r ∈ caseRuns) : r.leads = true :=
  List.all_eq_true.mp (by decide +kernel : caseRuns.all leads = true) r mem

theorem apart_of_mem {r other : CaseRun} (mem : r ∈ caseRuns)
    (mem' : other ∈ ⟨0x130, 0x130, 1, 0⟩ :: caseRuns) : r.apart other = true := by
  have all : (caseRuns.all fun r => (⟨0x130, 0x130, 1, 0⟩ :: caseRuns).all r.apart) = true := by
    decide +kernel
  exact List.all_eq_true.mp (List.all_eq_true.mp all r mem) other mem'

end CaseRun

namespace Text

theorem shiftedBy_eq_some {n : Nat} {r : CaseRun} {d : Char} (mem : r ∈ caseRuns)
    (shifted : shiftedBy n r = some d) :
    r.first ≤ n ∧ n ≤ r.last ∧ (n - r.first) % r.step = 0 ∧ (d.toNat : Int) = n + r.shift := by
  rw [shiftedBy] at shifted
  split at shifted
  case isFalse => contradiction
  case isTrue covers =>
    obtain ⟨above, below, step⟩ := covers
    have leads := CaseRun.leads_of_mem mem
    simp only [CaseRun.leads, CaseRun.low, CaseRun.high, Bool.and_eq_true, Bool.or_eq_true,
      Nat.blt_eq] at leads
    have valid : ((n : Int) + r.shift).toNat.isValidChar := by
      rw [Nat.isValidChar]
      omega
    refine ⟨above, below, step, ?_⟩
    rw [← Option.some.inj shifted, Char.ofNat, dif_pos valid]
    change (((n : Int) + r.shift).toNat : Int) = _
    omega

/-- No run covers the character, and it is not the capital dotted I: it is its own lower-case form. -/
def Settled (c : Char) : Prop :=
  ∀ run ∈ ⟨0x130, 0x130, 1, 0⟩ :: caseRuns, shiftedBy c.toNat run = none

instance (c : Char) : Decidable (Settled c) :=
  decidable_of_iff
    (((⟨0x130, 0x130, 1, 0⟩ :: caseRuns).all fun run => (shiftedBy c.toNat run).isNone) = true)
    (by simp only [Settled, List.all_eq_true, Option.isNone_iff_eq_none])

theorem settled_of_shiftedBy {n : Nat} {r : CaseRun} {d : Char} (mem : r ∈ caseRuns)
    (shifted : shiftedBy n r = some d) : Settled d := by
  intro other mem'
  obtain ⟨above, below, step, form⟩ := shiftedBy_eq_some mem shifted
  have apart := CaseRun.apart_of_mem mem mem'
  have leads := CaseRun.leads_of_mem mem
  simp only [CaseRun.leads, CaseRun.apart, CaseRun.low, CaseRun.high, Bool.and_eq_true,
    Bool.or_eq_true, Nat.blt_eq, Nat.beq_eq] at apart leads
  rw [shiftedBy, if_neg]
  rintro ⟨above', below', step'⟩
  -- In the last two cases the other run goes in steps of two, and the form lies an odd number of
  -- places behind its start.
  rcases apart with (before | behind) | ⟨⟨two | single, two'⟩, odd⟩
  · omega
  · omega
  · rw [two] at step
    rw [two'] at step'
    omega
  · rw [two'] at step'
    omega

theorem toLower_eq {c : Char} (ascii : c.toNat < 128) :
    c.toLower = (caseRuns.findSome? (shiftedBy c.toNat)).getD c := by
  have later : ∀ r ∈ caseRuns.tail, shiftedBy c.toNat r = none := by
    intro r mem
    have start := List.all_eq_true.mp
      (by decide +kernel : (caseRuns.tail.all fun r => Nat.ble 128 r.first) = true) r mem
    rw [Nat.ble_eq] at start
    rw [shiftedBy, if_neg]
    omega
  have capitals : c.toLower = (shiftedBy c.toNat ⟨0x41, 0x5A, 1, 32⟩).getD c :=
    forall_ascii (fun c => c.toLower = (shiftedBy c.toNat ⟨0x41, 0x5A, 1, 32⟩).getD c)
      (by decide +kernel) ascii
  change c.toLower = ((⟨0x41, 0x5A, 1, 32⟩ :: caseRuns.tail).findSome? (shiftedBy c.toNat)).getD c
  rw [List.findSome?_cons, List.findSome?_eq_none_iff.mpr later, capitals]
  cases shiftedBy c.toNat ⟨0x41, 0x5A, 1, 32⟩ <;> rfl

theorem lowerChar_eq (c : Char) : lowerChar c =
    if c.toNat = 0x130 then ['i', '\u0307']
    else [(caseRuns.findSome? (shiftedBy c.toNat)).getD c] := by
  by_cases ascii : c.toNat < 128
  case pos => rw [lowerChar, if_pos ascii, if_neg (by omega), toLower_eq ascii]
  case neg => rw [lowerChar, if_neg ascii]

theorem lowerChar_of_settled {c : Char} (settled : Settled c) : lowerChar c = [c] := by
  obtain ⟨dotted, runs⟩ := List.forall_mem_cons.mp settled
  have not_dotted : c.toNat ≠ 0x130 := by
    intro same
    rw [same] at dotted
    contradiction
  rw [lowerChar_eq, if_neg not_dotted, List.findSome?_eq_none_iff.mpr runs, Option.getD_none]

theorem settled_of_mem_lowerChar {c d : Char} (mem : d ∈ lowerChar c) : Settled d := by
  rw [lowerChar_eq] at mem
  split at mem
  case isTrue =>
    have both : Settled 'i' ∧ Settled '\u0307' := by decide +kernel
    rcases List.mem_cons.mp mem with rfl | mem
    · exact both.1
    · exact List.mem_singleton.mp mem ▸ both.2
  case isFalse not_dotted =>
    obtain rfl := List.mem_singleton.mp mem
    cases form : caseRuns.findSome? (shiftedBy c.toNat) with
    | none =>
      refine List.forall_mem_cons.mpr ⟨?_, List.findSome?_eq_none_iff.mp form⟩
      rw [Option.getD_none, shiftedBy, if_neg]
      rintro ⟨above, below, -⟩
      exact not_dotted (Nat.le_antisymm below above)
    | some d =>
      obtain ⟨r, mem, shifted⟩ := List.exists_of_findSome?_eq_some form
      exact settled_of_shiftedBy mem shifted

theorem settled_of_mem_lowerFrom {before s : Text} {d : Char} (mem : d ∈ lowerFrom before s) :
    Settled d := by
  induction s generalizing before with
  | nil => contradiction
  | cons c rest ih =>
    rcases List.mem_append.mp mem with here | later
    case inr => exact ih later
    case inl =>
      have sigmas : Settled 'ς' ∧ Settled 'σ' := by decide +kernel
      split at here
      case isFalse => exact settled_of_mem_lowerChar here
      case isTrue =>
        split at here
        case isTrue => exact List.mem_singleton.mp here ▸ sigmas.1
        case isFalse => exact List.mem_singleton.mp here ▸ sigmas.2

theorem lowerFrom_of_settled {s : Text} (settled : ∀ c ∈ s, Settled c) (before : Text) :
    lowerFrom before s = s := by
  induction s generalizing before with
  | nil => rfl
  | cons c rest ih =>
    obtain ⟨first, settled⟩ := List.forall_mem_cons.mp settled
    have not_sigma : c ≠ 'Σ' := by
      rintro rfl
      exact absurd first (by decide +kernel)
    rw [lowerFrom, if_neg not_sigma, lowerChar_of_settled first, ih settled]
    rfl

theorem lowercase_lowercase (s : Text) : lowercase (lowercase s) = lowercase s :=
  lowerFrom_of_settled (fun _ mem => settled_of_mem_lowerFrom mem) []

theorem case_of_isAlpha {c : Char} (letter : c.isAlpha = true) :
    lowerChar c = [c.toLower] ∧ inRanges caseIgnorableRanges c.toNat = false ∧
      inRanges casedRanges c.toNat = true := by
  have ascii := ascii_of_isAlpha letter
  refine ⟨by rw [lowerChar, if_pos ascii], ?_⟩
  exact forall_ascii (fun c => c.isAlpha = true → inRanges caseIgnorableRanges c.toNat = false ∧
    inRanges casedRanges c.toNat = true) (by decide +kernel) ascii letter

theorem lowerChar_toLower (c : Char) : lowerChar c.toLower = lowerChar c := by
  rcases toLower_eq_self_or c with same | ⟨letter, -⟩
  · rw [same]
  · have form := (case_of_isAlpha letter).1
    have settled : Settled c.toLower :=
      settled_of_mem_lowerChar (form ▸ List.mem_singleton_self c.toLower)
    rw [lowerChar_of_settled settled, form]

theorem nextIsCased_lowerAscii (s : Text) : nextIsCased (lowerAscii s) = nextIsCased s := by
  induction s with
  | nil => rfl
  | cons c rest ih =>
    change nextIsCased (c.toLower :: lowerAscii rest) = _
    rw [nextIsCased, nextIsCased, ih]
    rcases toLower_eq_self_or c with same | ⟨letter, lower⟩
    · rw [same]
    · obtain ⟨-, passed, cased⟩ := case_of_isAlpha letter
      obtain ⟨-, passed', cased'⟩ := case_of_isAlpha lower
      rw [passed, cased, passed', cased']

theorem lowerFrom_lowerAscii (before s : Text) :
    lowerFrom (lowerAscii before) (lowerAscii s) = lowerFrom before s := by
  induction s generalizing before with
  | nil => rfl
  | cons c rest ih =>
    have later : lowerFrom (c.toLower :: lowerAscii before) (lowerAscii rest) =
        lowerFrom (c :: before) rest := ih (c :: before)
    have sigma : c.toLower = 'Σ' ↔ c = 'Σ' :=
      ⟨eq_of_toLower_eq (by decide), by rintro rfl; rfl⟩
    change lowerFrom (lowerAscii before) (c.toLower :: lowerAscii rest) = _
    simp only [lowerFrom, later, sigma, nextIsCased_lowerAscii, lowerChar_toLower]

theorem lowercase_of_sameName {a b : Text} (same : sameName a b = true) :
    lowercase a = lowercase b := by
  have own (s : Text) : lowercase (lowerAscii s) = lowercase s := lowerFrom_lowerAscii [] s
  rw [← own a, sameName_iff.mp same, own b]

theorem length_lowerFrom (before s : Text) :
    (lowerFrom before s).length = (s.flatMap lowerChar).length := by
  induction s generalizing before with
  | nil => rfl
  | cons c rest ih =>
    simp only [lowerFrom, List.length_append, List.flatMap_cons, ih]
    congr 1
    split
    case isFalse => rfl
    case isTrue sigma =>
      have single : (lowerChar 'Σ').length = 1 := by decide +kernel
      rw [sigma, single]
      split <;> rfl

theorem length_lowercase_append (a b : Text) :
    (lowercase (a ++ b)).length = (lowercase a).length + (lowercase b).length := by
  simp only [lowercase, length_lowerFrom, List.flatMap_append, List.length_append]

end Text
end ModuleDocs
