import Mathlib.Data.List.Induction
import ModuleDocs.Proofs.Text.Trim
import ModuleDocs.Proofs.Text.White
import ModuleDocs.Text.Digits

namespace ModuleDocs.Text

theorem hexDigit?_of_isDigit {c : Char} (digit : c.isDigit = true) :
    hexDigit? c = some (c.toNat - '0'.toNat) := by
  rw [hexDigit?, if_pos digit]
  rfl

theorem numberIn_eq_ofDigitChars {ds : Text} (digits : ∀ c ∈ ds, c.isDigit = true) (base : Nat) :
    numberIn base ds = Nat.ofDigitChars base ds 0 := by
  have fold : ∀ start, ds.foldl (fun n c => base * n + (hexDigit? c).getD 0) start =
      ds.foldl (fun n c => base * n + (c.toNat - '0'.toNat)) start := by
    induction ds with
    | nil => exact fun _ => rfl
    | cons c rest ih =>
      intro start
      rw [List.foldl_cons, List.foldl_cons, hexDigit?_of_isDigit (digits c List.mem_cons_self)]
      exact ih (fun d mem => digits d (List.mem_cons_of_mem c mem)) _
  exact fold 0

theorem isDigit_of_mem_ofNat {n : Nat} {c : Char} (mem : c ∈ ofNat n) : c.isDigit = true :=
  Nat.isDigit_of_mem_toDigits (by decide) (by decide) mem

theorem numberIn_ofNat (n : Nat) : numberIn 10 (ofNat n) = n := by
  rw [numberIn_eq_ofDigitChars fun _ => isDigit_of_mem_ofNat]
  exact Nat.ofDigitChars_ten_toDigits

theorem ofNat_ne_nil (n : Nat) : ofNat n ≠ [] := Nat.toDigits_ne_nil

theorem isWhite_of_isDigit {c : Char} (digit : c.isDigit = true) : isWhite c = false := by
  rw [← Bool.not_eq_true]
  intro white
  rw [forall_isWhite (·.isDigit = false) (by decide) white] at digit
  contradiction

theorem solid_ofNat (n : Nat) : Solid (ofNat n) :=
  solid_of_forall (ofNat_ne_nil n) fun _ mem => isWhite_of_isDigit (isDigit_of_mem_ofNat mem)

theorem digitChar_ne_zero : ∀ d, d < 10 → 0 < d → Nat.digitChar d ≠ '0' := by decide

theorem head?_ofNat {n : Nat} (positive : 0 < n) : (ofNat n).head? ≠ some '0' := by
  induction n using Nat.strongRecOn with
  | ind n ih =>
    unfold ofNat
    rw [Nat.toDigits_eq_if (by decide)]
    split
    case isTrue small =>
      simpa using digitChar_ne_zero n small positive
    case isFalse large =>
      have above := ih (n / 10) (by omega) (by omega)
      rwa [List.head?_append, Option.or_of_isSome (List.isSome_head?.mpr Nat.toDigits_ne_nil)]

theorem ofNat_eq_of_head? {n : Nat} {rest : Text} (begins : ofNat n = '0' :: rest) : rest = [] := by
  by_cases positive : 0 < n
  case pos => exact absurd (by rw [begins]; rfl) (head?_ofNat positive)
  case neg =>
    have zero : n = 0 := by omega
    subst zero
    exact (List.cons.inj begins).2.symm

theorem numberIn_append (base : Nat) (ds es : Text) :
    numberIn base (ds ++ es) = es.foldl (fun n c => base * n + (hexDigit? c).getD 0) (numberIn base ds) :=
  List.foldl_append

theorem digit_cases {c : Char} (digit : c.isDigit = true) :
    ∃ d < 10, hexDigit? c = some d ∧ Nat.digitChar d = c := by
  have each : ∀ n < 58, 48 ≤ n → Nat.digitChar (n - 48) = Char.ofNat n := by decide
  have bounds : 48 ≤ c.toNat ∧ c.toNat < 58 := by
    unfold Char.isDigit at digit
    simp [UInt32.le_iff_toNat_le] at digit
    omega
  refine ⟨c.toNat - 48, by omega, hexDigit?_of_isDigit digit, ?_⟩
  rw [each c.toNat bounds.2 bounds.1, Char.ofNat_toNat]

theorem ofNat_numberIn_of_head? {ds : Text} (digits : ∀ c ∈ ds, c.isDigit = true)
    (begins : ds.head? ≠ some '0') (nonempty : ds ≠ []) :
    ofNat (numberIn 10 ds) = ds ∧ 0 < numberIn 10 ds := by
  induction ds using List.reverseRecOn with
  | nil => exact absurd rfl nonempty
  | append_singleton front c ih =>
    obtain ⟨d, small, value, shown⟩ := digit_cases (digits c (by simp))
    have number : numberIn 10 (front ++ [c]) = 10 * numberIn 10 front + d := by
      rw [numberIn_append, List.foldl_cons, List.foldl_nil, value]
      rfl
    have own : ofNat d = [c] := by rw [ofNat, Nat.toDigits_of_lt_base small, shown]
    rw [number]
    by_cases first : front = []
    case pos =>
      subst first
      have positive : 0 < d := by
        rw [Nat.pos_iff_ne_zero]
        rintro rfl
        exact begins (congrArg some shown.symm)
      have zero : 10 * numberIn 10 [] + d = d := by rw [numberIn, List.foldl_nil, Nat.mul_zero, Nat.zero_add]
      rw [zero]
      exact ⟨own, positive⟩
    case neg =>
      have head : front.head? ≠ some '0' := by
        rwa [List.head?_append, Option.or_of_isSome (List.isSome_head?.mpr first)] at begins
      obtain ⟨same, positive⟩ := ih (fun d mem => digits d (List.mem_append_left _ mem)) head first
      refine ⟨?_, by omega⟩
      have joined : ofNat (numberIn 10 front) ++ ofNat d = ofNat (10 * numberIn 10 front + d) :=
        Nat.toDigits_append_toDigits (by decide) positive small
      rw [← joined, same, own]

def plainDigits (ds : Text) : Text :=
  match ds.dropWhile (· == '0') with
  | [] => ['0']
  | ds => ds

theorem numberIn_dropWhile_zero (ds : Text) :
    numberIn 10 (ds.dropWhile (· == '0')) = numberIn 10 ds := by
  induction ds with
  | nil => rfl
  | cons c rest ih =>
    rw [List.dropWhile_cons]
    split
    case isTrue zero =>
      rw [beq_iff_eq.mp zero, ih]
      rfl
    case isFalse => rfl

theorem ofNat_numberIn {ds : Text} (digits : ∀ c ∈ ds, c.isDigit = true) :
    ofNat (numberIn 10 ds) = plainDigits ds := by
  rw [← numberIn_dropWhile_zero, plainDigits]
  split
  case h_1 none => rw [none]; rfl
  case h_2 nonempty =>
    refine (ofNat_numberIn_of_head? (fun c mem => digits c ?_) ?_ nonempty).1
    · exact (List.dropWhile_suffix _).subset mem
    · intro zero
      have head := List.head?_dropWhile_not (· == '0') ds
      rw [zero] at head
      contradiction

end ModuleDocs.Text
