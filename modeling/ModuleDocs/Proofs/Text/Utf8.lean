import Mathlib.Tactic.ByContra
import Mathlib.Tactic.SplitIfs
import ModuleDocs.Text.Utf8

namespace ModuleDocs

namespace Text

theorem foldl_utf8Size (n : Nat) (s : Text) :
    s.foldl (fun n c => n + c.utf8Size) n = n + byteLength s := by
  induction s generalizing n with
  | nil => rfl
  | cons c rest ih =>
    rw [byteLength, List.foldl_cons, List.foldl_cons, ih, ih]
    omega

theorem byteLength_append (s t : Text) : byteLength (s ++ t) = byteLength s + byteLength t := by
  rw [byteLength, List.foldl_append, foldl_utf8Size]
  rfl

theorem byteLength_cons (c : Char) (s : Text) : byteLength (c :: s) = c.utf8Size + byteLength s := by
  rw [byteLength, List.foldl_cons, foldl_utf8Size, Nat.zero_add]

theorem byteLength_of_single {s : Text} (single : ∀ c ∈ s, c.utf8Size = 1) : byteLength s = s.length := by
  induction s with
  | nil => rfl
  | cons c rest ih =>
    rw [List.forall_mem_cons] at single
    rw [byteLength_cons, single.1, ih single.2, List.length_cons, Nat.add_comm]

end Text

namespace Utf8

theorem toNat_byte {n : Nat} (small : n < 256) : (byte n).toNat = n :=
  UInt8.toNat_ofNat_of_lt' small

theorem toNat_cases (c : Char) : c.toNat < 0xD800 ∨ 0xDFFF < c.toNat ∧ c.toNat < 0x110000 := by
  exact c.valid

theorem decodeFrom_ascii {n : Nat} (small : n < 0x80) (rest : Bytes) :
    decodeFrom none (byte n :: rest) = some (Char.ofNat n) :: decodeFrom none rest := by
  have number := toNat_byte (n := n) (by omega)
  simp [decodeFrom, next, first, number, small]

theorem decodeFrom_lead {n : Nat} {p : Pending} (low : 0x80 ≤ n) (high : n < 256)
    (lead : lead? (byte n) = some p) (rest : Bytes) :
    decodeFrom none (byte n :: rest) = decodeFrom (some p) rest := by
  have number := toNat_byte high
  have large : ¬ n < 0x80 := by omega
  simp [decodeFrom, next, first, number, large, lead]

theorem decodeFrom_more {n : Nat} {p : Pending} (low : p.low ≤ n) (high : n ≤ p.high)
    (small : n < 256) (more : 1 < p.more) (rest : Bytes) :
    decodeFrom (some p) (byte n :: rest) =
      decodeFrom (some ⟨p.more - 1, p.bits * 64 + n % 64, 0x80, 0xBF⟩) rest := by
  have number := toNat_byte small
  have open_ : ¬ p.more ≤ 1 := by omega
  simp [decodeFrom, next, number, low, high, open_]

theorem decodeFrom_last {n : Nat} {p : Pending} (low : p.low ≤ n) (high : n ≤ p.high)
    (small : n < 256) (last : p.more = 1) (rest : Bytes) :
    decodeFrom (some p) (byte n :: rest) =
      some (Char.ofNat (p.bits * 64 + n % 64)) :: decodeFrom none rest := by
  have number := toNat_byte small
  simp [decodeFrom, next, number, low, high, last]

theorem lead?_two {n : Nat} (low : 0xC2 ≤ n) (high : n < 0xE0) :
    lead? (byte n) = some ⟨1, n - 0xC0, 0x80, 0xBF⟩ := by
  have number := toNat_byte (n := n) (by omega)
  have begins : ¬ n < 0xC2 := by omega
  simp [lead?, number, begins, high]

theorem lead?_three {n : Nat} (low : 0xE0 ≤ n) (high : n < 0xF0) :
    lead? (byte n) =
      some ⟨2, n - 0xE0, if n = 0xE0 then 0xA0 else 0x80, if n = 0xED then 0x9F else 0xBF⟩ := by
  have number := toNat_byte (n := n) (by omega)
  have begins : ¬ n < 0xC2 := by omega
  have longer : ¬ n < 0xE0 := by omega
  simp [lead?, number, begins, longer, high]

theorem lead?_four {n : Nat} (low : 0xF0 ≤ n) (high : n < 0xF5) :
    lead? (byte n) =
      some ⟨3, n - 0xF0, if n = 0xF0 then 0x90 else 0x80, if n = 0xF4 then 0x8F else 0xBF⟩ := by
  have number := toNat_byte (n := n) (by omega)
  have begins : ¬ n < 0xC2 := by omega
  have longer : ¬ n < 0xE0 := by omega
  have longest : ¬ n < 0xF0 := by omega
  simp [lead?, number, begins, longer, longest, high]

theorem decodeFrom_encodeChar (c : Char) (rest : Bytes) :
    decodeFrom none (encodeChar c ++ rest) = some c :: decodeFrom none rest := by
  have whole : Char.ofNat c.toNat = c := Char.ofNat_toNat c
  have range := toNat_cases c
  unfold encodeChar
  generalize c.toNat = n at whole range
  simp only
  split
  case isTrue one =>
    rw [List.singleton_append, decodeFrom_ascii one, whole]
  case isFalse notOne =>
  split
  case isTrue two =>
    simp only [List.cons_append, List.nil_append]
    rw [decodeFrom_lead (by omega) (by omega) (lead?_two (by omega) (by omega)),
      decodeFrom_last (by simp only; omega) (by simp only; omega) (by omega) rfl]
    have bits : (0xC0 + n / 64 - 0xC0) * 64 + (0x80 + n % 64) % 64 = n := by omega
    simp only [bits, whole]
  case isFalse notTwo =>
  split
  case isTrue three =>
    simp only [List.cons_append, List.nil_append]
    rw [decodeFrom_lead (by omega) (by omega) (lead?_three (by omega) (by omega)),
      decodeFrom_more (by simp only; split <;> omega) (by simp only; split <;> omega) (by omega)
        (by simp only; omega),
      decodeFrom_last (by simp only; omega) (by simp only; omega) (by omega) rfl]
    have bits : ((0xE0 + n / 4096 - 0xE0) * 64 + (0x80 + n / 64 % 64) % 64) * 64 +
        (0x80 + n % 64) % 64 = n := by omega
    simp only [bits, whole]
  case isFalse notThree =>
    simp only [List.cons_append, List.nil_append]
    rw [decodeFrom_lead (by omega) (by omega) (lead?_four (by omega) (by omega)),
      decodeFrom_more (by simp only; split <;> omega) (by simp only; split <;> omega) (by omega)
        (by simp only; omega),
      decodeFrom_more (by simp only; omega) (by simp only; omega) (by omega) (by simp only; omega),
      decodeFrom_last (by simp only; omega) (by simp only; omega) (by omega) rfl]
    have bits : (((0xF0 + n / 262144 - 0xF0) * 64 + (0x80 + n / 4096 % 64) % 64) * 64 +
        (0x80 + n / 64 % 64) % 64) * 64 + (0x80 + n % 64) % 64 = n := by omega
    simp only [bits, whole]

theorem decode_encode (s : Text) : decode (encode s) = s.map some := by
  unfold decode encode
  induction s with
  | nil => rfl
  | cons c rest ih =>
    rw [List.flatMap_cons, decodeFrom_encodeChar, ih, List.map_cons]

theorem decode?_encode (s : Text) : decode? (encode s) = some s := by
  unfold decode?
  rw [decode_encode]
  induction s with
  | nil => rfl
  | cons c rest ih => simp [List.mapM_cons, ih]

theorem encode_injective {s t : Text} (same : encode s = encode t) : s = t := by
  have read := decode?_encode s
  rw [same, decode?_encode, Option.some.injEq] at read
  exact read.symm

theorem cons_byte_lt {m n : Nat} (small : m < 256) (small' : n < 256) (s t : Bytes) :
    byte m :: s < byte n :: t ↔ m < n ∨ m = n ∧ s < t := by
  rw [List.cons_lt_cons_iff, UInt8.lt_iff_toNat_lt, ← UInt8.toNat_inj, toNat_byte small,
    toNat_byte small']

theorem encodeChar_append_lt {c d : Char} (earlier : c < d) (s t : Bytes) :
    encodeChar c ++ s < encodeChar d ++ t := by
  have numbers : c.toNat < d.toNat := earlier
  have low := toNat_cases c
  have high := toNat_cases d
  unfold encodeChar
  generalize c.toNat = m at numbers low
  generalize d.toNat = n at numbers high
  dsimp only
  split_ifs <;> simp (disch := omega) only [List.cons_append, List.nil_append, cons_byte_lt] <;> omega

theorem encodeChar_ne_nil (c : Char) : encodeChar c ≠ [] := by
  unfold encodeChar
  dsimp only
  split_ifs <;> exact List.cons_ne_nil _ _

theorem encode_lt {s t : Text} (earlier : s < t) : encode s < encode t := by
  induction s generalizing t with
  | nil =>
    cases t with
    | nil => contradiction
    | cons d rest =>
      obtain ⟨first, more, bytes⟩ := List.exists_cons_of_ne_nil (encodeChar_ne_nil d)
      rw [encode, encode, List.flatMap_cons, bytes]
      exact List.nil_lt_cons _ _
  | cons c s ih =>
    cases t with
    | nil => contradiction
    | cons d t =>
      rcases List.cons_lt_cons_iff.mp earlier with before | ⟨rfl, later⟩
      · exact encodeChar_append_lt before _ _
      · exact List.append_left_lt (ih later)

/-- UTF-8 keeps the order of texts. -/
theorem encode_lt_iff {s t : Text} : encode s < encode t ↔ s < t := by
  refine ⟨fun earlier => ?_, encode_lt⟩
  by_contra notBefore
  by_cases behind : t < s
  case pos => exact List.lt_asymm earlier (encode_lt behind)
  case neg =>
    have same : s = t := List.le_antisymm behind notBefore
    exact List.lt_irrefl _ (same ▸ earlier)

theorem length_encodeChar (c : Char) : (encodeChar c).length = c.utf8Size := by
  have size : c.utf8Size = if c.toNat ≤ 127 then 1 else if c.toNat ≤ 2047 then 2
      else if c.toNat ≤ 65535 then 3 else 4 := rfl
  rw [size]
  unfold encodeChar
  dsimp only
  split_ifs <;> first | rfl | omega

theorem length_encode (s : Text) : (encode s).length = Text.byteLength s := by
  induction s with
  | nil => rfl
  | cons c rest ih =>
    rw [Text.byteLength_cons, ← ih, ← length_encodeChar, ← List.length_append]
    rfl

end Utf8
end ModuleDocs
