import ModuleDocs.Proofs.Text.Utf8
import ModuleDocs.Remote.GitHub

namespace ModuleDocs

namespace Web.Base64

def symbolByte (n : Nat) : UInt8 := Utf8.byte (symbol n).toNat

theorem encodeChar_symbol : ∀ n < 64, Utf8.encodeChar (symbol n) = [symbolByte n] := by decide

theorem isWhite_symbol : ∀ n < 64, isWhite (symbol n) = false := by decide

theorem value?_symbolByte : ∀ n < 64, value? (symbolByte n) = some n := by decide

theorem symbolByte_ne_pad : ∀ n < 64, symbolByte n ≠ pad := by decide

theorem encode_symbol_cons {n : Nat} (small : n < 64) (s : Text) :
    Utf8.encode (symbol n :: s) = symbolByte n :: Utf8.encode s := by
  rw [Utf8.encode, List.flatMap_cons, encodeChar_symbol n small]
  rfl

theorem encode_pad_cons (s : Text) : Utf8.encode ('=' :: s) = pad :: Utf8.encode s := rfl

theorem lastGroup_symbols (offset i : Nat) (values : List Nat) {vs : List Nat}
    (small : ∀ v ∈ vs, v < 64) (rest : Bytes) :
    lastGroup offset i values none (vs.map symbolByte ++ rest) =
      lastGroup offset (i + vs.length) (values ++ vs) none rest := by
  induction vs generalizing i values with
  | nil => rw [List.append_nil]; rfl
  | cons v more ih =>
    rw [List.forall_mem_cons] at small
    rw [List.map_cons, List.cons_append, lastGroup, if_neg (symbolByte_ne_pad v small.1)]
    simp only [value?_symbolByte v small.1]
    rw [ih _ _ small.2, List.append_assoc, List.length_cons]
    congr 1
    omega

theorem lastGroup_pads (offset first : Nat) (values : List Nat) (padding : Nat) {i : Nat}
    (behind : 2 ≤ i) :
    lastGroup offset i values (some first) (List.replicate padding pad) =
      .ok (values, i + padding - first) := by
  induction padding generalizing i with
  | zero => rfl
  | succ padding ih =>
    rw [List.replicate_succ, lastGroup, if_pos rfl, if_neg (Nat.not_lt.mpr behind)]
    exact (ih (Nat.le_succ_of_le behind)).trans (by rw [Nat.succ_add_eq_add_succ])

theorem lastGroup_group (offset : Nat) (vs : List Nat) (small : ∀ v ∈ vs, v < 64)
    (long : 2 ≤ vs.length) (padding : Nat) :
    lastGroup offset 0 [] none (vs.map symbolByte ++ List.replicate padding pad) =
      .ok (vs, padding) := by
  rw [lastGroup_symbols offset 0 [] small, List.nil_append, Nat.zero_add]
  cases padding with
  | zero => rfl
  | succ padding =>
    rw [List.replicate_succ, lastGroup, if_pos rfl, if_neg (Nat.not_lt.mpr long)]
    have counted : vs.length + 1 + padding - vs.length = padding + 1 := by omega
    exact (lastGroup_pads offset _ vs padding (Nat.le_succ_of_le long)).trans (by rw [← counted]; rfl)

section

variable {w x y z : Nat} (hw : w < 64) (hx : x < 64) (hy : y < 64) (hz : z < 64) (offset : Nat)
include hw hx

theorem decodeLast_two (loose : x % 16 = 0) :
    decodeLast offset [symbolByte w, symbolByte x, pad, pad] =
      .ok [UInt8.ofNat (w * 4 + x / 16)] := by
  have group := lastGroup_group offset [w, x] (by simp [hw, hx]) (Nat.le_refl 2) 2
  simp only [List.map_cons, List.map_nil, List.cons_append, List.nil_append, List.replicate] at group
  simp [decodeLast, group, loose]

include hy

theorem decodeLast_three (loose : y % 4 = 0) :
    decodeLast offset [symbolByte w, symbolByte x, symbolByte y, pad] =
      .ok [UInt8.ofNat (w * 4 + x / 16), UInt8.ofNat (x % 16 * 16 + y / 4)] := by
  have group := lastGroup_group offset [w, x, y] (by simp [hw, hx, hy]) (Nat.le_succ 2) 1
  simp only [List.map_cons, List.map_nil, List.cons_append, List.nil_append, List.replicate] at group
  simp [decodeLast, group, loose]

include hz

theorem decodeLast_four :
    decodeLast offset [symbolByte w, symbolByte x, symbolByte y, symbolByte z] =
      .ok [UInt8.ofNat (w * 4 + x / 16), UInt8.ofNat (x % 16 * 16 + y / 4),
        UInt8.ofNat (y % 4 * 64 + z)] := by
  have group := lastGroup_group offset [w, x, y, z] (by simp [hw, hx, hy, hz])
    (Nat.le_add_left 2 2) 0
  simp only [List.map_cons, List.map_nil, List.cons_append, List.nil_append, List.replicate] at group
  simp [decodeLast, group]

theorem decodeFrom_four (rest : Bytes) :
    decodeFrom offset (symbolByte w :: symbolByte x :: symbolByte y :: symbolByte z :: rest) =
      (decodeFrom (offset + 4) rest).map fun bytes =>
        UInt8.ofNat (w * 4 + x / 16) :: UInt8.ofNat (x % 16 * 16 + y / 4) ::
          UInt8.ofNat (y % 4 * 64 + z) :: bytes := by
  cases rest with
  | nil => exact decodeLast_four hw hx hy hz offset
  | cons b more =>
    rw [decodeFrom]
    simp only [List.isEmpty_cons, Bool.false_eq_true, if_false, value?_symbolByte w hw,
      value?_symbolByte x hx, value?_symbolByte y hy, value?_symbolByte z hz]

end

theorem decodeFrom_encode (bs : Bytes) (offset : Nat) :
    decodeFrom offset (Utf8.encode (encode bs)) = .ok bs := by
  -- group by group: the four numbers of six bits are those of the three bytes
  fun_induction encode bs generalizing offset with
  | case1 => rfl
  | case2 a n =>
    have ha := a.toNat_lt
    have n_eq : n = a.toNat * 16 := rfl
    rw [encode_symbol_cons (by omega), encode_symbol_cons (by omega), encode_pad_cons, encode_pad_cons]
    refine (decodeLast_two (by omega) (by omega) offset (by omega)).trans ?_
    have first : n / 64 * 4 + n % 64 / 16 = a.toNat := by omega
    rw [first, UInt8.ofNat_toNat]
  | case3 a b n =>
    have ha := a.toNat_lt
    have hb := b.toNat_lt
    have n_eq : n = (a.toNat * 256 + b.toNat) * 4 := rfl
    rw [encode_symbol_cons (by omega), encode_symbol_cons (by omega), encode_symbol_cons (by omega),
      encode_pad_cons]
    refine (decodeLast_three (by omega) (by omega) (by omega) offset (by omega)).trans ?_
    have first : n / 4096 * 4 + n / 64 % 64 / 16 = a.toNat := by omega
    have second : n / 64 % 64 % 16 * 16 + n % 64 / 4 = b.toNat := by omega
    rw [first, second, UInt8.ofNat_toNat, UInt8.ofNat_toNat]
  | case4 a b c rest n ih =>
    have ha := a.toNat_lt
    have hb := b.toNat_lt
    have hc := c.toNat_lt
    have n_eq : n = (a.toNat * 256 + b.toNat) * 256 + c.toNat := rfl
    rw [encode_symbol_cons (by omega), encode_symbol_cons (by omega), encode_symbol_cons (by omega),
      encode_symbol_cons (by omega), decodeFrom_four (by omega) (by omega) (by omega) (by omega), ih]
    have first : n / 262144 * 4 + n / 4096 % 64 / 16 = a.toNat := by omega
    have second : n / 4096 % 64 % 16 * 16 + n / 64 % 64 / 4 = b.toNat := by omega
    have third : n / 64 % 64 % 4 * 64 + n % 64 = c.toNat := by omega
    rw [first, second, third, UInt8.ofNat_toNat, UInt8.ofNat_toNat, UInt8.ofNat_toNat]
    rfl

theorem forall_mem_encode (p : Char → Prop) (padded : p '=') (each : ∀ n < 64, p (symbol n))
    (bs : Bytes) : ∀ c ∈ encode bs, p c := by
  fun_induction encode bs with
  | case1 => exact List.forall_mem_nil p
  | case2 a n =>
    have ha := a.toNat_lt
    have n_eq : n = a.toNat * 16 := rfl
    simp only [List.forall_mem_cons]
    exact ⟨each _ (by omega), each _ (by omega), padded, padded, List.forall_mem_nil p⟩
  | case3 a b n =>
    have ha := a.toNat_lt
    have hb := b.toNat_lt
    have n_eq : n = (a.toNat * 256 + b.toNat) * 4 := rfl
    simp only [List.forall_mem_cons]
    exact ⟨each _ (by omega), each _ (by omega), each _ (by omega), padded, List.forall_mem_nil p⟩
  | case4 a b c rest n ih =>
    have ha := a.toNat_lt
    have hb := b.toNat_lt
    have hc := c.toNat_lt
    have n_eq : n = (a.toNat * 256 + b.toNat) * 256 + c.toNat := rfl
    simp only [List.forall_mem_cons]
    exact ⟨each _ (by omega), each _ (by omega), each _ (by omega), each _ (by omega), ih⟩

theorem isWhite_of_mem_encode (bs : Bytes) : ∀ c ∈ encode bs, isWhite c = false :=
  forall_mem_encode (isWhite · = false) (by decide) isWhite_symbol bs

theorem length_encode_mod (bs : Bytes) : (encode bs).length % 4 = 0 := by
  fun_induction encode bs with
  | case1 => rfl
  | case2 => simp
  | case3 => simp
  | case4 a b c rest n ih =>
    simp only [List.length_cons]
    omega

theorem decode_encode (bs : Bytes) : decode (Utf8.encode (encode bs)) = .ok bs := by
  have single : ∀ c ∈ encode bs, c.utf8Size = 1 := forall_mem_encode (·.utf8Size = 1) rfl (by decide) bs
  have groups : (Utf8.encode (encode bs)).length % 4 = 0 := by
    rw [Utf8.length_encode, Text.byteLength_of_single single, length_encode_mod]
  have whole := decodeFrom_encode bs 0
  unfold decode
  split
  case h_1 b _ =>
    rw [if_neg fun bad => by rw [groups] at bad; exact absurd bad.1 (by decide), whole]
  case h_2 none =>
    rw [List.getLast?_eq_none_iff.mp none] at whole
    exact whole

end Web.Base64

namespace Utf8

theorem decodeLossy_encode (s : Text) : decodeLossy (encode s) = s := by
  rw [decodeLossy, decode_encode, List.map_map]
  exact List.map_id s

end Utf8

namespace Remote
open Web

/-- White space may stand anywhere among the characters of a text. -/
inductive Spaced : Text → Text → Prop where
  | nil : Spaced [] []
  | keep (c : Char) {s shown : Text} : Spaced s shown → Spaced (c :: s) (c :: shown)
  | white {c : Char} {s shown : Text} : isWhite c = true → Spaced s shown → Spaced s (c :: shown)

theorem Spaced.filter_eq {s shown : Text} (h : Spaced s shown) (dark : ∀ c ∈ s, isWhite c = false) :
    shown.filter (fun c => !isWhite c) = s := by
  induction h with
  | nil => rfl
  | keep c _ ih =>
    rw [List.forall_mem_cons] at dark
    rw [List.filter_cons_of_pos (by simp [dark.1]), ih dark.2]
  | white white _ ih => rw [List.filter_cons_of_neg (by simp [white]), ih dark]

theorem spaced_filter (shown : Text) : Spaced (shown.filter fun c => !isWhite c) shown := by
  induction shown with
  | nil => exact .nil
  | cons c rest ih =>
    cases white : isWhite c with
    | true => rw [List.filter_cons_of_neg (by simp [white])]; exact .white white ih
    | false => rw [List.filter_cons_of_pos (by simp [white])]; exact .keep c ih

/-- The text whose bytes were encoded is read, wherever white space was put among the symbols. -/
theorem text_of_spaced {s content : Text} (spaced : Spaced (Base64.encode (Utf8.encode s)) content) :
    GitHub.Payload.text ⟨content, some "base64"⟩ = .ok s := by
  have symbols := spaced.filter_eq (Base64.isWhite_of_mem_encode (Utf8.encode s))
  simp only [GitHub.Payload.text, if_true, symbols, Base64.decode_encode, Utf8.decodeLossy_encode]

theorem text_of_spaced_title :
    let s : Text := "# Tïtles\n"
    let content : Text := "IyBUw\r\n690b\u3000GVzCg=\n="
    Spaced (Base64.encode (Utf8.encode s)) content ∧
    GitHub.Payload.text ⟨content, some "base64"⟩ = .ok s := by
  intro s content
  have symbols : Base64.encode (Utf8.encode s) = content.filter fun c => !isWhite c := by decide
  have spaced : Spaced (Base64.encode (Utf8.encode s)) content := symbols ▸ spaced_filter content
  exact ⟨spaced, text_of_spaced spaced⟩

end Remote
end ModuleDocs
