import ModuleDocs.Help.HelpObject
import ModuleDocs.Proofs.Keyed
import ModuleDocs.Proofs.Text.Digits
import ModuleDocs.Proofs.Text.Trim
import ModuleDocs.Proofs.Text.White

namespace ModuleDocs
open Text

namespace Number

def isNumberChar (c : Char) : Bool := c.isDigit || ['-', '+', '.', 'e'].contains c

theorem all_ofNat (n : Nat) : (Text.ofNat n).all isNumberChar = true := by
  rw [List.all_eq_true]
  intro c mem
  rw [isNumberChar, isDigit_of_mem_ofNat mem, Bool.true_or]

theorem all_sublist {s t : Text} (part : s.Sublist t) (all : t.all isNumberChar = true) :
    s.all isNumberChar = true :=
  List.all_eq_true.mpr fun c mem => List.all_eq_true.mp all c (part.subset mem)

theorem all_replicate_zero (n : Nat) : (List.replicate n '0').all isNumberChar = true :=
  List.all_eq_true.mpr fun c mem => by
    rw [List.eq_of_mem_replicate mem]
    decide

theorem all_decimalText (d : Decimal) : (decimalText d).all isNumberChar = true := by
  unfold decimalText
  extract_lets ds lead whole fraction sign body
  have digits : ds.all isNumberChar = true := all_ofNat d.digits
  have front (n : Nat) : (ds.take n).all isNumberChar = true :=
    all_sublist (List.take_sublist n ds) digits
  have back (n : Nat) : (ds.drop n).all isNumberChar = true :=
    all_sublist (List.drop_sublist n ds) digits
  have written : body.all isNumberChar = true := by
    unfold body
    split
    case isTrue => decide
    case isFalse =>
      split
      case isTrue =>
        split
        case isTrue =>
          rw [List.all_append, List.all_append, all_replicate_zero, Bool.and_eq_true]
          exact ⟨by decide, digits⟩
        case isFalse =>
          have tail : (if fraction.isEmpty then ['0'] else fraction).all isNumberChar = true := by
            split
            case isTrue => decide
            case isFalse => exact back _
          rw [List.all_append, List.all_append, List.all_append, all_replicate_zero, tail,
            show whole.all isNumberChar = true from front _]
          decide
      case isFalse =>
        have tail : (if ds.length ≤ 1 then [] else '.' :: ds.drop 1).all isNumberChar = true := by
          split
          case isTrue => rfl
          case isFalse =>
            rw [List.all_cons, back]
            decide
        have signed : isNumberChar sign = true := by
          unfold sign
          split <;> decide
        rw [List.all_append, List.all_append, List.all_append, front, tail, all_ofNat, List.all_cons,
          List.all_cons, signed]
        decide
  cases d.negative with
  | false => exact written
  | true =>
    rw [if_pos rfl, List.all_cons, written]
    decide

theorem decimalText_ne_nil (d : Decimal) : decimalText d ≠ [] := by
  unfold decimalText
  extract_lets ds lead whole fraction sign body
  have written : body ≠ [] := by
    unfold body
    split
    case isTrue => decide
    case isFalse =>
      split
      case isTrue => split <;> simp
      case isFalse => simp
  cases d.negative with
  | false => exact written
  | true => exact List.cons_ne_nil _ _

theorem solid_toText (n : Number) : Solid n.toText := by
  have dark : ∀ s : Text, s.all isNumberChar = true → ∀ c ∈ s, isWhite c = false := by
    intro s all c mem
    have written := List.all_eq_true.mp all c mem
    rw [isNumberChar, Bool.or_eq_true] at written
    rcases written with digit | sign
    · exact isWhite_of_isDigit digit
    · have signs : ['-', '+', '.', 'e'].all (fun c => !isWhite c) = true := by decide
      simpa using List.all_eq_true.mp signs c (List.contains_iff_mem.mp sign)
  cases n with
  | int n =>
    rw [toText]
    split
    case isTrue =>
      refine solid_of_forall (List.cons_ne_nil _ _) (dark _ ?_)
      rw [List.all_cons, all_ofNat]
      decide
    case isFalse => exact solid_of_forall (ofNat_ne_nil _) (dark _ (all_ofNat _))
  | real d => exact solid_of_forall (decimalText_ne_nil d) (dark _ (all_decimalText d))

end Number

namespace Help

theorem mem_of_findMember {α : Type} {members : List (Text × α)} {key : Text} {v : α}
    (found : findMember members key = some v) : ∃ k, (k, v) ∈ members := by
  rcases Option.or_eq_some_iff.mp found with exact | ⟨-, other⟩
  · exact ⟨key, Keyed.mem_of_lookup exact⟩
  · obtain ⟨m, here, rfl⟩ := Option.map_eq_some_iff.mp other
    exact ⟨m.1, List.mem_of_find?_eq_some here⟩

theorem nonEmpty_eq_some {s t : Text} (some : nonEmpty s = some t) : t = s ∧ s ≠ [] := by
  rw [nonEmpty, Option.ite_none_left_eq_some, List.isEmpty_iff] at some
  exact ⟨(Option.some.inj some.2).symm, some.1⟩

mutual

theorem solid_textOf (j : Json) {t : Text} (text : textOf j = some t) : Solid t := by
  match j with
  | .null => simp [textOf] at text
  | .bool b =>
    rw [textOf] at text
    cases text
    cases b <;> exact solid_of_all (by decide) (by decide)
  | .num n =>
    rw [textOf] at text
    cases text
    exact n.solid_toText
  | .str s =>
    rw [textOf] at text
    obtain ⟨rfl, some⟩ := nonEmpty_eq_some text
    exact solid_trim some
  | .arr items =>
    rw [textOf] at text
    obtain ⟨rfl, some⟩ := nonEmpty_eq_some text
    refine solid_intercalate _ ?_ fun t mem => solid_of_mem_textsOf items mem
    intro none
    rw [none] at some
    exact some rfl
  | .obj members =>
    rw [textOf] at text
    obtain ⟨key, -, found⟩ := List.exists_of_findSome?_eq_some text
    obtain ⟨k, mem⟩ := mem_of_findMember (Option.join_eq_some_iff.mp found)
    exact solid_of_mem_memberTexts members mem

theorem solid_of_mem_textsOf (items : List Json) {t : Text} (mem : t ∈ textsOf items) : Solid t := by
  match items with
  | [] => simp [textsOf] at mem
  | j :: rest =>
    rw [textsOf, List.mem_append] at mem
    rcases mem with here | later
    · exact solid_textOf j (Option.mem_toList.mp here)
    · exact solid_of_mem_textsOf rest later

theorem solid_of_mem_memberTexts (members : List (Text × Json)) {k t : Text}
    (mem : (k, some t) ∈ memberTexts members) : Solid t := by
  match members with
  | [] => simp [memberTexts] at mem
  | (key, j) :: rest =>
    rw [memberTexts, List.mem_cons] at mem
    rcases mem with here | later
    · exact solid_textOf j (congrArg Prod.snd here).symm
    · exact solid_of_mem_memberTexts rest later

end

end Help
end ModuleDocs
