import Mathlib.Data.List.Find
import Mathlib.Order.Bounds.Basic
import ModuleDocs.Proofs.Example.Stability

/-! The boundary between code and a narrative tail. The scan goes back from the last line with text, and
what it stops at is the last sound boundary: the greatest place before that line where a line of code
leaves nothing open. Behind it stands at least the sentence at the end, so the scan is never given up
for want of remarks. -/
namespace ModuleDocs.Example
open Text

/-- The line at a place is the last one that is not blank. -/
structure LastText (ls : List Text) (place : Nat) (line : Text) : Prop where
  here : ls[place]? = some line
  text : isBlank line = false
  behind : ∀ l ∈ ls.drop (place + 1), isBlank l = true

/-- Code may end behind a line before the last one: it looks like code, and no bracket, text or comment
is open after it. -/
structure SoundBoundary (ls : List Text) (last boundary : Nat) : Prop where
  before : boundary < last
  code : ∃ line, ls[boundary]? = some line ∧ looksLikeCode line = true
  balanced : (Nesting.ofExample (ls.take (boundary + 1))).isBalanced = true

/-- Where the scan stops, whatever stands behind. -/
def tailBoundary? (ls : List Text) : Option Nat := do
  let body := dropEndWhile isBlank ls
  let last ← body.getLast?
  guard (looksLikeProse last)
  (List.range (body.length - 1)).reverse.find? (endsStatement body)

def cutBehind (ls : List Text) (boundary : Nat) : Segmented :=
  ⟨joinTrimmed (ls.take (boundary + 1)), joinTrimmed (ls.drop (boundary + 1)),
    Strategy.narrativeTail.name⟩

section

variable {ls : List Text} {place : Nat} {line : Text}

theorem lastText_append (front : List Text) {gap : List Text} (text : isBlank line = false)
    (blank : ∀ l ∈ gap, isBlank l = true) : LastText (front ++ line :: gap) front.length line where
  here := by simp
  text := text
  behind l mem := by
    rw [← List.singleton_append, ← List.append_assoc, List.drop_left' (by simp)] at mem
    exact blank l mem

theorem exists_lastText (text : ∃ l ∈ ls, isBlank l = false) :
    ∃ place line, LastText ls place line := by
  obtain ⟨l, mem, solid⟩ := text
  obtain ⟨gap, split, blank⟩ := exists_dropEndWhile_blank ls
  rcases List.eq_nil_or_concat' (dropEndWhile isBlank ls) with none | ⟨front, line, body⟩
  · rw [none, List.nil_append] at split
    rw [blank l (split ▸ mem)] at solid
    contradiction
  · have stopped := List.rdropWhile_last_not isBlank ls (by
      rw [← dropEndWhile_eq_rdropWhile, body]
      simp)
    rw [body, List.append_assoc, List.singleton_append] at split
    rw [split]
    refine ⟨front.length, line, lastText_append front ?_ blank⟩
    simpa [← dropEndWhile_eq_rdropWhile, body] using stopped

variable (last : LastText ls place line)
include last

theorem LastText.split : ls = ls.take place ++ line :: ls.drop (place + 1) := by
  obtain ⟨inside, same⟩ := List.getElem?_eq_some_iff.mp last.here
  rw [← same, ← List.drop_eq_getElem_cons inside, List.take_append_drop]

theorem LastText.take_succ : ls.take (place + 1) = ls.take place ++ [line] := by
  rw [List.take_add_one, last.here]
  rfl

theorem LastText.dropEndWhile_eq : dropEndWhile isBlank ls = ls.take (place + 1) := by
  rw [last.take_succ, congrArg (dropEndWhile isBlank) last.split]
  exact dropEndWhile_blank last.text last.behind

theorem LastText.length_take : (ls.take (place + 1)).length = place + 1 := by
  obtain ⟨inside, -⟩ := List.getElem?_eq_some_iff.mp last.here
  rw [List.length_take]
  omega

omit last in
theorem endsStatement_take {boundary : Nat} (within : boundary < place) :
    endsStatement (ls.take (place + 1)) boundary = endsStatement ls boundary := by
  rw [endsStatement, endsStatement, List.getElem?_take_of_lt (by omega), List.take_take,
    Nat.min_eq_left (by omega)]

omit last in
theorem soundBoundary_iff {boundary : Nat} :
    SoundBoundary ls place boundary ↔ boundary < place ∧ endsStatement ls boundary = true := by
  rw [endsStatement, Bool.and_eq_true, Option.any_eq_true]
  constructor
  · exact fun h => ⟨h.before, h.code, h.balanced⟩
  · rintro ⟨before, code, balanced⟩
    exact ⟨before, code, balanced⟩

theorem LastText.tailBoundary?_eq : tailBoundary? ls =
    if looksLikeProse line then (List.range place).reverse.find? (endsStatement ls) else none := by
  have ends : (ls.take (place + 1)).getLast? = some line := by
    rw [last.take_succ, List.getLast?_concat]
  have scan : (List.range place).reverse.find? (endsStatement (ls.take (place + 1))) =
      (List.range place).reverse.find? (endsStatement ls) :=
    List.find?_congr fun boundary mem => endsStatement_take (by simpa using mem)
  unfold tailBoundary?
  simp only [last.dropEndWhile_eq, ends, last.length_take, Option.bind_eq_bind, Option.bind_some,
    Nat.add_sub_cancel, scan, guard]
  split
  case isTrue => rfl
  case isFalse => rfl

end

theorem find?_reverse_range {p : Nat → Bool} {n found : Nat} :
    (List.range n).reverse.find? p = some found ↔ IsGreatest {m | m < n ∧ p m = true} found := by
  induction n with
  | zero => simp [IsGreatest]
  | succ n ih =>
    rw [List.range_succ, List.reverse_append, List.reverse_singleton, List.singleton_append,
      List.find?_cons]
    -- the greatest candidate is tried first: either it is found, or it is no candidate
    cases hit : p n with
    | true =>
      constructor
      · intro same
        cases same
        exact ⟨⟨Nat.lt_succ_self _, hit⟩, fun m member => Nat.le_of_lt_succ member.1⟩
      · intro greatest
        have above : n ≤ found := greatest.2 ⟨Nat.lt_succ_self n, hit⟩
        exact congrArg some (Nat.le_antisymm above (Nat.le_of_lt_succ greatest.1.1))
    | false =>
      have same : {m | m < n + 1 ∧ p m = true} = {m | m < n ∧ p m = true} := by
        ext m
        constructor
        · rintro ⟨below, holds⟩
          have other : m ≠ n := fun same => by simp [same, hit] at holds
          exact ⟨by omega, holds⟩
        · rintro ⟨below, holds⟩
          exact ⟨by omega, holds⟩
      rw [same]
      exact ih

theorem LastText.tailBoundary?_eq_some {ls : List Text} {place : Nat} {line : Text}
    (last : LastText ls place line) {boundary : Nat} :
    tailBoundary? ls = some boundary ↔
      looksLikeProse line = true ∧ IsGreatest {b | SoundBoundary ls place b} boundary := by
  have sound : {b | SoundBoundary ls place b} = {b | b < place ∧ endsStatement ls b = true} :=
    Set.ext fun b => soundBoundary_iff
  rw [last.tailBoundary?_eq, sound, ← find?_reverse_range]
  split
  case isTrue prose => exact (and_iff_right prose).symm
  case isFalse prose => simp [prose]

theorem LastText.isSome_tailBoundary? {ls : List Text} {place : Nat} {line : Text}
    (last : LastText ls place line) :
    (tailBoundary? ls).isSome = true ↔
      looksLikeProse line = true ∧ ∃ boundary, SoundBoundary ls place boundary := by
  rw [last.tailBoundary?_eq]
  split
  case isTrue prose =>
    rw [and_iff_right prose, List.find?_isSome]
    refine exists_congr fun boundary => ?_
    rw [soundBoundary_iff, List.mem_reverse, List.mem_range]
  case isFalse prose => simp [prose]

theorem exists_lastText_of_tailBoundary? {ls : List Text} {boundary : Nat}
    (found : tailBoundary? ls = some boundary) : ∃ place line, LastText ls place line := by
  refine exists_lastText ?_
  by_contra none
  have empty : dropEndWhile isBlank ls = [] := by
    rw [dropEndWhile_eq_rdropWhile, List.rdropWhile_eq_nil_iff]
    simpa using none
  simp [tailBoundary?, empty] at found

section

variable {ls : List Text} {place : Nat} {line : Text} (last : LastText ls place line)
include last

theorem LastText.joinTrimmed_drop {boundary : Nat} (before : boundary < place) :
    joinTrimmed (ls.drop (boundary + 1)) =
      joinTrimmed ((ls.take (place + 1)).drop (boundary + 1)) := by
  have inside := last.length_take
  have split : ls.drop (boundary + 1) =
      (ls.take (place + 1)).drop (boundary + 1) ++ ls.drop (place + 1) := by
    rw [← List.drop_append_of_le_length (by omega), List.take_append_drop]
  -- what stands behind the last line with text is blank, and joining drops it
  rw [split, joinTrimmed_eq, kept_append_right last.behind, joinTrimmed_eq]

theorem LastText.exists_remarks {boundary : Nat} (before : boundary < place) :
    ∃ between, joinTrimmed (ls.drop (boundary + 1)) = unlines (between ++ [line]) := by
  have inside := last.length_take
  have ends : (ls.take (place + 1)).drop (boundary + 1) =
      (ls.take place).drop (boundary + 1) ++ [line] := by
    rw [last.take_succ, List.length_append, List.length_singleton] at inside
    rw [last.take_succ, List.drop_append_of_le_length (by omega)]
  have stays := getLast?_kept ((ls.take place).drop (boundary + 1)) last.text
  obtain ⟨between, kept⟩ := List.getLast?_eq_some_iff.mp stays
  exact ⟨between, by rw [last.joinTrimmed_drop before, ends, joinTrimmed_eq, kept]⟩

theorem LastText.remarks_ne_nil {boundary : Nat} (before : boundary < place) :
    joinTrimmed (ls.drop (boundary + 1)) ≠ [] := by
  refine joinTrimmed_ne_nil line ?_ last.text
  refine List.mem_of_getElem? (i := place - (boundary + 1)) ?_
  rw [List.getElem?_drop, Nat.add_sub_cancel' (by omega), last.here]

end

theorem SoundBoundary.code_ne_nil {ls : List Text} {place boundary : Nat}
    (sound : SoundBoundary ls place boundary) : joinTrimmed (ls.take (boundary + 1)) ≠ [] := by
  obtain ⟨line, here, code⟩ := sound.code
  refine joinTrimmed_ne_nil line ?_ (looksLikeCode_not_blank code)
  refine List.mem_of_getElem? (i := boundary) ?_
  rw [List.getElem?_take_of_lt (Nat.lt_succ_self boundary), here]

theorem splitAtTail_eq (ls : List Text) : splitAtTail ls = (tailBoundary? ls).map (cutBehind ls) := by
  have guarded : splitAtTail ls = (tailBoundary? ls).bind (fun boundary => do
      let body := dropEndWhile isBlank ls
      let remarks := joinTrimmed (body.drop (boundary + 1))
      guard (!remarks.isEmpty)
      pure ⟨joinTrimmed (body.take (boundary + 1)), remarks, Strategy.narrativeTail.name⟩) := by
    simp only [splitAtTail, tailBoundary?, Option.bind_eq_bind, Option.bind_assoc]
  rw [guarded]
  cases found : tailBoundary? ls with
  | none => rfl
  | some boundary =>
    obtain ⟨place, line, last⟩ := exists_lastText_of_tailBoundary? found
    have before : boundary < place := (last.tailBoundary?_eq_some.mp found).2.1.before
    -- the sentence at the end is one of the remarks, so the guard lets every boundary through
    have remarks := last.remarks_ne_nil before
    have code : (ls.take (place + 1)).take (boundary + 1) = ls.take (boundary + 1) := by
      rw [List.take_take, Nat.min_eq_left (by omega)]
    simp only [Option.bind_some, Option.map_some, last.dropEndWhile_eq, ← last.joinTrimmed_drop before,
      code, List.isEmpty_eq_false_iff.mpr remarks]
    rfl

/-- The tail is split off exactly if the last line with text reads like a sentence and there is a sound
boundary before it, and then at the last one. Neither part is empty, the remarks end with the
sentence, and no boundary that the scan stops at is given up. -/
theorem splitAtTail_at_last_boundary (ls : List Text) :
    ((splitAtTail ls).isSome = true ↔ ∃ last line, LastText ls last line ∧
      looksLikeProse line = true ∧ ∃ boundary, SoundBoundary ls last boundary) ∧
    (∀ r, splitAtTail ls = some r → ∃ last line boundary, LastText ls last line ∧
      looksLikeProse line = true ∧ IsGreatest {b | SoundBoundary ls last b} boundary ∧
      r.code = joinTrimmed (ls.take (boundary + 1)) ∧
      r.remarks = joinTrimmed (ls.drop (boundary + 1)) ∧
      r.code ≠ [] ∧ r.remarks ≠ [] ∧ ∃ between, r.remarks = unlines (between ++ [line])) ∧
    splitAtTail ls = (tailBoundary? ls).map (cutBehind ls) := by
  refine ⟨?_, fun r answer => ?_, splitAtTail_eq ls⟩
  · rw [splitAtTail_eq, Option.isSome_map]
    constructor
    · intro found
      obtain ⟨boundary, here⟩ := Option.isSome_iff_exists.mp found
      obtain ⟨place, line, last⟩ := exists_lastText_of_tailBoundary? here
      exact ⟨place, line, last, last.isSome_tailBoundary?.mp found⟩
    · rintro ⟨place, line, last, sound⟩
      exact last.isSome_tailBoundary?.mpr sound
  · rw [splitAtTail_eq, Option.map_eq_some_iff] at answer
    obtain ⟨boundary, found, rfl⟩ := answer
    obtain ⟨place, line, last⟩ := exists_lastText_of_tailBoundary? found
    obtain ⟨prose, greatest⟩ := last.tailBoundary?_eq_some.mp found
    have before := greatest.1.before
    exact ⟨place, line, boundary, last, prose, greatest, rfl, rfl, greatest.1.code_ne_nil,
      last.remarks_ne_nil before, last.exists_remarks before⟩

end ModuleDocs.Example
