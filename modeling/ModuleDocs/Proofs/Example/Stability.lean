import ModuleDocs.Proofs.Example.Recognition
import ModuleDocs.Proofs.Text.Edges

/-! The code of an example, divided again, stays whole. A second division reads other lines than the
first: lines between are gone, blank ones at the ends too, and newlines have taken carriage returns.
No rule finds anything in them that the first division did not leave there as code. -/
namespace ModuleDocs.Example
open Text

theorem not_blank_of_prose {line : Text} (prose : looksLikeProse line = true) :
    isBlank line = false := by
  rw [← Bool.not_eq_true]
  intro blank
  simp [looksLikeProse, trim_eq_nil_iff.mpr blank] at prose

theorem not_prose_of_code {line : Text} (code : looksLikeCode line = true) :
    looksLikeProse line = false := by
  simp [looksLikeProse, isCodeMarker, code]

/-- A cut behind a line of code: the lines before it, the line, the lines up to the sentence at the
end, that sentence, and the blank lines behind it. -/
structure TailCut (ls : List Text) where
  front : List Text
  line : Text
  back : List Text
  last : Text
  gap : List Text
  split : ls = front ++ line :: back ++ last :: gap
  blank : ∀ l ∈ gap, isBlank l = true
  prose : looksLikeProse last = true
  code : looksLikeCode line = true
  balanced : (Nesting.ofExample (front ++ [line])).isBalanced = true

def TailCut.answer {ls : List Text} (cut : TailCut ls) : Segmented :=
  ⟨joinTrimmed (cut.front ++ [cut.line]), joinTrimmed (cut.back ++ [cut.last]),
    Strategy.narrativeTail.name⟩

theorem TailCut.mem_of_mem_code {ls : List Text} (cut : TailCut ls) {l : Text}
    (mem : l ∈ cut.front ++ [cut.line]) : l ∈ ls := by
  rw [cut.split]
  simp only [List.mem_append, List.mem_cons] at mem ⊢
  tauto

theorem dropEndWhile_blank {front gap : List Text} {last : Text} (text : isBlank last = false)
    (blank : ∀ l ∈ gap, isBlank l = true) :
    dropEndWhile isBlank (front ++ last :: gap) = front ++ [last] := by
  rw [← List.singleton_append, ← List.append_assoc, dropEndWhile_append blank,
    dropEndWhile_eq_rdropWhile, List.rdropWhile_concat_neg _ _ _ (by simp [text])]

theorem endsStatement_append (front : List Text) (line : Text) (rest : List Text) :
    endsStatement (front ++ line :: rest) front.length =
      (looksLikeCode line && (Nesting.ofExample (front ++ [line])).isBalanced) := by
  have taken : (front ++ line :: rest).take (front.length + 1) = front ++ [line] := by
    rw [List.take_append, List.take_of_length_le (by omega)]
    simp
  rw [endsStatement, taken]
  simp

theorem exists_tailCut {ls : List Text} {r : Segmented} (found : splitAtTail ls = some r) :
    ∃ cut : TailCut ls, r = cut.answer := by
  simp only [splitAtTail, Option.bind_eq_bind, Option.bind_eq_some_iff, guard,
    Option.pure_def, Option.some.injEq] at found
  obtain ⟨last, ends, _, guarded, boundary, scanned, _, _, rfl⟩ := found
  obtain ⟨prose, -⟩ := Option.ite_none_right_eq_some.mp guarded
  obtain ⟨gap, whole, blank⟩ := exists_dropEndWhile_blank ls
  have statement := List.find?_some scanned
  have within := List.mem_range.mp (List.mem_reverse.mp (List.mem_of_find?_eq_some scanned))
  obtain ⟨init, body⟩ := List.getLast?_eq_some_iff.mp ends
  rw [body] at statement within whole ⊢
  rw [List.length_append, List.length_singleton, Nat.add_sub_cancel] at within
  obtain ⟨front, line, back, rfl, rfl⟩ :
      ∃ front line back, init = front ++ line :: back ∧ boundary = front.length := by
    refine ⟨init.take boundary, init[boundary], init.drop (boundary + 1), ?_, ?_⟩
    · rw [← List.drop_eq_getElem_cons within, List.take_append_drop]
    · rw [List.length_take, Nat.min_eq_left (Nat.le_of_lt within)]
  rw [List.append_assoc, List.cons_append] at statement ⊢
  rw [endsStatement_append, Bool.and_eq_true] at statement
  refine ⟨⟨front, line, back, last, gap, ?_, blank, prose, statement.1, statement.2⟩, ?_⟩
  · rw [whole, List.append_assoc, List.singleton_append]
  · have cut : front ++ line :: (back ++ [last]) = (front ++ [line]) ++ (back ++ [last]) := by simp
    have length : front.length + 1 = (front ++ [line]).length := by simp
    rw [TailCut.answer, cut, length, List.take_left, List.drop_left]

theorem TailCut.splitAtTail_ne_none {ls : List Text} (cut : TailCut ls) : splitAtTail ls ≠ none := by
  obtain ⟨front, line, back, last, gap, rfl, blank, prose, code, balanced⟩ := cut
  have text := not_blank_of_prose prose
  have body : dropEndWhile isBlank (front ++ line :: back ++ last :: gap) =
      front ++ line :: back ++ [last] := dropEndWhile_blank text blank
  have scan : ((List.range ((front ++ line :: back ++ [last]).length - 1)).reverse.find?
      (endsStatement (front ++ line :: back ++ [last]))).isSome = true := by
    rw [List.find?_isSome]
    refine ⟨front.length, by simp, ?_⟩
    rw [List.append_assoc, List.cons_append, endsStatement_append, code, balanced]
    rfl
  obtain ⟨boundary, scanned⟩ := Option.isSome_iff_exists.mp scan
  have within : boundary < (front ++ line :: back).length := by
    simpa using List.mem_of_find?_eq_some scanned
  have remarks : joinTrimmed ((front ++ line :: back ++ [last]).drop (boundary + 1)) ≠ [] := by
    refine joinTrimmed_ne_nil last ?_ text
    rw [List.drop_append_of_le_length within]
    simp
  unfold splitAtTail
  simp only [body, List.getLast?_concat, Option.bind_eq_bind, Option.bind_some, guard, prose, if_true,
    scanned, List.isEmpty_eq_false_iff.mpr remarks, Bool.not_false]
  exact Option.some_ne_none _

theorem dropReturns_unlines {ls : List Text} {last : Text} (plain : ∀ l ∈ ls, '\n' ∉ l)
    (ends : '\n' ∉ last) :
    dropReturns (unlines (ls ++ [last])) = unlines (ls.map endedLine ++ [last]) := by
  induction ls with
  | nil =>
    rw [List.map_nil, List.nil_append, unlines_singleton]
    exact dropReturns_of_notMem ends
  | cons l rest ih =>
    rw [List.forall_mem_cons] at plain
    rw [unlines_append_singleton_cons, dropReturns_append_newline plain.1, ih plain.2, List.map_cons,
      unlines_append_singleton_cons]

def reread (ls : List Text) : List Text := (dropReturns (joinTrimmed ls)).lines

variable {ls : List Text} (plain : ∀ l ∈ ls, '\n' ∉ l)

include plain

theorem reread_eq : reread ls =
    ((kept ls).dropLast.map fun l => endedLine (endedLine l)) ++ (kept ls).getLast?.toList := by
  have edged := edged_kept ls
  have inner : ∀ l ∈ kept ls, '\n' ∉ l := fun l mem => plain l (mem_of_mem_kept mem)
  rw [reread, joinTrimmed_eq]
  generalize kept ls = ks at edged inner
  rcases List.eq_nil_or_concat' ks with rfl | ⟨init, last, rfl⟩
  · rfl
  · have front : ∀ l ∈ init, '\n' ∉ l := fun l mem => inner l (List.mem_append_left _ mem)
    have ends : '\n' ∉ last := inner last (by simp)
    have text : last ≠ [] := by
      rintro rfl
      exact absurd (edged.last [] (by simp)) (by decide)
    have ended : ∀ l ∈ init.map endedLine, '\n' ∉ l := by
      intro l mem
      obtain ⟨k, there, rfl⟩ := List.mem_map.mp mem
      exact newline_notMem_endedLine (front k there)
    rw [dropReturns_unlines front ends, Text.lines_unlines ended ends text, List.map_map]
    simp

theorem map_bare_reread : (reread ls).map bare = (kept ls).map bare := by
  rw [reread_eq plain]
  rcases List.eq_nil_or_concat' (kept ls) with none | ⟨init, last, split⟩
  · rw [none]
    rfl
  · simp [split, bare_endedLine]

theorem edged_reread : Edged (reread ls) :=
  (edged_kept ls).congr (map_of_map_bare _ isBlank_return (map_bare_reread plain))

theorem bareBreaks_reread : bareBreaks (joinTrimmed (reread ls)) = bareBreaks (joinTrimmed ls) := by
  have inner : ∀ l ∈ kept ls, '\n' ∉ l := fun l mem => plain l (mem_of_mem_kept mem)
  rw [joinTrimmed_eq, (edged_reread plain).kept_eq, joinTrimmed_eq, reread_eq plain]
  generalize kept ls = ks at inner
  rcases List.eq_nil_or_concat' ks with rfl | ⟨init, last, rfl⟩
  · rfl
  · have front : ∀ l ∈ init, '\n' ∉ l := fun l mem => inner l (List.mem_append_left _ mem)
    have ends : '\n' ∉ last := inner last (by simp)
    have ended : ∀ l ∈ init.map fun l => endedLine (endedLine l), '\n' ∉ l := by
      intro l mem
      obtain ⟨k, there, rfl⟩ := List.mem_map.mp mem
      exact newline_notMem_endedLine (newline_notMem_endedLine (front k there))
    rw [List.dropLast_concat, List.getLast?_concat, Option.toList_some,
      bareBreaks_unlines ended ends, bareBreaks_unlines front ends, List.map_map]
    congr 3
    exact funext fun l => (bare_endedLine _).trans (bare_endedLine l)

theorem mem_reread (read : Text → Bool) (ended : ∀ l, read (l ++ ['\r']) = read l)
    (each : ∀ l ∈ ls, read l = true) : ∀ l ∈ reread ls, read l = true := by
  have same := map_of_map_bare _ ended (map_bare_reread plain)
  intro l mem
  have inside : read l ∈ (kept ls).map read := same ▸ List.mem_map_of_mem mem
  obtain ⟨k, mem, value⟩ := List.mem_map.mp inside
  rw [← value, each k (mem_of_mem_kept mem)]

omit plain

theorem TailCut.of_map_bare {ms : List Text} (cut : TailCut ms) (same : ls.map bare = ms.map bare) :
    Nonempty (TailCut ls) := by
  obtain ⟨front, line, back, last, gap, rfl, blank, prose, code, balanced⟩ := cut
  rw [List.append_assoc, List.map_append, List.cons_append, List.map_cons, List.map_append,
    List.map_cons] at same
  obtain ⟨front', rest, rfl, sameFront, sameRest⟩ := List.map_eq_append_iff.mp same
  obtain ⟨line', rest, rfl, sameLine, sameRest⟩ := List.map_eq_cons_iff.mp sameRest
  obtain ⟨back', rest, rfl, -, sameRest⟩ := List.map_eq_append_iff.mp sameRest
  obtain ⟨last', gap', rfl, sameLast, sameGap⟩ := List.map_eq_cons_iff.mp sameRest
  refine ⟨⟨front', line', back', last', gap', by simp, ?_, ?_, ?_, ?_⟩⟩
  · intro l mem
    have inside := List.mem_map_of_mem (f := isBlank) mem
    rw [map_of_map_bare _ isBlank_return sameGap] at inside
    obtain ⟨k, there, value⟩ := List.mem_map.mp inside
    rw [← value, blank k there]
  · rw [← read_bare looksLikeProse_return, sameLast, read_bare looksLikeProse_return, prose]
  · rw [← read_bare looksLikeCode_return, sameLine, read_bare looksLikeCode_return, code]
  · have sameFront : (front' ++ [line']).map bare = (front ++ [line]).map bare := by
      rw [List.map_append, List.map_append, sameFront, List.map_singleton, sameLine,
        List.map_singleton]
    rw [ofExample_of_map_bare sameFront, balanced]

theorem TailCut.of_kept (cut : TailCut (kept ls)) : Nonempty (TailCut ls) := by
  obtain ⟨lead, behind, split, before, after⟩ := exists_kept ls
  obtain ⟨front, line, back, last, gap, inner, blank, prose, code, balanced⟩ := cut
  refine ⟨⟨lead ++ front, line, back, last, gap ++ behind, ?_, ?_, prose, code, ?_⟩⟩
  · rw [split, inner]
    simp
  · exact List.forall_mem_append.mpr ⟨blank, after⟩
  · rw [List.append_assoc, ofExample_append_blank before, balanced]

theorem TailCut.getLast? (cut : TailCut ls) (edged : Edged ls) : ls.getLast? = some cut.last := by
  obtain ⟨front, line, back, last, gap, rfl, blank, prose, code, balanced⟩ := cut
  rcases List.eq_nil_or_concat' gap with rfl | ⟨init, l, rfl⟩
  · exact List.getLast?_concat
  · have ends : front ++ line :: back ++ last :: (init ++ [l]) =
        (front ++ line :: back ++ last :: init) ++ [l] := by simp
    have text := edged.last l (by rw [ends, List.getLast?_concat]; rfl)
    rw [blank l (by simp)] at text
    contradiction

/-- Divided by the chain, the text is all code. -/
def StaysWhole (chain : List Strategy) (code : Text) : Prop :=
  (classify chain code).remarks = [] ∧ bareBreaks (classify chain code).code = bareBreaks code

theorem staysWhole_nil (chain : List Strategy) : StaysWhole chain [] := ⟨rfl, rfl⟩

include plain

theorem staysWhole_joinTrimmed {chain : List Strategy} (mode : Text)
    (whole : (chain.findSome? (Strategy.segment (reread ls))).getD (wholeBlock (reread ls)) =
      ⟨joinTrimmed (reread ls), [], mode⟩) : StaysWhole chain (joinTrimmed ls) := by
  cases blank : isBlank (joinTrimmed ls) with
  | true =>
    have nothing := (content_eq_nil_iff _).mpr blank
    rw [content_joinTrimmed plain, List.map_eq_nil_iff, List.filter_eq_nil_iff] at nothing
    have empty : joinTrimmed ls = [] :=
      (joinTrimmed_eq_nil_iff plain).mpr fun l mem => by simpa using nothing l mem
    rw [empty]
    exact staysWhole_nil chain
  | false =>
    have answer : classify chain (joinTrimmed ls) = ⟨joinTrimmed (reread ls), [], mode⟩ := by
      rw [← whole, classify, blank]
      rfl
    rw [StaysWhole, answer]
    exact ⟨rfl, bareBreaks_reread plain⟩

theorem staysWhole_marked {line : Text} (marked : ∀ l ∈ ls, isCodeMarker l = true) (mem : line ∈ ls)
    (prompt : isPrompt line = true) (rest : List Strategy) :
    StaysWhole (.promptPriority :: rest) (joinTrimmed ls) := by
  have again := mem_reread plain _ isCodeMarker_return marked
  have same := map_of_map_bare _ isPrompt_return (map_bare_reread plain)
  have prompts : (reread ls).any isPrompt = true := by
    have inside := List.mem_map_of_mem (f := isPrompt) (mem_kept mem (isPrompt_not_blank prompt))
    rw [← same, prompt] at inside
    obtain ⟨l, there, again⟩ := List.mem_map.mp inside
    exact List.any_eq_true.mpr ⟨l, there, again⟩
  refine staysWhole_joinTrimmed plain Strategy.promptPriority.name ?_
  have code : (reread ls).filter isCodeMarker = reread ls := List.filter_eq_self.mpr again
  have remarks : (reread ls).filter (fun l => !isCodeMarker l) = [] :=
    List.filter_eq_nil_iff.mpr fun l mem => by simp [again l mem]
  have answer : splitByPrompt (reread ls) =
      some ⟨joinTrimmed (reread ls), [], Strategy.promptPriority.name⟩ := by
    rw [splitByPrompt, if_pos prompts, code, remarks]
    rfl
  rw [List.findSome?_cons, Strategy.segment, answer]
  rfl

theorem staysWhole_unprompted (unprompted : ∀ l ∈ ls, isPrompt l = false) :
    StaysWhole defaultChain (joinTrimmed ls) ∧
      (splitAtTail (reread ls) = none → StaysWhole strictChain (joinTrimmed ls)) := by
  have again := mem_reread plain (fun l => !isPrompt l)
    (fun l => by rw [isPrompt_return]) (fun l mem => by simp [unprompted l mem])
  have prompts : splitByPrompt (reread ls) = none := by
    rw [splitByPrompt, if_neg]
    simpa using again
  constructor
  · refine staysWhole_joinTrimmed plain Strategy.wholeBlock.name ?_
    simp [defaultChain, Strategy.segment, prompts, wholeBlock]
  · intro tail
    refine staysWhole_joinTrimmed plain Strategy.wholeBlock.name ?_
    simp [strictChain, Strategy.segment, prompts, tail, wholeBlock]

theorem splitAtTail_reread (noTail : splitAtTail ls = none) : splitAtTail (reread ls) = none := by
  rw [Option.eq_none_iff_forall_ne_some]
  intro r found
  obtain ⟨cut, -⟩ := exists_tailCut found
  obtain ⟨inner⟩ := cut.of_map_bare (map_bare_reread plain).symm
  obtain ⟨outer⟩ := inner.of_kept
  exact outer.splitAtTail_ne_none noTail

theorem splitAtTail_reread_code {front : List Text} {line : Text} (ends : ls = front ++ [line])
    (code : looksLikeCode line = true) : splitAtTail (reread ls) = none := by
  rw [Option.eq_none_iff_forall_ne_some]
  intro r found
  obtain ⟨cut, -⟩ := exists_tailCut found
  have last := cut.getLast? (edged_reread plain)
  have same := congrArg List.getLast? (map_of_map_bare _ looksLikeProse_return (map_bare_reread plain))
  have stays := getLast?_kept front (looksLikeCode_not_blank code)
  rw [← ends] at stays
  rw [List.getLast?_map, last, List.getLast?_map, stays] at same
  have prose := Option.some.inj same
  rw [cut.prose, not_prose_of_code code] at prose
  contradiction

omit plain

theorem isPrompt_of_splitByPrompt {ls : List Text} (none : splitByPrompt ls = none) :
    ∀ l ∈ ls, isPrompt l = false := by
  unfold splitByPrompt at none
  split at none
  case isTrue => contradiction
  case isFalse absent => simpa using absent

theorem staysWhole_prompt {r : Segmented} (found : splitByPrompt ls = some r)
    (plain : ∀ l ∈ ls, '\n' ∉ l) (rest : List Strategy) :
    StaysWhole (.promptPriority :: rest) r.code := by
  unfold splitByPrompt at found
  rw [Option.ite_none_right_eq_some] at found
  obtain ⟨prompts, result⟩ := found
  cases Option.some.inj result
  obtain ⟨line, mem, prompt⟩ := List.any_eq_true.mp prompts
  have marked : isCodeMarker line = true := by simp [isCodeMarker, prompt]
  refine staysWhole_marked (fun l mem => plain l (List.mem_filter.mp mem).1)
    (fun l mem => (List.mem_filter.mp mem).2) (List.mem_filter.mpr ⟨mem, marked⟩) prompt rest

/-- Dividing the code of an example by the chain that found it leaves it whole, without remarks, under
the default and under the strict chain. Only carriage returns before newlines may go. -/
theorem classify_code_staysWhole (s : Text) :
    StaysWhole defaultChain (classify defaultChain s).code ∧
      StaysWhole strictChain (classify strictChain s).code := by
  unfold classify
  cases isBlank s with
  | true => exact ⟨staysWhole_nil _, staysWhole_nil _⟩
  | false =>
    have plain := newline_notMem_lines s
    simp only [Bool.false_eq_true, if_false, defaultChain, strictChain, List.findSome?_cons,
      Strategy.segment]
    generalize (dropReturns s).lines = ls at plain
    cases prompts : splitByPrompt ls with
    | some r => exact ⟨staysWhole_prompt prompts plain _, staysWhole_prompt prompts plain _⟩
    | none =>
      have unprompted := isPrompt_of_splitByPrompt prompts
      obtain ⟨whole, strict⟩ := staysWhole_unprompted plain unprompted
      refine ⟨whole, ?_⟩
      cases tail : splitAtTail ls with
      | none => exact strict (splitAtTail_reread plain tail)
      | some r =>
        obtain ⟨cut, rfl⟩ := exists_tailCut tail
        have inner : ∀ l ∈ cut.front ++ [cut.line], '\n' ∉ l := fun l mem =>
          plain l (cut.mem_of_mem_code mem)
        exact (staysWhole_unprompted inner fun l mem => unprompted l (cut.mem_of_mem_code mem)).2
          (splitAtTail_reread_code inner rfl cut.code)

/-- A line that ends in several carriage returns loses one each time it is read. -/
example : (classify defaultChain "a\r\r\r\nb").code = "a\r\nb".toList ∧
    (classify defaultChain "a\r\nb").code = "a\nb".toList := by decide

end ModuleDocs.Example
