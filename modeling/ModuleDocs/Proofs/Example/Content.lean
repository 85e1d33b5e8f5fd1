import ModuleDocs.Example.Segment
import ModuleDocs.Proofs.Text.Lines

/-! What the division of an example keeps: its content, the lines that are not blank without the
white space at their ends. Whatever strategies the chain has, no such line is lost, doubled or moved.
The rule that divided the example says which lines are the code. -/
namespace ModuleDocs.Example
open Text

/-- The lines that are not blank, as they stand in the text. -/
def solidLines (s : Text) : List Text := (dropReturns s).lines.filter (fun l => !isBlank l)

def content (s : Text) : List Text := (solidLines s).map trimEnd

/-- The third list is made of the first two, each in its order. -/
inductive Interleaved {α : Type} : List α → List α → List α → Prop where
  | nil : Interleaved [] [] []
  | left {xs ys zs : List α} (x : α) : Interleaved xs ys zs → Interleaved (x :: xs) ys (x :: zs)
  | right {xs ys zs : List α} (y : α) : Interleaved xs ys zs → Interleaved xs (y :: ys) (y :: zs)

theorem interleaved_filter {α : Type} (p : α → Bool) (xs : List α) :
    Interleaved (xs.filter p) (xs.filter fun x => !p x) xs := by
  induction xs with
  | nil => exact .nil
  | cons x rest ih =>
    cases chosen : p x with
    | true => simpa [List.filter_cons, chosen] using ih.left x
    | false => simpa [List.filter_cons, chosen] using ih.right x

theorem interleaved_append {α : Type} (xs ys : List α) : Interleaved xs ys (xs ++ ys) := by
  induction xs with
  | nil =>
    induction ys with
    | nil => exact .nil
    | cons y rest ih => exact ih.right y
  | cons x rest ih => exact ih.left x

theorem Interleaved.map {α β : Type} (f : α → β) {xs ys zs : List α} (h : Interleaved xs ys zs) :
    Interleaved (xs.map f) (ys.map f) (zs.map f) := by
  induction h with
  | nil => exact .nil
  | left x _ ih => exact ih.left (f x)
  | right y _ ih => exact ih.right (f y)

theorem dropReturns_append_newline {a : Text} (plain : '\n' ∉ a) (b : Text) :
    dropReturns (a ++ '\n' :: b) = endedLine a ++ '\n' :: dropReturns b := by
  fun_induction endedLine a with
  | case1 =>
    rw [List.nil_append, dropReturns, List.nil_append]
    simp
  | case2 => rw [List.cons_append, List.nil_append, dropReturns, List.nil_append]
  | case3 c rest notLast ih =>
    rw [List.mem_cons, not_or] at plain
    rw [List.cons_append, dropReturns, ih plain.2, List.cons_append]
    intro tail same begins
    cases rest with
    | nil => exact notLast same rfl
    | cons d more =>
      rw [List.cons_append, List.cons.injEq] at begins
      exact plain.2 (begins.1 ▸ List.mem_cons_self)

theorem dropReturns_of_notMem {a : Text} (plain : '\n' ∉ a) : dropReturns a = a := by
  induction a with
  | nil => rfl
  | cons c rest ih =>
    rw [List.mem_cons, not_or] at plain
    rw [dropReturns, ih plain.2]
    rintro tail - rfl
    exact plain.2 List.mem_cons_self

theorem trimEnd_return (l : Text) : trimEnd (l ++ ['\r']) = trimEnd l :=
  trimEnd_append (by decide) l

theorem content_eq_filter (s : Text) :
    content s = ((dropReturns s).lines.map trimEnd).filter (fun l => !isBlank l) := by
  rw [content, solidLines, List.filter_map]
  congr 1
  refine List.filter_congr fun l _ => ?_
  rw [Function.comp_apply, isBlank_trimEnd]

theorem content_eq_splitOn (s : Text) :
    content s = ((splitOn '\n' s).map trimEnd).filter (fun l => !isBlank l) := by
  rw [content_eq_filter, filter_map_lines trimEnd_return rfl]
  induction s using lineInduction with
  | last a plain => rw [dropReturns_of_notMem plain]
  | more a b plain ih =>
    have ended := newline_notMem_endedLine plain
    have first : trimEnd (endedLine a) = trimEnd a := read_endedLine trimEnd_return a
    rw [dropReturns_append_newline plain, splitOn_append_cons, splitOn_append_cons,
      splitOn_eq_singleton ended, splitOn_eq_singleton plain, List.singleton_append,
      List.singleton_append, List.map_cons, List.map_cons, first, List.filter_cons,
      List.filter_cons, ih]

theorem content_unlines {ls : List Text} (plain : ∀ l ∈ ls, '\n' ∉ l) :
    content (unlines ls) = (ls.filter fun l => !isBlank l).map trimEnd := by
  by_cases none : ls = []
  case pos =>
    subst none
    rfl
  case neg =>
    rw [content_eq_splitOn, splitOn_unlines plain none, List.filter_map]
    congr 1
    refine List.filter_congr fun l _ => ?_
    rw [Function.comp_apply, isBlank_trimEnd]

theorem filter_dropWhile_blank (ls : List Text) :
    (ls.dropWhile isBlank).filter (fun l => !isBlank l) = ls.filter fun l => !isBlank l := by
  induction ls with
  | nil => rfl
  | cons l rest ih =>
    cases blank : isBlank l with
    | true => simp [blank, ih]
    | false => simp [blank]

theorem filter_dropEndWhile_blank (ls : List Text) :
    (dropEndWhile isBlank ls).filter (fun l => !isBlank l) = ls.filter fun l => !isBlank l := by
  rw [dropEndWhile, List.filter_reverse, filter_dropWhile_blank, ← List.filter_reverse,
    List.reverse_reverse]

theorem content_joinTrimmed {ls : List Text} (plain : ∀ l ∈ ls, '\n' ∉ l) :
    content (joinTrimmed ls) = (ls.filter fun l => !isBlank l).map trimEnd := by
  have kept : ∀ l ∈ dropEndWhile isBlank (ls.dropWhile isBlank), '\n' ∉ l := by
    intro l mem
    rw [dropEndWhile, List.mem_reverse] at mem
    have inner := List.mem_reverse.mp ((List.dropWhile_suffix isBlank).subset mem)
    exact plain l ((List.dropWhile_suffix isBlank).subset inner)
  rw [joinTrimmed, content_unlines kept, filter_dropEndWhile_blank, filter_dropWhile_blank]

theorem joinTrimmed_eq_nil_iff {ls : List Text} (plain : ∀ l ∈ ls, '\n' ∉ l) :
    joinTrimmed ls = [] ↔ ∀ l ∈ ls, isBlank l = true := by
  constructor
  · intro empty l mem
    have nothing := content_joinTrimmed plain
    rw [empty] at nothing
    have none := List.map_eq_nil_iff.mp nothing.symm
    simpa using List.filter_eq_nil_iff.mp none l mem
  · intro blank
    rw [joinTrimmed, List.dropWhile_eq_nil_iff.mpr blank]
    rfl

theorem content_eq_nil_iff (s : Text) : content s = [] ↔ isBlank s = true := by
  rw [content_eq_splitOn]
  induction s using lineInduction with
  | last a plain =>
    rw [splitOn_eq_singleton plain]
    simp [List.filter_cons, isBlank_trimEnd]
  | more a b plain ih =>
    rw [splitOn_append_cons, splitOn_eq_singleton plain, List.singleton_append, List.map_cons,
      List.filter_cons, isBlank_append]
    have newline : isBlank ('\n' :: b) = isBlank b := rfl
    rw [newline, isBlank_trimEnd]
    cases isBlank a with
    | true => simpa using ih
    | false => simp

theorem looksLikeCode_not_blank {line : Text} (code : looksLikeCode line = true) :
    isBlank line = false := by
  rw [← Bool.not_eq_true]
  intro blank
  have start := trimStart_eq_nil_iff.mpr blank
  have whole := trim_eq_nil_iff.mpr blank
  have word : firstWord line = [] := by rw [firstWord, start]; rfl
  simp [looksLikeCode, startsWithVariable, startsWithFlag, isAssignment, startsWithKeyword,
    isComment, isClosing, startsWithCommand, start, whole, word, Text.startsWith, splitFirst,
    blockKeywords] at code

theorem isPrompt_not_blank {line : Text} (prompt : isPrompt line = true) :
    isBlank line = false := by
  rw [← Bool.not_eq_true]
  intro blank
  simp [isPrompt, trimStart_eq_nil_iff.mpr blank, Text.startsWith, isDrivePath] at prompt

theorem Strategy.name_injective {a b : Strategy} (same : a.name = b.name) : a = b := by
  revert same
  cases a <;> cases b <;> decide

theorem Strategy.name_ne_emptyMode (a : Strategy) : a.name ≠ emptyMode := by
  cases a <;> decide

/-- Content goes to the code and to the remarks, by the rule that the mode names. -/
structure Divides (s : Text) (r : Segmented) : Prop where
  interleaved : Interleaved (content r.code) (content r.remarks) (content s)
  byPrompt : r.mode = Strategy.promptPriority.name →
    content r.code = ((solidLines s).filter isCodeMarker).map trimEnd ∧
      content r.remarks = ((solidLines s).filter fun l => !isCodeMarker l).map trimEnd
  atTail : r.mode = Strategy.narrativeTail.name →
    content s = content r.code ++ content r.remarks ∧ content r.code ≠ [] ∧ content r.remarks ≠ []
  asWhole : r.mode = Strategy.wholeBlock.name → content r.code = content s ∧ r.remarks = []
  noCode : r.code = [] ↔ r.mode = emptyMode
  noText : r.mode = emptyMode ↔ isBlank s = true

variable {s : Text} {r : Segmented}

theorem newline_notMem_lines (s : Text) : ∀ l ∈ (dropReturns s).lines, '\n' ∉ l :=
  fun _ mem => newline_notMem_of_mem_lines mem

theorem exists_solidLine (text : isBlank s = false) :
    ∃ l ∈ (dropReturns s).lines, isBlank l = false := by
  have found : solidLines s ≠ [] := by
    intro none
    have blank := (content_eq_nil_iff s).mp (by rw [content, none]; rfl)
    rw [text] at blank
    contradiction
  obtain ⟨l, mem⟩ := List.exists_mem_of_ne_nil _ found
  obtain ⟨mem, solid⟩ := List.mem_filter.mp mem
  exact ⟨l, mem, by simpa using solid⟩

theorem divides_empty (blank : isBlank s = true) : Divides s ⟨[], [], emptyMode⟩ where
  interleaved := by
    rw [content_eq_nil_iff s |>.mpr blank]
    exact .nil
  byPrompt mode := absurd mode.symm (Strategy.name_ne_emptyMode _)
  atTail mode := absurd mode.symm (Strategy.name_ne_emptyMode _)
  asWhole mode := absurd mode.symm (Strategy.name_ne_emptyMode _)
  noCode := by simp
  noText := by simp [blank]

theorem divides_of_rule (rule : Strategy) (text : isBlank s = false) (mode : r.mode = rule.name)
    (code : r.code ≠ [])
    (interleaved : Interleaved (content r.code) (content r.remarks) (content s))
    (byPrompt : rule = .promptPriority →
      content r.code = ((solidLines s).filter isCodeMarker).map trimEnd ∧
        content r.remarks = ((solidLines s).filter fun l => !isCodeMarker l).map trimEnd)
    (atTail : rule = .narrativeTail → content s = content r.code ++ content r.remarks ∧
      content r.code ≠ [] ∧ content r.remarks ≠ [])
    (asWhole : rule = .wholeBlock → content r.code = content s ∧ r.remarks = []) :
    Divides s r where
  interleaved := interleaved
  byPrompt same := byPrompt (Strategy.name_injective (mode.symm.trans same))
  atTail same := atTail (Strategy.name_injective (mode.symm.trans same))
  asWhole same := asWhole (Strategy.name_injective (mode.symm.trans same))
  noCode := iff_of_false code (mode ▸ rule.name_ne_emptyMode)
  noText := iff_of_false (mode ▸ rule.name_ne_emptyMode) (by simp [text])

theorem divides_splitByPrompt (text : isBlank s = false)
    (found : splitByPrompt (dropReturns s).lines = some r) : Divides s r := by
  have plain := newline_notMem_lines s
  have marked : ∀ p : Text → Bool, ∀ l ∈ (dropReturns s).lines.filter p, '\n' ∉ l :=
    fun p l mem => plain l (List.mem_filter.mp mem).1
  unfold splitByPrompt at found
  rw [Option.ite_none_right_eq_some] at found
  obtain ⟨prompt, result⟩ := found
  cases Option.some.inj result
  have code := content_joinTrimmed (marked isCodeMarker)
  have remarks := content_joinTrimmed (marked fun l => !isCodeMarker l)
  rw [List.filter_comm] at code remarks
  obtain ⟨l, mem, isPrompt⟩ := List.any_eq_true.mp prompt
  have noCode : joinTrimmed ((dropReturns s).lines.filter isCodeMarker) ≠ [] := by
    rw [ne_eq, joinTrimmed_eq_nil_iff (marked isCodeMarker)]
    intro blank
    have white := blank l (List.mem_filter.mpr ⟨mem, by simp [isCodeMarker, isPrompt]⟩)
    rw [isPrompt_not_blank isPrompt] at white
    contradiction
  refine divides_of_rule .promptPriority text rfl noCode ?_ (fun _ => ⟨code, remarks⟩)
    (fun same => absurd same (by decide)) (fun same => absurd same (by decide))
  rw [code, remarks]
  exact (interleaved_filter isCodeMarker (solidLines s)).map trimEnd

theorem splitAtTail_eq_some {ls : List Text} (found : splitAtTail ls = some r) :
    ∃ front back, dropEndWhile isBlank ls = front ++ back ∧ (∃ l ∈ front, looksLikeCode l = true) ∧
      joinTrimmed back ≠ [] ∧
      r = ⟨joinTrimmed front, joinTrimmed back, Strategy.narrativeTail.name⟩ := by
  simp only [splitAtTail, Option.bind_eq_bind, Option.bind_eq_some_iff, guard,
    Option.pure_def, Option.some.injEq] at found
  obtain ⟨last, -, -, -, boundary, scanned, _, guarded, result⟩ := found
  obtain ⟨remarks, -⟩ := Option.ite_none_right_eq_some.mp guarded
  have ends := List.find?_some scanned
  rw [endsStatement, Bool.and_eq_true, Option.any_eq_true] at ends
  obtain ⟨⟨l, here, code⟩, -⟩ := ends
  have within : l ∈ (dropEndWhile isBlank ls).take (boundary + 1) := by
    refine List.mem_of_getElem? (i := boundary) ?_
    rw [List.getElem?_take_of_lt (Nat.lt_succ_self boundary)]
    exact here
  exact ⟨_, _, (List.take_append_drop (boundary + 1) _).symm, ⟨l, within, code⟩,
    by simpa using remarks, result.symm⟩

theorem divides_splitAtTail (text : isBlank s = false)
    (found : splitAtTail (dropReturns s).lines = some r) : Divides s r := by
  obtain ⟨front, back, cut, ⟨l, within, code⟩, someRemarks, rfl⟩ := splitAtTail_eq_some found
  have plain : ∀ l ∈ front ++ back, '\n' ∉ l := by
    intro l mem
    rw [← cut, dropEndWhile, List.mem_reverse] at mem
    have kept := (List.dropWhile_suffix isBlank).subset mem
    exact newline_notMem_lines s l (List.mem_reverse.mp kept)
  have front_plain : ∀ l ∈ front, '\n' ∉ l := fun l mem => plain l (List.mem_append_left _ mem)
  have back_plain : ∀ l ∈ back, '\n' ∉ l := fun l mem => plain l (List.mem_append_right _ mem)
  have both : content s = content (joinTrimmed front) ++ content (joinTrimmed back) := by
    rw [content_joinTrimmed front_plain, content_joinTrimmed back_plain, ← List.map_append,
      ← List.filter_append, ← cut, filter_dropEndWhile_blank]
    rfl
  have codeLine : ¬ ∀ l ∈ front, isBlank l = true := by
    intro blank
    have white := blank l within
    rw [looksLikeCode_not_blank code] at white
    contradiction
  refine divides_of_rule .narrativeTail text rfl ?_ ?_ (fun same => absurd same (by decide))
    (fun _ => ⟨both, ?_, ?_⟩) (fun same => absurd same (by decide))
  · rw [ne_eq, joinTrimmed_eq_nil_iff front_plain]
    exact codeLine
  · rw [both]
    exact interleaved_append _ _
  · rw [content_joinTrimmed front_plain]
    simpa [List.filter_eq_nil_iff] using codeLine
  · rw [content_joinTrimmed back_plain]
    rw [ne_eq, joinTrimmed_eq_nil_iff back_plain] at someRemarks
    simpa [List.filter_eq_nil_iff] using someRemarks

theorem divides_wholeBlock (text : isBlank s = false) :
    Divides s (wholeBlock (dropReturns s).lines) := by
  have plain := newline_notMem_lines s
  have code : content (joinTrimmed (dropReturns s).lines) = content s := content_joinTrimmed plain
  obtain ⟨l, mem, solid⟩ := exists_solidLine text
  refine divides_of_rule .wholeBlock text rfl ?_ ?_ (fun same => absurd same (by decide))
    (fun same => absurd same (by decide)) (fun _ => ⟨code, rfl⟩)
  · rw [wholeBlock, ne_eq, joinTrimmed_eq_nil_iff plain]
    intro blank
    rw [blank l mem] at solid
    contradiction
  · have all := interleaved_append (content s) []
    rw [List.append_nil] at all
    rw [wholeBlock, code]
    exact all

theorem divides_segment (text : isBlank s = false) {strategy : Strategy}
    (answer : strategy.segment (dropReturns s).lines = some r) : Divides s r := by
  cases strategy with
  | promptPriority => exact divides_splitByPrompt text answer
  | narrativeTail => exact divides_splitAtTail text answer
  | wholeBlock =>
    cases Option.some.inj answer
    exact divides_wholeBlock text

/-- A chain without an answer divides as the strategy that takes everything for code. -/
theorem exists_segment_eq_classify (chain : List Strategy) (text : isBlank s = false) :
    ∃ strategy : Strategy, strategy.segment (dropReturns s).lines = some (classify chain s) := by
  unfold classify
  rw [if_neg (by simp [text])]
  dsimp only
  cases answer : chain.findSome? (Strategy.segment (dropReturns s).lines) with
  | none => exact ⟨.wholeBlock, rfl⟩
  | some r =>
    obtain ⟨strategy, -, here⟩ := List.exists_of_findSome?_eq_some answer
    exact ⟨strategy, here⟩

theorem divides_classify (chain : List Strategy) (s : Text) : Divides s (classify chain s) := by
  cases text : isBlank s with
  | true =>
    unfold classify
    rw [if_pos text]
    exact divides_empty text
  | false =>
    obtain ⟨strategy, answer⟩ := exists_segment_eq_classify chain text
    exact divides_segment text answer

theorem mode_segment {ls : List Text} {strategy : Strategy} (answer : strategy.segment ls = some r) :
    r.mode = strategy.name := by
  cases strategy with
  | promptPriority =>
    obtain ⟨-, result⟩ := Option.ite_none_right_eq_some.mp answer
    cases Option.some.inj result
    rfl
  | narrativeTail =>
    obtain ⟨_, _, -, -, -, rfl⟩ := splitAtTail_eq_some answer
    rfl
  | wholeBlock =>
    cases Option.some.inj answer
    rfl

/-- With prompts first in the chain they decide exactly if the text has one. -/
theorem mode_classify_prompt_iff (rest : List Strategy) (s : Text) :
    (classify (.promptPriority :: rest) s).mode = Strategy.promptPriority.name ↔
      ∃ l ∈ (dropReturns s).lines, isPrompt l = true := by
  rw [← List.any_eq_true]
  constructor
  · intro mode
    cases text : isBlank s with
    | true =>
      have empty := (divides_classify (.promptPriority :: rest) s).noText.mpr text
      exact absurd (mode.symm.trans empty) (Strategy.name_ne_emptyMode _)
    | false =>
      obtain ⟨strategy, answer⟩ := exists_segment_eq_classify (.promptPriority :: rest) text
      obtain rfl := Strategy.name_injective ((mode_segment answer).symm.trans mode)
      exact (Option.ite_none_right_eq_some.mp answer).1
  · intro prompt
    have text : ¬ isBlank s = true := by
      intro blank
      obtain ⟨l, mem, isPrompt⟩ := List.any_eq_true.mp prompt
      have solid : trimEnd l ∈ content s :=
        List.mem_map_of_mem (List.mem_filter.mpr ⟨mem, by simp [isPrompt_not_blank isPrompt]⟩)
      rw [(content_eq_nil_iff s).mpr blank] at solid
      exact List.not_mem_nil solid
    rw [classify, if_neg text]
    simp [Strategy.segment, splitByPrompt, prompt]

theorem classify_strict (mode : (classify strictChain s).mode ≠ Strategy.narrativeTail.name) :
    classify strictChain s = classify defaultChain s := by
  unfold classify at mode ⊢
  cases blank : isBlank s with
  | true => rfl
  | false =>
    simp only [blank, strictChain, defaultChain, List.findSome?_cons, Strategy.segment] at mode ⊢
    cases prompts : splitByPrompt (dropReturns s).lines with
    | some r => rfl
    | none =>
      cases tail : splitAtTail (dropReturns s).lines with
      | none => rfl
      | some r =>
        obtain ⟨_, _, -, -, -, rfl⟩ := splitAtTail_eq_some tail
        rw [prompts, tail] at mode
        exact absurd rfl mode

/-- Division loses and invents nothing, under any chain of strategies, and the strict chain differs
from the default one only where it splits off a tail. -/
theorem classify_keeps_content (s : Text) :
    (∀ chain : List Strategy, Divides s (classify chain s)) ∧
      ((classify strictChain s).mode ≠ Strategy.narrativeTail.name →
        classify strictChain s = classify defaultChain s) :=
  ⟨fun chain => divides_classify chain s, classify_strict⟩

/-- A prompt between its output, code before a sentence, code alone, and no text at all. -/
theorem classify_keeps_content_modes :
    let prompt : Text := "Output:\r\nPS> Get-Thing\r\n\r\nThing 1  \n"
    let tail : Text := "if ($x) \x7b\n  Get-Thing \x7d\n\nThis shows every thing.\n"
    let whole : Text := "Get-Thing \nThing 1\n"
    let byPrompt := classify defaultChain prompt
    let atTail := classify strictChain tail
    let asWhole := classify strictChain whole
    (byPrompt.mode = Strategy.promptPriority.name ∧ content byPrompt.code = ["PS> Get-Thing".toList] ∧
      content byPrompt.remarks = ["Output:".toList, "Thing 1".toList] ∧
      classify strictChain prompt = byPrompt) ∧
    (atTail.mode = Strategy.narrativeTail.name ∧ content tail = content atTail.code ++ content atTail.remarks ∧
      content atTail.remarks = ["This shows every thing.".toList] ∧ classify defaultChain tail ≠ atTail) ∧
    (asWhole.mode = Strategy.wholeBlock.name ∧ content asWhole.code = content whole ∧
      classify defaultChain whole = asWhole) ∧
    (classify strictChain " \n").mode = emptyMode ∧ (classify strictChain " \n").code = [] := by
  intro prompt tail whole byPrompt atTail asWhole
  have prompts : byPrompt.mode = Strategy.promptPriority.name := by decide
  have tails : atTail.mode = Strategy.narrativeTail.name := by decide
  have wholes : asWhole.mode = Strategy.wholeBlock.name := by decide
  obtain ⟨first, strict⟩ := classify_keeps_content prompt
  obtain ⟨second, -⟩ := classify_keeps_content tail
  obtain ⟨third, strict'⟩ := classify_keeps_content whole
  have last := ((classify_keeps_content " \n").1 strictChain).noText.mpr (by decide)
  refine ⟨⟨prompts, ?_, ?_, strict (by decide)⟩,
    ⟨tails, ((second strictChain).atTail tails).1, by decide, by decide⟩,
    ⟨wholes, ((third strictChain).asWhole wholes).1, (strict' (by decide)).symm⟩, last,
    ((classify_keeps_content " \n").1 strictChain).noCode.mpr last⟩
  · rw [((first defaultChain).byPrompt prompts).1]
    decide
  · rw [((first defaultChain).byPrompt prompts).2]
    decide

end ModuleDocs.Example
