import ModuleDocs.Proofs.Example.Content
import ModuleDocs.Proofs.Text.Returns

namespace ModuleDocs.Example
open Text

theorem startsWith_return {p : Text} (absent : '\r' ∉ p) (t : Text) :
    (t ++ ['\r']).startsWith p = t.startsWith p := by
  have longer : p ≠ t ++ ['\r'] := fun same => absent (same ▸ by simp)
  rw [Text.startsWith, Text.startsWith, Bool.eq_iff_iff, List.isPrefixOf_iff_prefix,
    List.isPrefixOf_iff_prefix, List.prefix_concat_iff]
  simp [longer]

theorem isDrivePath_cons (a b c : Char) (rest : Text) :
    isDrivePath (a :: b :: c :: rest) = (b == ':' && c == '\\' && a.isAlpha) := by
  by_cases colon : b = ':'
  case pos => by_cases slash : c = '\\' <;> simp [isDrivePath, colon, slash]
  case neg => simp [isDrivePath, colon]

theorem isDrivePath_return (t : Text) : isDrivePath (t ++ ['\r']) = isDrivePath t := by
  rcases t with _ | ⟨a, _ | ⟨b, _ | ⟨c, rest⟩⟩⟩
  · rfl
  · rfl
  · simp [isDrivePath]
  · simp only [List.cons_append, isDrivePath_cons]

theorem takeWhile_return {p : Char → Bool} (stops : p '\r' = false) (t : Text) :
    (t ++ ['\r']).takeWhile p = t.takeWhile p := by
  induction t with
  | nil => simp [stops]
  | cons c rest ih => simp only [List.cons_append, List.takeWhile_cons, ih]

theorem read_trimStart_return {β : Type} (read : Text → β)
    (ended : ∀ t, read (t ++ ['\r']) = read t) (line : Text) :
    read (trimStart (line ++ ['\r'])) = read (trimStart line) := by
  cases blank : isBlank line with
  | true =>
    have longer : isBlank (line ++ ['\r']) = true := by rw [isBlank_append, blank]; rfl
    rw [trimStart_eq_nil_iff.mpr longer, trimStart_eq_nil_iff.mpr blank]
  | false =>
    -- trimming stops before the end, so the carriage return stays where it is
    have stays : (trimStart line).isEmpty = false := by
      rw [List.isEmpty_eq_false_iff, ne_eq, trimStart_eq_nil_iff, blank]
      exact Bool.false_ne_true
    have pushed : trimStart (line ++ ['\r']) = trimStart line ++ ['\r'] := by
      rw [trimStart, List.dropWhile_append]
      exact if_neg (by rw [← trimStart, stays]; exact Bool.false_ne_true)
    rw [pushed, ended]

theorem trim_return (line : Text) : trim (line ++ ['\r']) = trim line :=
  trim_append_right (by decide) line

theorem isPrompt_return (line : Text) : isPrompt (line ++ ['\r']) = isPrompt line :=
  read_trimStart_return
    (fun t => t.startsWith "PS>" || t.startsWith "PS " || isDrivePath t)
    (fun t => by
      simp only [startsWith_return (show '\r' ∉ "PS>".toList by decide),
        startsWith_return (show '\r' ∉ "PS ".toList by decide), isDrivePath_return]) line

theorem any_startsWith_return (marks : List Text) (absent : ∀ p ∈ marks, '\r' ∉ p) (line : Text) :
    marks.any (trimStart (line ++ ['\r'])).startsWith = marks.any (trimStart line).startsWith := by
  refine read_trimStart_return (fun t => marks.any t.startsWith) (fun t => ?_) line
  rw [Bool.eq_iff_iff, List.any_eq_true, List.any_eq_true]
  refine exists_congr fun p => and_congr_right fun mem => ?_
  rw [startsWith_return (absent p mem)]

theorem isComment_return (line : Text) : isComment (line ++ ['\r']) = isComment line := by
  have marks := any_startsWith_return ["#", "<#", "//"] (by decide) line
  simpa [isComment, Bool.or_assoc] using marks

theorem startsWithVariable_return (line : Text) :
    startsWithVariable (line ++ ['\r']) = startsWithVariable line := by
  have marks := any_startsWith_return ["$", "@\x7b", "@("] (by decide) line
  simpa [startsWithVariable, Bool.or_assoc] using marks

theorem isClosing_return (line : Text) : isClosing (line ++ ['\r']) = isClosing line := by
  have marks := any_startsWith_return ["\x7d", ")", "\"@", "'@", "#>"] (by decide) line
  simpa [isClosing, Bool.or_assoc] using marks

theorem firstWord_return (line : Text) : firstWord (line ++ ['\r']) = firstWord line :=
  read_trimStart_return _ (takeWhile_return (by decide)) line

theorem startsWithFlag_return (line : Text) :
    startsWithFlag (line ++ ['\r']) = startsWithFlag line := by
  rw [startsWithFlag, firstWord_return, startsWithFlag]

theorem startsWithCommand_return (line : Text) :
    startsWithCommand (line ++ ['\r']) = startsWithCommand line := by
  rw [startsWithCommand, firstWord_return, startsWithCommand]

theorem isAssignment_return (line : Text) : isAssignment (line ++ ['\r']) = isAssignment line := by
  rw [isAssignment, trim_return, isAssignment]

theorem isConstruct_return (line : Text) : isConstruct (line ++ ['\r']) = isConstruct line := by
  simp only [isConstruct, trim_return]

theorem startsWithKeyword_eq (line : Text) :
    startsWithKeyword line =
      (blockKeywords.contains ((trimStart line).takeWhile Char.isAlpha) &&
        ((trimStart line).dropWhile Char.isAlpha).head?.all
          (fun c => c == '(' || c == '\x7b' || isWhite c)) := by
  rw [startsWithKeyword]
  cases (trimStart line).dropWhile Char.isAlpha with
  | nil => rfl
  | cons c rest => rfl

theorem startsWithKeyword_return (line : Text) :
    startsWithKeyword (line ++ ['\r']) = startsWithKeyword line := by
  rw [startsWithKeyword_eq, startsWithKeyword_eq]
  refine read_trimStart_return (fun t =>
    blockKeywords.contains (t.takeWhile Char.isAlpha) &&
      (t.dropWhile Char.isAlpha).head?.all
        (fun c => c == '(' || c == '\x7b' || isWhite c)) (fun t => ?_) line
  have word : (t ++ ['\r']).takeWhile Char.isAlpha = t.takeWhile Char.isAlpha :=
    takeWhile_return (by decide) t
  simp only [word, List.dropWhile_append]
  cases t.dropWhile Char.isAlpha with
  -- the keyword ends its line: nothing follows it, or white space does
  | nil => rfl
  | cons c rest => rfl

theorem looksLikeCode_return (line : Text) :
    looksLikeCode (line ++ ['\r']) = looksLikeCode line := by
  simp only [looksLikeCode, startsWithVariable_return, startsWithFlag_return, isAssignment_return,
    startsWithKeyword_return, isComment_return, isClosing_return, startsWithCommand_return]

theorem isCodeMarker_return (line : Text) : isCodeMarker (line ++ ['\r']) = isCodeMarker line := by
  simp only [isCodeMarker, isPrompt_return, isComment_return, looksLikeCode_return,
    isConstruct_return]

theorem looksLikeProse_return (line : Text) :
    looksLikeProse (line ++ ['\r']) = looksLikeProse line := by
  rw [looksLikeProse, isCodeMarker_return, trim_return, looksLikeProse]

theorem closesHereString_return (quote : Quote) (line : Text) :
    Nesting.closesHereString quote (line ++ ['\r']) = Nesting.closesHereString quote line := by
  refine read_trimStart_return (fun t => t.startsWith [quote.char, '@']) (fun t => ?_) line
  exact startsWith_return (by cases quote <;> decide) t

theorem feed_return (n : Nesting) (line : Text) : n.feed (line ++ ['\r']) = n.feed line := by
  unfold Nesting.feed
  rw [trimEnd_return]
  split
  case h_1 => rw [closesHereString_return]
  case h_2 => rfl

theorem feedExample_return (n : Nesting) (line : Text) :
    n.feedExample (line ++ ['\r']) = n.feedExample line := by
  unfold Nesting.feedExample
  rw [looksLikeProse_return, feed_return]

theorem ofExample_of_map_bare {ls ms : List Text} (same : ls.map bare = ms.map bare) :
    Nesting.ofExample ls = Nesting.ofExample ms := by
  have read := map_of_map_bare (fun line n => Nesting.feedExample n line)
    (fun l => funext fun n => feedExample_return n l) same
  have fold (ks : List Text) : Nesting.ofExample ks =
      (ks.map fun line n => Nesting.feedExample n line).foldl (fun n step => step n)
        Nesting.start := by
    rw [List.foldl_map]
    rfl
  rw [fold ls, read, ← fold ms]

theorem feedExample_blank {n : Nesting} {line : Text} (blank : isBlank line = true)
    (code : n.region = .code) : n.feedExample line = n := by
  have nothing : n.feed line = n := by
    unfold Nesting.feed
    rw [code, trimEnd_eq_nil_iff.mpr blank]
    cases n
    cases code
    rfl
  unfold Nesting.feedExample
  split
  case isTrue => rfl
  case isFalse => exact nothing

theorem ofExample_append_blank {gap : List Text} (blank : ∀ l ∈ gap, isBlank l = true)
    (ls : List Text) : Nesting.ofExample (gap ++ ls) = Nesting.ofExample ls := by
  induction gap with
  | nil => rfl
  | cons l rest ih =>
    rw [List.forall_mem_cons] at blank
    rw [← ih blank.2, List.cons_append, Nesting.ofExample, List.foldl_cons,
      feedExample_blank blank.1 rfl, Nesting.ofExample]

end ModuleDocs.Example
