import ModuleDocs.Proofs.Help.ExampleText

namespace ModuleDocs.Help
open Text

def dashes (n : Nat) : Text := List.replicate n '-'

def separators : List Char := [':', '.', '-']

/-- A marker with a number, a separator and a title, spaces around the separator, and dashes set off by
spaces in front and at the end. -/
structure TitledMarker where
  indent : Nat
  lead : Nat
  leadGap : Nat
  ordinal : Nat
  before : Nat
  separator : Char
  behind : Nat
  title : Text
  tailGap : Nat
  tail : Nat
  separates : separator ∈ separators
  solid : Solid title
  begins : ∀ c ∈ title.head?, c.isDigit = false ∧ c ∉ separators
  undashed : title.getLast? ≠ some '-'

namespace TitledMarker

variable (m : TitledMarker)

def core : Text :=
  Text.ofNat m.ordinal ++ (spaces m.before ++ m.separator :: (spaces m.behind ++ m.title))

def rest : Text := m.core ++ (spaces m.tailGap ++ dashes m.tail)

def line : Text :=
  spaces m.indent ++ (dashes m.lead ++ (spaces m.leadGap ++ ("EXAMPLE ".toList ++ m.rest)))

def shown : Text :=
  if m.before = 0 then m.title else m.separator :: (spaces m.behind ++ m.title)

end TitledMarker

theorem eq_dash_of_mem_dashes {n : Nat} : ∀ c ∈ dashes n, (c == '-') = true := fun _ mem =>
  beq_iff_eq.mpr (List.eq_of_mem_replicate mem)

theorem solid_dashes_succ (n : Nat) : Solid (dashes (n + 1)) :=
  solid_of_forall (List.cons_ne_nil _ _) fun _ mem => List.eq_of_mem_replicate mem ▸ rfl

theorem trimStart_undashed {s : Text} {c : Char} (begins : s.head? = some c)
    (dark : isWhite c = false) (undashed : c ≠ '-') (indent front apart : Nat) :
    trimStart ((trim (spaces indent ++ (dashes front ++ (spaces apart ++ s)))).dropWhile (· == '-')) =
      trimEnd s := by
  obtain ⟨more, rfl⟩ := List.head?_eq_some_iff.mp begins
  have solid : Solid [c] := solid_of_forall (List.cons_ne_nil _ _) (by simpa using dark)
  have ended : trimEnd (c :: more) = c :: trimEnd more := solid.trimEnd_append_right more
  have text : isBlank (c :: more) = false := by rw [isBlank_cons, dark, Bool.false_and]
  -- the dashes in front are gone, or there were none
  have bare (k : Nat) :
      trimStart ((spaces k ++ c :: trimEnd more).dropWhile (· == '-')) = c :: trimEnd more := by
    have kept : (spaces k ++ c :: trimEnd more).dropWhile (· == '-') =
        spaces k ++ c :: trimEnd more := by
      cases k with
      | zero => exact List.dropWhile_cons_of_neg (by simpa using undashed)
      | succ k => exact List.dropWhile_cons_of_neg (by decide)
    rw [kept, trimStart_append (isBlank_spaces k)]
    exact solid.trimStart_append_self (trimEnd more)
  rw [trim_append_left (isBlank_spaces indent), ended]
  cases front with
  | zero =>
    have plain : trim (dashes 0 ++ (spaces apart ++ c :: more)) = c :: trimEnd more := by
      rw [dashes, List.replicate_zero, List.nil_append, trim_append_left (isBlank_spaces apart), trim,
        ← ended]
      exact congrArg trimEnd (solid.trimStart_append_self more)
    rw [plain]
    exact bare 0
  | succ n =>
    have dashed := solid_dashes_succ n
    rw [trim, dashed.trimStart_append_self, dashed.trimEnd_append_right, trimEnd_append_of_text text,
      ended, List.dropWhile_append_of_pos eq_dash_of_mem_dashes, bare]

theorem trim_undashed {s : Text} (solid : Solid s) (undashed : s.getLast? ≠ some '-')
    (apart back : Nat) :
    trim (dropEndWhile (· == '-') (trimEnd (s ++ (spaces apart ++ dashes back)))) = s := by
  -- without the dashes the text ends in a space or in its own last character
  have kept (k : Nat) : dropEndWhile (· == '-') (s ++ spaces k) = s ++ spaces k := by
    rw [dropEndWhile_eq_rdropWhile, List.rdropWhile_eq_self_iff]
    intro nonempty dash
    have last := List.getLast?_eq_getLast_of_ne_nil nonempty
    rw [beq_iff_eq.mp dash] at last
    cases k with
    | zero => exact undashed (by simpa [spaces] using last)
    | succ k => simp [spaces, List.replicate_succ'] at last
  have spaced (k : Nat) : trim (s ++ spaces k) = s := by
    rw [trim_append_right (isBlank_spaces k), solid.trim_eq]
  rw [solid.trimEnd_append_right]
  cases back with
  | zero =>
    have blank : isBlank (spaces apart ++ dashes 0) = true := by
      rw [isBlank_append, isBlank_spaces]
      rfl
    rw [trimEnd_eq_nil_iff.mpr blank]
    exact (congrArg trim (kept 0)).trans (spaced 0)
  | succ n =>
    rw [(solid_dashes_succ n).trimEnd_append_self, ← List.append_assoc,
      dropEndWhile_append eq_dash_of_mem_dashes, kept, spaced]

theorem markedExamples_marker {line after : Text} (marker : exampleMarker? line = some after)
    (ordinal : Nat) (front behind : List Text) :
    (markedExamples ordinal (front ++ line :: behind))[
        front.countP fun l => (exampleMarker? l).isSome]? =
      some (exampleTitle after (ordinal + front.countP fun l => (exampleMarker? l).isSome),
        dedentLines (behind.takeWhile fun l => (exampleMarker? l).isNone)) := by
  induction front generalizing ordinal with
  | nil =>
    rw [List.nil_append, markedExamples, marker]
    rfl
  | cons l rest ih =>
    rw [List.cons_append, markedExamples, List.countP_cons]
    cases exampleMarker? l with
    | none => exact ih ordinal
    | some other =>
      have next := ih (ordinal + 1)
      rw [Nat.add_assoc, Nat.add_comm 1] at next
      simpa using next

namespace TitledMarker

variable (m : TitledMarker)

theorem isWhite_separator : isWhite m.separator = false := by
  have all : separators.all (!isWhite ·) = true := by decide
  simpa using List.all_eq_true.mp all _ m.separates

theorem isDigit_separator : m.separator.isDigit = false := by
  have all : separators.all (!Char.isDigit ·) = true := by decide
  simpa using List.all_eq_true.mp all _ m.separates

theorem solid_separated : Solid (m.separator :: (spaces m.behind ++ m.title)) := by
  have mark : Solid [m.separator] :=
    solid_of_forall (List.cons_ne_nil _ _) (by simpa using m.isWhite_separator)
  exact mark.append m.solid (spaces m.behind)

theorem solid_core : Solid m.core := by
  rw [core, ← List.append_assoc]
  exact (solid_ofNat m.ordinal).append m.solid_separated (spaces m.before)

theorem getLast?_core : m.core.getLast? ≠ some '-' := by
  have last : m.core.getLast? = m.title.getLast? := by
    rw [core, ← List.append_assoc, ← List.singleton_append, ← List.append_assoc, ← List.append_assoc,
      List.getLast?_append_of_ne_nil _ m.solid.nonempty]
  rw [last]
  exact m.undashed

theorem exampleMarker?_line : exampleMarker? m.line = some (' ' :: trimEnd m.rest) := by
  have text : isBlank m.rest = false := by
    rw [rest, isBlank_append, m.solid_core.isBlank_eq, Bool.false_and]
  have word : trimEnd ("EXAMPLE ".toList ++ m.rest) = "EXAMPLE".toList ++ ' ' :: trimEnd m.rest := by
    rw [trimEnd_append_of_text text]
    rfl
  have bare := trimStart_undashed (s := "EXAMPLE ".toList ++ m.rest) rfl (by decide) (by decide)
    m.indent m.lead m.leadGap
  exact exampleMarker?_of_word (bare.trans word) (by decide) (by decide)

theorem cleaned_rest : trim (dropEndWhile (· == '-') (trim (' ' :: trimEnd m.rest))) = m.core := by
  have ended : trim (' ' :: trimEnd m.rest) = trimEnd m.rest := by
    rw [← List.singleton_append, trim_append_left (by decide), trim, rest,
      m.solid_core.trimEnd_append_right, m.solid_core.trimStart_append_self,
      m.solid_core.trimEnd_append_right, trimEnd_trimEnd]
  rw [ended]
  exact trim_undashed m.solid_core m.getLast?_core m.tailGap m.tail

theorem dropWhile_isDigit_core : m.core.dropWhile Char.isDigit =
    spaces m.before ++ m.separator :: (spaces m.behind ++ m.title) := by
  rw [core, List.dropWhile_append_of_pos fun c mem => isDigit_of_mem_ofNat mem]
  cases m.before with
  | zero => exact List.dropWhile_cons_of_neg (by simp [m.isDigit_separator])
  | succ k => exact List.dropWhile_cons_of_neg (by decide)

theorem dropWhile_separators :
    (m.separator :: (spaces m.behind ++ m.title)).dropWhile (separators.contains ·) =
      spaces m.behind ++ m.title := by
  rw [List.dropWhile_cons_of_pos (by simpa using m.separates)]
  cases m.behind with
  | succ k => exact List.dropWhile_cons_of_neg (by decide)
  | zero =>
    obtain ⟨c, more, text⟩ := List.exists_cons_of_ne_nil m.solid.nonempty
    have first := (m.begins c (by rw [text]; rfl)).2
    rw [text]
    exact List.dropWhile_cons_of_neg (by simpa using first)

theorem trim_core :
    trim ((m.core.dropWhile Char.isDigit).dropWhile (separators.contains ·)) = m.shown := by
  rw [dropWhile_isDigit_core, shown]
  cases m.before with
  | zero =>
    rw [if_pos rfl, spaces, List.replicate_zero, List.nil_append, dropWhile_separators,
      trim_append_left (isBlank_spaces m.behind), m.solid.trim_eq]
  | succ k =>
    have kept : (spaces (k + 1) ++ m.separator :: (spaces m.behind ++ m.title)).dropWhile
        (separators.contains ·) = spaces (k + 1) ++ m.separator :: (spaces m.behind ++ m.title) :=
      List.dropWhile_cons_of_neg (by decide)
    rw [if_neg (Nat.succ_ne_zero k), kept, trim_append_left (isBlank_spaces (k + 1)),
      m.solid_separated.trim_eq]

theorem shown_ne_nil : m.shown ≠ [] := by
  rw [shown]
  split
  · exact m.solid.nonempty
  · exact List.cons_ne_nil _ _

theorem exampleTitle_rest (ordinal : Nat) :
    exampleTitle (' ' :: trimEnd m.rest) ordinal = m.shown := by
  have title : exampleTitle (' ' :: trimEnd m.rest) ordinal = titleOr ordinal m.shown := by
    rw [exampleTitle, cleaned_rest]
    exact congrArg (titleOr ordinal) m.trim_core
  rw [title, titleOr, if_neg (by simpa using m.shown_ne_nil)]

theorem shown_eq_title_iff : m.shown = m.title ↔ m.before = 0 := by
  unfold shown
  split
  case isTrue none => simp [none]
  case isFalse some =>
    refine iff_of_false (fun same => ?_) some
    have longer := congrArg List.length same
    rw [List.length_cons, List.length_append] at longer
    omega

end TitledMarker

/-- A marker gives its title alone exactly if no space stands before the separator. With spaces there the
separator leads the title. This holds of a title by itself and of every marker line in a text. -/
theorem title_of_titledMarker (m : TitledMarker) :
    (∀ ordinal, cleanTitle m.line ordinal = m.shown) ∧
      (∀ (s : Text) (front behind : List Text), s.lines = front ++ m.line :: behind →
        ∃ body, (examplesOf s)[front.countP fun l => (exampleMarker? l).isSome]? =
          some (m.shown, body)) ∧
      (m.shown = m.title ↔ m.before = 0) := by
  refine ⟨fun ordinal => ?_, fun s front behind division => ?_, m.shown_eq_title_iff⟩
  · rw [cleanTitle, m.exampleMarker?_line]
    exact m.exampleTitle_rest ordinal
  · have mem : m.line ∈ s.lines := by
      rw [division]
      exact List.mem_append_right front List.mem_cons_self
    have found := markedExamples_marker m.exampleMarker?_line 1 front behind
    rw [m.exampleTitle_rest] at found
    rw [examplesOf_marked mem m.exampleMarker?_line, division, found]
    exact ⟨_, rfl⟩

def listingMarker : TitledMarker where
  indent := 2
  lead := 3
  leadGap := 1
  ordinal := 2
  before := 0
  separator := '-'
  behind := 1
  title := "List items"
  tailGap := 1
  tail := 3
  separates := by decide
  solid := ⟨by decide, by decide, by decide⟩
  begins := fun c first => Option.some.inj first ▸ by decide
  undashed := by decide

theorem title_of_titledMarker_listing :
    let s : Text := "EXAMPLE 1\nGet-Item\n  --- EXAMPLE 2- List items ---\nGet-Item *\n"
    let front : List Text := ["EXAMPLE 1", "Get-Item"]
    s.lines = front ++ listingMarker.line :: ["Get-Item *".toList] ∧
    ∃ body, (examplesOf s)[1]? = some ("List items".toList, body) := by
  intro s front
  have division : s.lines = front ++ listingMarker.line :: ["Get-Item *".toList] := by decide
  exact ⟨division, (title_of_titledMarker listingMarker).2.1 s front _ division⟩

def spacedMarker : TitledMarker where
  indent := 0
  lead := 0
  leadGap := 0
  ordinal := 1
  before := 1
  separator := ':'
  behind := 1
  title := "Get an item"
  tailGap := 0
  tail := 0
  separates := by decide
  solid := ⟨by decide, by decide, by decide⟩
  begins := fun c first => Option.some.inj first ▸ by decide
  undashed := by decide

theorem separator_in_title :
    spacedMarker.line = "EXAMPLE 1 : Get an item".toList ∧
    cleanTitle spacedMarker.line 1 = ": Get an item".toList ∧
    examplesOf "EXAMPLE 1 : Get an item\nGet-Item" =
      [(": Get an item".toList, "Get-Item".toList)] := by
  decide

end ModuleDocs.Help
