import ModuleDocs.Proofs.Help.Repeats
import ModuleDocs.Proofs.Help.UsageParts
import ModuleDocs.Proofs.Text.Lines
import ModuleDocs.Proofs.Text.Matching

namespace ModuleDocs.Help
open Text

/-- One use of the command: groups and perhaps the placeholder for the common parameters, each
behind white space, and what stands before the command. -/
structure Invocation where
  before : Text
  blank : isBlank before = true
  groups : List (Gap × Group)
  common : Option Gap

def Invocation.parts (i : Invocation) : List (Gap × Part) :=
  i.groups.map (fun (gap, group) => (gap, group.part)) ++
    (i.common.map (·, commonParameters)).toList

def spaced (parts : List (Gap × Part)) : Text :=
  parts.flatMap fun (gap, part) => gap.text ++ part.text

def Invocation.written (command : CommandName) (i : Invocation) : Text :=
  command.text ++ spaced i.parts

def usageText (command : CommandName) (shown : List Invocation) : Text :=
  shown.flatMap fun i => i.before ++ i.written command

def usageForms (shown : List Invocation) : List SyntaxSet :=
  shown.mapIdx fun index i =>
    ⟨if shown.length = 1 then "Default".toList else "Set ".toList ++ ofNat (index + 1),
      (i.groups.map (·.2.parameter)).eraseDupsBy fun p q => sameName p.name q.name⟩

theorem spaced_cons (gap : Gap) (part : Part) (rest : List (Gap × Part)) :
    spaced ((gap, part) :: rest) = gap.text ++ part.text ++ spaced rest := by
  rw [spaced, List.flatMap_cons, spaced]

theorem spaced_stops {p : Char → Bool} (white : ∀ {c}, isWhite c = true → p c = false)
    (parts : List (Gap × Part)) : Stops p (spaced parts) := by
  cases parts with
  | nil => exact Stops.nil p
  | cons head rest =>
    rw [spaced_cons, List.append_assoc]
    exact head.1.stops white _

theorem usageTokens_spaced (parts : List (Gap × Part)) :
    usageTokens (spaced parts) = parts.flatMap (·.2.tokens) := by
  induction parts with
  | nil => exact usageTokens_nil
  | cons head rest ih =>
    rw [spaced_cons, List.append_assoc, usageTokens_blank head.1.blank,
      head.2.tokenized (spaced_stops isWordChar_of_isWhite rest), ih, List.flatMap_cons]

theorem leadingType?_tokens (parts : List (Gap × Part)) :
    leadingType? (parts.flatMap (·.2.tokens)) = none := by
  cases parts with
  | nil => rfl
  | cons head rest => exact head.2.untyped _

theorem usageParameters_parts (parts : List (Gap × Part)) :
    usageParameters 0 false (parts.flatMap (·.2.tokens)) = parts.flatMap (·.2.parameters) := by
  induction parts with
  | nil =>
    rw [List.flatMap_nil, usageParameters]
    rfl
  | cons head rest ih =>
    rw [List.flatMap_cons, head.2.parsed (leadingType?_tokens rest), ih, List.flatMap_cons]

theorem usageParameters_command (command : CommandName) (ts : List UsageToken) :
    usageParameters 0 false (.word command.text :: ts) = usageParameters 0 false ts := by
  have unnamed : (UsageToken.word command.text).parameter? = none := by
    have undashed := command.undashed
    unfold UsageToken.parameter?
    split
    · rename_i same
      rw [UsageToken.word.injEq] at same
      rw [same] at undashed
      contradiction
    · rfl
  exact usageParameters_unnamed (by simp) (by simp) unnamed 0 false ts

theorem usageParameters_line (command : CommandName) (parts : List (Gap × Part)) :
    usageParameters 0 false (usageTokens (command.text ++ spaced parts)) =
      parts.flatMap (·.2.parameters) := by
  have white {c : Char} (white : isWhite c = true) : isPlainChar c = false := by
    simp [isPlainChar, white]
  rw [usageTokens_command command (spaced_stops white parts), usageParameters_command,
    usageTokens_spaced, usageParameters_parts]

theorem Invocation.parameters_parts (i : Invocation) :
    i.parts.flatMap (·.2.parameters) = i.groups.map (·.2.parameter) := by
  have common : (i.common.map (·, commonParameters)).toList.flatMap (·.2.parameters) = [] := by
    cases i.common <;> rfl
  rw [parts, List.flatMap_append, common, List.append_nil, List.flatMap_map]
  exact List.map_eq_flatMap.symm

def wrapped (line : Text) : List (Gap × Part) → List Text
  | [] => [line]
  | (gap, part) :: rest =>
    if '\n' ∈ gap.text then line :: wrapped part.text rest
    else wrapped (line ++ gap.text ++ part.text) rest

theorem trimmedLines_wrapped (parts : List (Gap × Part)) {line : Text} (solid : Solid line)
    (plain : '\n' ∉ line) {s : Text} {ts : List Text}
    (next : ∀ l, Solid l → '\n' ∉ l → trimmedLines (l ++ s) = l :: ts) :
    trimmedLines (line ++ spaced parts ++ s) = wrapped line parts ++ ts := by
  -- A gap without a newline makes the line longer, so the line is not fixed in the induction.
  induction parts generalizing line with
  | nil => simpa [spaced, wrapped] using next line solid plain
  | cons head rest ih =>
    obtain ⟨gap, part⟩ := head
    rw [spaced_cons, wrapped]
    by_cases newline : '\n' ∈ gap.text
    case pos =>
      have tail := ih part.solid part.unbroken
      have broken := trimmedLines_break solid plain gap.blank newline
        (part.text ++ spaced rest ++ s)
      rw [if_pos newline, List.cons_append, ← tail, ← broken]
      simp
    case neg =>
      have whole : '\n' ∉ line ++ gap.text ++ part.text := by
        simp [plain, newline, part.unbroken]
      have tail := ih (solid.append part.solid gap.text) whole
      rw [if_neg newline, ← tail]
      simp

def Gap.joined (gap : Gap) : Gap := if '\n' ∈ gap.text then space else gap

theorem wrapped_ne_nil (line : Text) (parts : List (Gap × Part)) : wrapped line parts ≠ [] := by
  induction parts generalizing line with
  | nil => exact List.cons_ne_nil _ _
  | cons head rest ih =>
    rw [wrapped]
    split
    · exact List.cons_ne_nil _ _
    · exact ih _

theorem intercalate_wrapped (line : Text) (parts : List (Gap × Part)) :
    List.intercalate [' '] (wrapped line parts) =
      line ++ spaced (parts.map fun (gap, part) => (gap.joined, part)) := by
  induction parts generalizing line with
  | nil => simp [wrapped, spaced]
  | cons head rest ih =>
    obtain ⟨gap, part⟩ := head
    rw [wrapped, List.map_cons, spaced_cons, Gap.joined]
    by_cases newline : '\n' ∈ gap.text
    case pos =>
      rw [if_pos newline, if_pos newline,
        List.intercalate_cons_of_ne_nil (wrapped_ne_nil part.text rest), ih]
      simp [Gap.space]
    case neg =>
      rw [if_neg newline, if_neg newline, ih]
      simp

theorem wrapped_eq_cons (line : Text) (parts : List (Gap × Part)) :
    ∃ t later, wrapped line parts = (line ++ t) :: later ∧ Stops (fun c => !isWhite c) t ∧
      ∀ l ∈ later, l.head? = some '-' ∨ l.head? = some '[' := by
  have white {c : Char} (white : isWhite c = true) : (!isWhite c) = false := by rw [white]; rfl
  induction parts generalizing line with
  | nil => exact ⟨[], [], by simp [wrapped], Stops.nil _, by simp⟩
  | cons head rest ih =>
    obtain ⟨gap, part⟩ := head
    rw [wrapped]
    by_cases newline : '\n' ∈ gap.text
    case pos =>
      obtain ⟨t, later, lines, -, begins⟩ := ih part.text
      refine ⟨[], (part.text ++ t) :: later, ?_, Stops.nil _, ?_⟩
      · rw [if_pos newline, lines, List.append_nil]
      · intro l mem
        rcases List.mem_cons.mp mem with rfl | mem
        · rw [List.head?_append_of_ne_nil _ part.solid.nonempty]
          exact part.begins
        · exact begins l mem
    case neg =>
      obtain ⟨t, later, lines, -, begins⟩ := ih (line ++ gap.text ++ part.text)
      refine ⟨gap.text ++ (part.text ++ t), later, ?_, gap.stops white _, begins⟩
      rw [if_neg newline, lines]
      simp

theorem CommandName.isWhite (command : CommandName) : ∀ c ∈ command.text, isWhite c = false := by
  intro c mem
  have plain := List.all_eq_true.mp command.plain c mem
  simp only [isPlainChar, Bool.and_eq_true, Bool.not_eq_true'] at plain
  exact plain.1.1.1.1

theorem CommandName.solid (command : CommandName) : Solid command.text :=
  solid_of_forall command.nonempty command.isWhite

theorem CommandName.unbroken (command : CommandName) : '\n' ∉ command.text := fun inside =>
  absurd (command.isWhite _ inside) (by decide)

theorem firstWord_command (command : CommandName) {t : Text}
    (stops : Stops (fun c => !isWhite c) t) : firstWord (command.text ++ t) = command.text := by
  have inside : ∀ c ∈ command.text, (!isWhite c) = true := fun c mem => by
    rw [command.isWhite c mem]
    rfl
  rw [firstWord, command.solid.trimStart_append_self, (stops.run inside).1]

theorem firstWord_mark {l : Text} (begins : l.head? = some '-' ∨ l.head? = some '[') :
    ∃ c word, (c = '-' ∨ c = '[') ∧ firstWord l = c :: word := by
  cases l with
  | nil => simp at begins
  | cons c s =>
    simp only [List.head?_cons, Option.some.injEq] at begins
    have solid : isWhite c = false := by rcases begins with rfl | rfl <;> decide
    refine ⟨c, s.takeWhile (fun d => !isWhite d), begins, ?_⟩
    rw [firstWord, trimStart, List.dropWhile_cons_of_neg (by rw [solid]; decide),
      List.takeWhile_cons_of_pos (by rw [solid]; rfl)]

/-- A test that takes the command in front for the start of an invocation, and no line that begins
with a part. -/
structure Tells (command : CommandName) (starts : Text → Bool) : Prop where
  first : ∀ {t}, Stops (fun c => !isWhite c) t → starts (command.text ++ t) = true
  later : ∀ {l : Text}, l.head? = some '-' ∨ l.head? = some '[' → starts l = false

theorem sameName_command (command : CommandName) {c : Char} (mark : c = '-' ∨ c = '[')
    (s : Text) : sameName (c :: s) command.text = false := by
  obtain ⟨d, rest, text⟩ := List.exists_cons_of_ne_nil command.nonempty
  have undashed := command.undashed
  have plain := List.all_eq_true.mp command.plain d (by rw [text]; exact List.mem_cons_self)
  rw [← Bool.not_eq_true, sameName_iff, text]
  intro same
  rw [lowerAscii, lowerAscii, List.map_cons, List.map_cons, List.cons.injEq] at same
  rcases mark with rfl | rfl
  · rw [text, eq_of_toLower_eq rfl same.1.symm] at undashed
    contradiction
  · rw [eq_of_toLower_eq rfl same.1.symm] at plain
    contradiction

theorem tells_command (command : CommandName) :
    Tells command (startsInvocation command.text) := by
  have known : command.text.isEmpty = false := List.isEmpty_eq_false_iff.mpr command.nonempty
  constructor
  case first =>
    intro t stops
    rw [startsInvocation, known, firstWord_command command stops]
    exact sameName_refl command.text
  case later =>
    intro l begins
    obtain ⟨c, word, mark, first⟩ := firstWord_mark begins
    rw [startsInvocation, known, first]
    exact sameName_command command mark word

theorem tells_verbNoun {command : CommandName}
    (verbNoun : Example.startsWithCommand command.text = true) :
    Tells command (startsInvocation []) := by
  constructor
  case first =>
    intro t stops
    have alone := firstWord_command command (Stops.nil (fun c => !isWhite c))
    rw [List.append_nil] at alone
    rw [Example.startsWithCommand, alone] at verbNoun
    rwa [startsInvocation, Example.startsWithCommand, firstWord_command command stops]
  case later =>
    intro l begins
    obtain ⟨c, word, mark, first⟩ := firstWord_mark begins
    rw [startsInvocation, Example.startsWithCommand, first]
    rcases mark with rfl | rfl
    · rfl
    · rw [splitFirst, List.takeWhile_cons_of_pos (by decide)]
      cases ('[' :: word).dropWhile (fun d => !(d == '-')) with
      | nil => rfl
      | cons d noun => cases noun <;> rfl

theorem invocations_block {starts : Text → Bool} {line : Text} {later more : List Text}
    (first : starts line = true) (inside : ∀ l ∈ later, starts l = false)
    (next : ∀ l ∈ more.head?, starts l = true) :
    invocations starts (line :: later ++ more) =
      List.intercalate [' '] (line :: later) :: invocations starts more := by
  have stops : Stops (fun l => !starts l) more := fun l mem => by simp [next l mem]
  have run := stops.run (a := later) fun l mem => by simp [inside l mem]
  -- The lines of the block are passed over again, as none of them starts an invocation.
  have skipped : invocations starts (later ++ more) = invocations starts more := by
    clear run
    induction later with
    | nil => rfl
    | cons l rest ih =>
      have here := inside l List.mem_cons_self
      rw [List.cons_append, invocations, here]
      exact ih fun m mem => inside m (List.mem_cons_of_mem l mem)
  rw [List.cons_append, invocations, if_pos first, run.1, skipped]

def Invocation.lines (command : CommandName) (i : Invocation) : List Text :=
  wrapped command.text i.parts

theorem usageText_cons (command : CommandName) (i : Invocation) (rest : List Invocation) :
    usageText command (i :: rest) = i.before ++ i.written command ++ usageText command rest := by
  rw [usageText, List.flatMap_cons, usageText]

theorem trimmedLines_written (command : CommandName) {i : Invocation} {rest : List Invocation}
    {after : Text} (blank : isBlank after = true) (broken : ∀ j ∈ rest, '\n' ∈ j.before) :
    trimmedLines (i.written command ++ (usageText command rest ++ after)) =
      (i :: rest).flatMap (·.lines command) := by
  induction rest generalizing i with
  | nil =>
    have last := trimmedLines_wrapped i.parts command.solid command.unbroken
      fun l solid plain => trimmedLines_end solid plain blank
    simpa [usageText, Invocation.lines, Invocation.written] using last
  | cons j rest ih =>
    have tail := ih (i := j) fun k mem => broken k (List.mem_cons_of_mem j mem)
    have newline := broken j List.mem_cons_self
    have next : ∀ l, Solid l → '\n' ∉ l →
        trimmedLines (l ++ (usageText command (j :: rest) ++ after)) =
          l :: (j :: rest).flatMap (·.lines command) := by
      intro l solid plain
      rw [← tail, ← trimmedLines_break solid plain j.blank newline, usageText_cons]
      simp
    exact trimmedLines_wrapped i.parts command.solid command.unbroken next

theorem trimmedLines_usageText (command : CommandName) {shown : List Invocation} {after : Text}
    (blank : isBlank after = true) (broken : ∀ i ∈ shown.tail, '\n' ∈ i.before) :
    trimmedLines (usageText command shown ++ after) = shown.flatMap (·.lines command) := by
  cases shown with
  | nil =>
    have nothing := trimmedLines_blank blank []
    rwa [List.append_nil] at nothing
  | cons i rest =>
    rw [usageText_cons, List.append_assoc, List.append_assoc, trimmedLines_blank i.blank]
    exact trimmedLines_written command blank broken

theorem invocations_lines {command : CommandName} {starts : Text → Bool}
    (tells : Tells command starts) (shown : List Invocation) :
    invocations starts (shown.flatMap (·.lines command)) =
      shown.map fun i => List.intercalate [' '] (i.lines command) := by
  induction shown with
  | nil => rfl
  | cons i rest ih =>
    obtain ⟨t, later, lines, stops, begins⟩ := wrapped_eq_cons command.text i.parts
    -- The block ends where the next invocation begins with the command.
    have next : ∀ l ∈ (rest.flatMap (·.lines command)).head?, starts l = true := by
      cases rest with
      | nil => simp
      | cons j more =>
        obtain ⟨t', later', lines', stops', -⟩ := wrapped_eq_cons command.text j.parts
        intro l mem
        rw [List.flatMap_cons, Invocation.lines, lines', List.cons_append, List.head?_cons,
          Option.mem_some_iff] at mem
        exact mem ▸ tells.first stops'
    rw [List.flatMap_cons, Invocation.lines, lines,
      invocations_block (tells.first stops) (fun l mem => tells.later (begins l mem)) next, ih,
      List.map_cons, Invocation.lines, lines]

theorem Invocation.form (command : CommandName) (name : Text) (i : Invocation) :
    SyntaxSet.ofParameters name
        (usageParameters 0 false (usageTokens (List.intercalate [' '] (i.lines command)))) =
      ⟨name, (i.groups.map (·.2.parameter)).eraseDupsBy fun p q => sameName p.name q.name⟩ := by
  have parts : (i.parts.map fun (gap, part) => (gap.joined, part)).flatMap (·.2.parameters) =
      i.groups.map (·.2.parameter) := by
    rw [← i.parameters_parts, List.flatMap_map]
  rw [SyntaxSet.ofParameters, Invocation.lines, intercalate_wrapped, usageParameters_line, parts,
    dropRepeats_eq_eraseDups]

theorem defaultSetName_eq {index total : Nat} (inside : index < total) :
    defaultSetName index total =
      if total = 1 then "Default".toList else "Set ".toList ++ ofNat (index + 1) := by
  have one : total ≤ 1 ↔ total = 1 := by omega
  rw [defaultSetName, if_congr one rfl rfl]

theorem usages_eq (s name : Text) :
    usages s name = (invocations (startsInvocation name) (trimmedLines s)).mapIdx fun index line =>
      .ofParameters
        (defaultSetName index (invocations (startsInvocation name) (trimmedLines s)).length)
        (usageParameters 0 false (usageTokens line)) := rfl

theorem usages_of_tells {command : CommandName} {name : Text}
    (tells : Tells command (startsInvocation name)) {shown : List Invocation} {after : Text}
    (blank : isBlank after = true) (broken : ∀ i ∈ shown.tail, '\n' ∈ i.before) :
    usages (usageText command shown ++ after) name = usageForms shown := by
  have found : invocations (startsInvocation name)
      (trimmedLines (usageText command shown ++ after)) =
      shown.map fun i => List.intercalate [' '] (i.lines command) := by
    rw [trimmedLines_usageText command blank broken, invocations_lines tells]
  rw [usages_eq, found, usageForms, List.length_map]
  apply List.ext_getElem
  case hl => rw [List.length_mapIdx, List.length_mapIdx, List.length_map]
  case h =>
    intro index inside _
    rw [List.length_mapIdx, List.length_map] at inside
    rw [List.getElem_mapIdx, List.getElem_mapIdx, List.getElem_map, Invocation.form,
      defaultSetName_eq inside]

/-- Usage text gives one form for each invocation in it, whatever white space and line breaks stand
between its parts: named by its place unless it is the only one, with the parameters of its groups
in order, each of them once. Where the command is not given, it has to be in Verb-Noun form. -/
theorem usages_usageText (command : CommandName) (shown : List Invocation) {after : Text}
    (blank : isBlank after = true) (broken : ∀ i ∈ shown.tail, '\n' ∈ i.before) :
    usages (usageText command shown ++ after) command.text = usageForms shown ∧
      (Example.startsWithCommand command.text = true →
        usages (usageText command shown ++ after) [] = usageForms shown) :=
  ⟨usages_of_tells (tells_command command) blank broken,
    fun verbNoun => usages_of_tells (tells_verbNoun verbNoun) blank broken⟩

def showItem : CommandName := ⟨"Show-Item", by decide, by decide, by decide⟩

def showItemUses : List Invocation :=
  [⟨"  ", by decide,
    [(.space, .positional ⟨'P', "ath", by decide, by decide⟩
        ⟨"String[]", by decide, by decide, by decide, by decide⟩),
      (⟨"\n    ", by decide, by decide⟩, .optionalBare ⟨'F', "orce", by decide, by decide⟩),
      (.space, .bare ⟨'p', "ath", by decide, by decide⟩)], some .space⟩,
    ⟨"\n\n", by decide, [], none⟩]

theorem usages_usageText_showItem :
    usages "  Show-Item [-Path] <String[]>\n    [-Force] -path [<CommonParameters>]\n\nShow-Item" []
      = [⟨"Set 1", [{ name := "Path", typeName := "String[]", required := some true },
          { name := "Force", required := some false }]⟩, ⟨"Set 2", []⟩] := by
  have text : ("  Show-Item [-Path] <String[]>\n    [-Force] -path [<CommonParameters>]\n\nShow-Item" :
      Text) = usageText showItem showItemUses ++ [] := by decide
  have read := usages_usageText showItem showItemUses (show isBlank [] = true from rfl) (by decide)
  rw [text, read.2 (by decide)]
  decide

end ModuleDocs.Help
