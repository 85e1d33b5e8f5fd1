import ModuleDocs.Help.Blocks
import ModuleDocs.Proofs.Help.Sections
import ModuleDocs.Proofs.Text.Matching
import ModuleDocs.Proofs.Text.White

/-! The header of a parameter block and the banner of an example both begin with a dash, and the
banners are looked for first. So a parameter stays among the parameters up to the first line that
passes for a banner, and a parameter whose name begins with the marker word is such a line. -/
namespace ModuleDocs.Help
open Text

theorem parameterHeader?_eq_some {line : Text} {p : Parameter}
    (header : parameterHeader? line = some p) :
    ∃ rest, line = '-' :: rest ∧ p.name = rest.takeWhile (fun c => !isWhite c) ∧ p.name ≠ [] ∧
      ∀ c ∈ p.name, isAlphanumeric c = true ∨ c = '_' := by
  simp only [parameterHeader?, Option.bind_eq_bind, Option.bind_eq_some_iff, guard] at header
  obtain ⟨rest, dash, _, named, read⟩ := header
  obtain ⟨word, -⟩ := Option.ite_none_right_eq_some.mp named
  have begins : line = '-' :: rest := stripPrefix?_eq_some dash
  have name : p.name = rest.takeWhile (fun c => !isWhite c) := by
    split at read
    case isTrue => rw [← Option.some.inj read]
    case isFalse =>
      obtain ⟨type, -, read⟩ := Option.bind_eq_some_iff.mp read
      rw [← Option.some.inj read]
  rw [Bool.and_eq_true, Bool.not_eq_true', List.isEmpty_eq_false_iff, ← name,
    List.all_eq_true] at word
  refine ⟨rest, begins, name, word.1, fun c mem => ?_⟩
  simpa using word.2 c mem

theorem ofHeader?_of_parameterHeader {line : Text} {p : Parameter}
    (header : parameterHeader? (trim line) = some p) : Section.ofHeader? line = none := by
  obtain ⟨rest, begins, -⟩ := parameterHeader?_eq_some header
  rw [Section.ofHeader?, List.find?_eq_none]
  intro s _ same
  rw [begins, sameName_comm] at same
  have dash : '-' ∈ lowerAscii s.header := mem_of_sameName same List.mem_cons_self
  revert dash
  cases s <;> decide

/-- The marker word at the front of a name, not followed by a letter. -/
def beginsWithMarker (name : Text) : Bool :=
  sameName (name.take markerWord.length) markerWord &&
    (name.drop markerWord.length).head?.all (fun c => !isAlphabetic c)

theorem isSome_exampleMarker? (line : Text) :
    (exampleMarker? line).isSome =
      beginsWithMarker (trimStart ((trim line).dropWhile (· == '-'))) := by
  unfold exampleMarker? beginsWithMarker
  generalize trimStart ((trim line).dropWhile (· == '-')) = t
  simp only
  cases sameName (t.take markerWord.length) markerWord with
  | false => rfl
  | true =>
    cases t.drop markerWord.length with
    | nil => rfl
    | cons c rest => cases letter : isAlphabetic c <;> simp [letter]

theorem beginsWithMarker_append {name after : Text}
    (white : ∀ c ∈ after.head?, isWhite c = true) :
    beginsWithMarker (name ++ after) = beginsWithMarker name := by
  unfold beginsWithMarker
  by_cases long : markerWord.length ≤ name.length
  case pos =>
    have inside : (name ++ after).take markerWord.length = name.take markerWord.length :=
      List.take_append_of_le_length long
    have behind : ((name ++ after).drop markerWord.length).head?.all (fun c => !isAlphabetic c) =
        (name.drop markerWord.length).head?.all (fun c => !isAlphabetic c) := by
      rw [List.drop_append_of_le_length long]
      cases name.drop markerWord.length with
      | cons c more => rfl
      | nil =>
        cases after with
        | nil => rfl
        | cons c more => simp [isAlphabetic_of_isWhite (white c rfl)]
    rw [inside, behind]
  case neg =>
    have short : sameName (name.take markerWord.length) markerWord = false := by
      rw [← Bool.not_eq_true]
      intro same
      have lengths := length_of_sameName same
      rw [List.length_take] at lengths
      omega
    have cut : sameName ((name ++ after).take markerWord.length) markerWord = false := by
      rw [← Bool.not_eq_true]
      intro same
      cases after with
      | nil =>
        rw [List.append_nil, short] at same
        exact Bool.false_ne_true same
      | cons c more =>
        have within : c ∈ (name ++ c :: more).take markerWord.length := by
          rw [List.take_append, List.mem_append]
          obtain ⟨n, count⟩ : ∃ n, markerWord.length - name.length = n + 1 :=
            ⟨markerWord.length - name.length - 1, by omega⟩
          exact .inr (by rw [count, List.take_succ_cons]; exact List.mem_cons_self)
        have letter := mem_of_sameName same within
        exact forall_isWhite (fun c => c.toLower ∉ lowerAscii markerWord) (by decide) (white c rfl)
          letter
    rw [short, cut, Bool.false_and, Bool.false_and]

theorem isBanner_of_parameterHeader {line : Text} {p : Parameter}
    (header : parameterHeader? (trim line) = some p) :
    isBanner line = beginsWithMarker p.name := by
  obtain ⟨rest, begins, name, nonempty, word⟩ := parameterHeader?_eq_some header
  have decorated : (trimStart line).startsWith "-" = true := by
    obtain ⟨w, -, split⟩ := exists_trimEnd (trimStart line)
    rw [split, ← trim, begins]
    rfl
  have split : rest = p.name ++ rest.dropWhile (fun c => !isWhite c) := by
    rw [name, List.takeWhile_append_dropWhile]
  have white : ∀ c ∈ (rest.dropWhile fun c => !isWhite c).head?, isWhite c = true := by
    intro c first
    have stopped := List.head?_dropWhile_not (fun c => !isWhite c) rest
    rw [Option.mem_def.mp first] at stopped
    simpa using stopped
  obtain ⟨c, more, first⟩ := List.exists_cons_of_ne_nil nonempty
  have notDash : c ≠ '-' := by
    rintro rfl
    have letter := word '-' (first ▸ List.mem_cons_self)
    revert letter
    decide
  have notWhite : isWhite c = false := by
    have mem : c ∈ rest.takeWhile fun c => !isWhite c := by
      rw [← name, first]
      exact List.mem_cons_self
    simpa using List.mem_takeWhile_imp mem
  have undecorated : trimStart ((trim line).dropWhile (· == '-')) = rest := by
    rw [begins, List.dropWhile_cons_of_pos (by decide), split, first, List.cons_append,
      List.dropWhile_cons_of_neg (by simpa using notDash), trimStart,
      List.dropWhile_cons_of_neg (by simp [notWhite])]
  rw [isBanner, decorated, Bool.true_and, isSome_exampleMarker?, undecorated, split,
    beginsWithMarker_append white]

/-- The section that a line joins behind the lines before it. -/
def placeOf (before : List Text) (line : Text) : Option Section :=
  sectionAt (before.foldl sectionAfter none) line

theorem sectionAt_some (s : Section) (line : Text) :
    sectionAt (some s) line = some (if isBanner line then .examples else s) := by
  unfold sectionAt
  cases banner : isBanner line with
  | false => simp
  | true =>
    by_cases examples : s = .examples
    · simp [examples]
    · simp [examples]

theorem foldl_sectionAfter {ls : List Text} (noHeader : ∀ l ∈ ls, Section.ofHeader? l = none)
    (s : Section) :
    ls.foldl sectionAfter (some s) = some (if ls.any isBanner then .examples else s) := by
  induction ls generalizing s with
  | nil => rfl
  | cons line rest ih =>
    have tail := ih (fun l mem => noHeader l (List.mem_cons_of_mem line mem))
    rw [List.foldl_cons, sectionAfter, noHeader line List.mem_cons_self, Option.none_or,
      sectionAt_some, tail, List.any_cons]
    cases isBanner line <;> simp

theorem placeOf_behind {before between : List Text} {opening line : Text} {s : Section}
    (opens : Section.ofHeader? opening = some s)
    (inside : ∀ l ∈ between, Section.ofHeader? l = none) :
    placeOf (before ++ opening :: between) line =
      some (if (between ++ [line]).any isBanner then .examples else s) := by
  have opened (current : Option Section) : sectionAfter current opening = some s := by
    rw [sectionAfter, opens, Option.some_or]
  rw [placeOf, List.foldl_append, List.foldl_cons, opened, foldl_sectionAfter inside,
    sectionAt_some, List.any_append, List.any_cons, List.any_nil, Bool.or_false]
  cases between.any isBanner <;> cases isBanner line <;> rfl

theorem body?_of_placeOf {s : Text} {before after : List Text} {line : Text} {k : Section}
    (division : s.lines = before ++ line :: after) (noHeader : Section.ofHeader? line = none)
    (place : placeOf before line = some k) :
    ∃ early late, (Dump.parse s).body? k = some (unlines (early ++ line :: late)) ∧
      ∀ l ∈ early ++ line :: late, '\n' ∉ l := by
  have there : entries none s.lines =
      entries none before ++ (k, some line) :: entries (some k) after := by
    rw [division, entries_append, entries, noHeader]
    unfold placeOf at place
    simp only [place]
  have own : linesOf (entries none s.lines) k =
      linesOf (entries none before) k ++ line :: linesOf (entries (some k) after) k := by
    rw [there, linesOf_append, linesOf_cons]
  refine ⟨linesOf (entries none before) k, linesOf (entries (some k) after) k, ?_, ?_⟩
  · refine body?_ofEntries_eq_some.mpr ⟨⟨(k, some line), ?_, rfl⟩, by rw [own]⟩
    rw [there]
    simp
  · intro l mem
    rw [← own] at mem
    exact newline_notMem_of_mem_lines (staysIn_of_mem_entries (mem_of_mem_linesOf mem)).1

theorem map_trim_lines_unlines {early late : List Text} {line : Text} (text : trim line ≠ [])
    (plain : ∀ l ∈ early ++ line :: late, '\n' ∉ l) :
    ∃ more, (unlines (early ++ line :: late)).lines.map trim =
      early.map trim ++ trim line :: more := by
  have ended (l : Text) : trim (endedLine l) = trim l :=
    read_endedLine (fun l => trim_append_right (by decide) l) l
  induction early with
  | nil =>
    have first := plain line List.mem_cons_self
    cases late with
    | nil =>
      have nonempty : line ≠ [] := fun none => text (by rw [none]; rfl)
      refine ⟨[], ?_⟩
      rw [List.nil_append, unlines_singleton, lines_of_notMem first nonempty]
      rfl
    | cons m rest =>
      refine ⟨(unlines (m :: rest)).lines.map trim, ?_⟩
      rw [List.nil_append, unlines_cons_cons, lines_append_newline first, List.map_cons, ended]
      rfl
  | cons l rest ih =>
    obtain ⟨more, tail⟩ := ih fun k mem => plain k (List.mem_cons_of_mem l mem)
    obtain ⟨m, others, next⟩ :=
      List.exists_cons_of_ne_nil (show rest ++ line :: late ≠ [] by simp)
    refine ⟨more, ?_⟩
    rw [List.cons_append, next, unlines_cons_cons,
      lines_append_newline (plain l List.mem_cons_self), List.map_cons, ended, ← next, tail]
    rfl

theorem name_apply (p : Parameter) (a : Attribute × Text) :
    (Attribute.apply p a).name = p.name ∧ (Attribute.apply p a).typeName = p.typeName := by
  obtain ⟨label, value⟩ := a
  cases label <;> exact ⟨rfl, rfl⟩

theorem name_withBlock (p : Parameter) (ls : List Text) :
    (p.withBlock ls).name = p.name ∧ (p.withBlock ls).typeName = p.typeName := by
  have fold (attributes : List (Attribute × Text)) (q : Parameter) :
      (attributes.foldl Attribute.apply q).name = q.name ∧
        (attributes.foldl Attribute.apply q).typeName = q.typeName := by
    induction attributes generalizing q with
    | nil => exact ⟨rfl, rfl⟩
    | cons a rest ih =>
      obtain ⟨name, type⟩ := ih (Attribute.apply q a)
      exact ⟨name.trans (name_apply q a).1, type.trans (name_apply q a).2⟩
  exact fold _ p

theorem parameterBlocks_header {line : Text} {p : Parameter}
    (header : parameterHeader? line = some p) (early late : List Text) :
    (parameterBlocks (early ++ line :: late))[early.countP fun l => (parameterHeader? l).isSome]? =
      some (p.withBlock (late.takeWhile fun l => (parameterHeader? l).isNone)) := by
  induction early with
  | nil =>
    rw [List.nil_append, parameterBlocks, header]
    rfl
  | cons l rest ih =>
    rw [List.cons_append, parameterBlocks, List.countP_cons]
    cases parameterHeader? l with
    | none => exact ih
    | some r => simpa using ih

/-- A parameter header in a section of parameters stays there exactly if neither it nor a line
between is a banner, and then it gives a parameter. Otherwise it goes to the examples. A header is a
banner if its name begins with the marker word and no letter follows. -/
theorem parameterHeader_place {s : Text} {before between after : List Text} {opening line : Text}
    {p : Parameter} (division : s.lines = before ++ opening :: between ++ line :: after)
    (opens : Section.ofHeader? opening = some .parameters)
    (inside : ∀ l ∈ between, Section.ofHeader? l = none)
    (header : parameterHeader? (trim line) = some p) :
    placeOf (before ++ opening :: between) line =
        some (if (between ++ [line]).any isBanner then .examples else .parameters) ∧
      (placeOf (before ++ opening :: between) line = some .parameters →
        ∃ early late q, (Dump.parse s).body? .parameters = some (unlines (early ++ line :: late)) ∧
          (parametersOf ((Dump.parse s).bodyOf .parameters))[
            early.countP fun l => (parameterHeader? (trim l)).isSome]? = some q ∧
          q.name = p.name ∧ q.typeName = p.typeName) ∧
      isBanner line = beginsWithMarker p.name := by
  refine ⟨placeOf_behind opens inside, fun place => ?_, isBanner_of_parameterHeader header⟩
  obtain ⟨early, late, body, plain⟩ :=
    body?_of_placeOf division (ofHeader?_of_parameterHeader header) place
  have text : trim line ≠ [] := by
    obtain ⟨rest, begins, -⟩ := parameterHeader?_eq_some header
    rw [begins]
    exact List.cons_ne_nil _ _
  obtain ⟨more, divided⟩ := map_trim_lines_unlines text plain
  have block := parameterBlocks_header header (early.map trim) more
  rw [← divided, List.countP_map] at block
  refine ⟨early, late, p.withBlock (more.takeWhile fun l => (parameterHeader? l).isNone), body, ?_,
    name_withBlock p _⟩
  rw [Dump.bodyOf, body, Option.getD_some, parametersOf]
  exact block

theorem parameterHeader_place_second :
    placeOf ["PARAMETERS", "-Path <String>", "    Where to look."] "-Force [<SwitchParameter>]" =
      some .parameters := by
  have opens : Section.ofHeader? "PARAMETERS" = some .parameters := by decide
  have inside : ∀ l ∈ (["-Path <String>", "    Where to look."] : List Text),
      Section.ofHeader? l = none := by decide
  have header : parameterHeader? (trim "-Force [<SwitchParameter>]") =
      some { name := "Force", typeName := "SwitchParameter" } := by decide
  have division : (writeLines ["PARAMETERS", "-Path <String>", "    Where to look.",
      "-Force [<SwitchParameter>]"]).lines =
      [] ++ "PARAMETERS".toList :: ["-Path <String>".toList, "    Where to look.".toList] ++
        "-Force [<SwitchParameter>]".toList :: [] := by decide
  exact (parameterHeader_place division opens inside header).1.trans (by decide)

/-- A parameter named like the marker word is lost: its header opens the examples. -/
theorem example_parameter_lost :
    parameterHeader? (trim "-Example <String>") =
        some { name := "Example", typeName := "String" } ∧
      (Dump.parse (writeLines ["PARAMETERS", "-Example <String>"])).body? .parameters = some [] ∧
      parametersOf ((Dump.parse (writeLines ["PARAMETERS", "-Example <String>"])).bodyOf
        .parameters) = [] := by
  decide

end ModuleDocs.Help
