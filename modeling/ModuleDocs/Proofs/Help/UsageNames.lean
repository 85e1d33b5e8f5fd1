import ModuleDocs.Proofs.Help.UsageText

/-! What the parameters of a usage text are called. Every word with a dash in front is taken for one, so
the names are well formed exactly if no word goes on behind its dash with anything but a letter. -/
namespace ModuleDocs.Help
open Text

def IsParameterName (name : Text) : Prop := ∃ n : ParameterName, name = n.first :: n.more

/-- A dash with something other than an ASCII letter behind it, as in a number below zero or in a line of
dashes. -/
def IsStray (word : Text) : Prop := ∃ c rest, word = '-' :: c :: rest ∧ c.isAlpha = false

/-- The lines of the invocations in a usage text, each joined with the lines that continue it. -/
def usageLines (s command : Text) : List Text :=
  invocations (startsInvocation command) (trimmedLines s)

theorem all_isWordChar_of_mem_usageTokens {s more : Text} {c : Char}
    (mem : .word ('-' :: c :: more) ∈ usageTokens s) (letter : c.isAlpha = true) :
    more.all isWordChar = true := by
  fun_induction usageTokens s with
  | case1 => contradiction
  | case2 rest ih | case3 rest ih => exact ih (by simpa using mem)
  | case4 rest closed _ ih => exact ih (by simpa using mem)
  | case5 rest unclosed ih => exact ih mem
  | case6 first rest _ _ _ dash _ ih =>
    rcases List.mem_cons.mp mem with here | later
    case inr => exact ih later
    case inl =>
      injection here with same
      have word : ∀ d ∈ c :: more, isWordChar d = true := by
        rw [(List.cons.inj same).2]
        exact fun d inside => List.mem_takeWhile_imp inside
      exact List.all_eq_true.mpr fun d inside => word d (List.mem_cons_of_mem c inside)
  | case7 first rest _ _ _ other plain _ ih =>
    rcases List.mem_cons.mp mem with here | later
    case inr => exact ih later
    case inl =>
      -- a dash with a letter behind it begins a token of the other sort
      injection here with same
      obtain ⟨dash, run⟩ := List.cons.inj same
      have next : rest.head? = some c := by
        cases rest with
        | nil => contradiction
        | cons d more' =>
          rw [List.takeWhile_cons] at run
          split at run
          · rw [List.head?_cons, (List.cons.inj run).1]
          · contradiction
      exact absurd ⟨dash.symm, by rw [next]; exact letter⟩ other
  | case8 first rest _ _ _ _ _ ih => exact ih mem

theorem parameter?_eq_some {token : UsageToken} {name : Text} :
    token.parameter? = some name ↔ ∃ c rest, name = c :: rest ∧ token = .word ('-' :: name) := by
  unfold UsageToken.parameter?
  split
  case h_1 c rest => simp +contextual [eq_comm]
  case h_2 other =>
    refine iff_of_false (by simp) ?_
    rintro ⟨c, rest, rfl, rfl⟩
    exact other c rest rfl

theorem filterMap_leadingType {ts rest : List UsageToken} {type : Text}
    (found : leadingType? ts = some (type, rest)) :
    ts.filterMap UsageToken.parameter? = rest.filterMap UsageToken.parameter? := by
  cases ts with
  | nil => contradiction
  | cons token more =>
    obtain ⟨_, typed, same⟩ := Option.map_eq_some_iff.mp found
    cases same
    cases token with
    | angled content => rfl
    | openBracket | closeBracket | word => contradiction

theorem filterMap_afterName (opened : Bool) (ts : List UsageToken) :
    (afterName opened ts).2.2.filterMap UsageToken.parameter? =
      ts.filterMap UsageToken.parameter? := by
  unfold afterName
  split
  case h_1 found => exact (filterMap_leadingType found).symm
  case h_2 =>
    split
    case h_1 found => exact (filterMap_leadingType found).symm
    case h_2 => rfl
  case h_3 => rfl

theorem usageParameters_named {text name : Text}
    (named : (UsageToken.word text).parameter? = some name) (depth : Nat) (opened : Bool)
    (ts : List UsageToken) :
    ∃ p within, p.name = name ∧ usageParameters depth opened (.word text :: ts) =
      p :: usageParameters within false (afterName opened ts).2.2 := by
  rw [usageParameters]
  · rw [named]
    exact ⟨_, _, rfl, rfl⟩
  · simp
  · simp

theorem names_usageParameters (depth : Nat) (opened : Bool) (ts : List UsageToken) :
    (usageParameters depth opened ts).map (·.name) = ts.filterMap UsageToken.parameter? := by
  match ts with
  | [] =>
    rw [usageParameters]
    rfl
  | .openBracket :: rest =>
    rw [usageParameters_openBracket]
    exact names_usageParameters (depth + 1) true rest
  | .closeBracket :: rest =>
    rw [usageParameters_closeBracket]
    exact names_usageParameters (depth - 1) false rest
  | .angled content :: rest =>
    rw [usageParameters_unnamed (by simp) (by simp) rfl]
    exact names_usageParameters depth false rest
  | .word text :: rest =>
    cases found : (UsageToken.word text).parameter? with
    | none =>
      rw [usageParameters_unnamed (by simp) (by simp) found, List.filterMap_cons_none found]
      exact names_usageParameters depth false rest
    | some name =>
      obtain ⟨p, within, own, read⟩ := usageParameters_named found depth opened rest
      have shorter := length_afterName opened rest
      rw [read, List.map_cons, own, List.filterMap_cons_some found, ← filterMap_afterName opened rest,
        names_usageParameters within false (afterName opened rest).2.2]
termination_by ts.length

theorem isAlpha_of_sameName {c d : Char} {s t : Text} (same : sameName (c :: s) (d :: t) = true)
    (letter : d.isAlpha = true) : c.isAlpha = true := by
  have heads := (List.cons.inj (sameName_iff.mp same)).1
  rcases eq_or_letters_of_toLower_eq heads with rfl | letters
  · exact letter
  · exact letters.1

theorem mem_usageParameters {depth : Nat} {opened : Bool} {ts : List UsageToken} {p : Parameter}
    (mem : p ∈ usageParameters depth opened ts) : .word ('-' :: p.name) ∈ ts ∧ p.name ≠ [] := by
  have name : p.name ∈ ts.filterMap UsageToken.parameter? := by
    rw [← names_usageParameters depth opened]
    exact List.mem_map_of_mem mem
  obtain ⟨token, among, found⟩ := List.mem_filterMap.mp name
  obtain ⟨c, rest, text, rfl⟩ := parameter?_eq_some.mp found
  exact ⟨among, by rw [text]; exact List.cons_ne_nil c rest⟩

theorem exists_mem_usageParameters (depth : Nat) (opened : Bool) {ts : List UsageToken} {c : Char}
    {rest : Text} (mem : .word ('-' :: c :: rest) ∈ ts) :
    ∃ p ∈ usageParameters depth opened ts, p.name = c :: rest := by
  have name : c :: rest ∈ (usageParameters depth opened ts).map (·.name) := by
    rw [names_usageParameters]
    exact List.mem_filterMap.mpr ⟨_, mem, parameter?_eq_some.mpr ⟨c, rest, rfl, rfl⟩⟩
  exact List.mem_map.mp name

theorem named_line_iff (name line : Text) :
    (∀ p ∈ (SyntaxSet.ofParameters name (usageParameters 0 false (usageTokens line))).parameters,
      IsParameterName p.name) ↔
      ∀ w, IsStray w → .word w ∉ usageTokens line := by
  constructor
  case mp =>
    rintro named w ⟨c, rest, rfl, unlettered⟩ mem
    obtain ⟨p, given, text⟩ := exists_mem_usageParameters 0 false mem
    rcases exists_mem_dropRepeats [] given with ⟨n, none, -⟩ | ⟨q, kept, same⟩
    · contradiction
    -- the parameter that is kept in its place has a name that begins alike
    obtain ⟨n, own⟩ := named q kept
    rw [text, own] at same
    rw [isAlpha_of_sameName same n.letter] at unlettered
    contradiction
  case mpr =>
    intro plain p kept
    obtain ⟨mem, nonempty⟩ := mem_usageParameters (mem_dropRepeats kept).1
    obtain ⟨c, rest, text⟩ := List.exists_cons_of_ne_nil nonempty
    rw [text] at mem
    have letter : c.isAlpha = true := by
      rw [← Bool.not_eq_false]
      exact fun unlettered => plain _ ⟨c, rest, rfl, unlettered⟩ mem
    exact ⟨⟨c, rest, letter, all_isWordChar_of_mem_usageTokens mem letter⟩, text⟩

/-- In all usage forms of a text the parameters have the names of parameters exactly if no invocation
holds a stray word, whatever the command is and wherever the word stands. -/
theorem usages_named_iff (s command : Text) :
    (∀ form ∈ usages s command, ∀ p ∈ form.parameters, IsParameterName p.name) ↔
      ∀ line ∈ usageLines s command, ∀ w, IsStray w → .word w ∉ usageTokens line := by
  constructor
  case mp =>
    intro named line mem
    obtain ⟨index, inside, rfl⟩ := List.mem_iff_getElem.mp mem
    refine (named_line_iff (defaultSetName index (usageLines s command).length) _).mp (named _ ?_)
    rw [usages_eq]
    exact List.mem_mapIdx.mpr ⟨index, inside, rfl⟩
  case mpr =>
    intro plain form mem
    rw [usages_eq] at mem
    obtain ⟨index, inside, rfl⟩ := List.mem_mapIdx.mp mem
    exact (named_line_iff _ _).mpr (plain _ (List.getElem_mem inside))

/-- A line of dashes below an invocation is a parameter of it. -/
theorem separator_line_named :
    let s : Text := "Get-Item [-Path] <String>\n-----"
    let form : SyntaxSet := ⟨"Default",
      [{ name := "Path", typeName := "String", required := some true },
        { name := "----", required := some true }]⟩
    usages s "Get-Item" = [form] ∧
    ¬ ∀ form ∈ usages s "Get-Item", ∀ p ∈ form.parameters, IsParameterName p.name := by
  intro s form
  have read : usages s "Get-Item" = [form] := by decide +kernel
  refine ⟨read, fun named => ?_⟩
  rw [read] at named
  have dashes : { name := "----".toList, required := some true } ∈ form.parameters := by
    simp [form]
  obtain ⟨n, same⟩ := named form List.mem_cons_self _ dashes
  have letter := n.letter
  rw [← (List.cons.inj same).1] at letter
  contradiction

end ModuleDocs.Help
