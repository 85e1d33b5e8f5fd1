import ModuleDocs.Help.Reader
import ModuleDocs.Proofs.Example.Stability
import ModuleDocs.Proofs.Help.Layout
import ModuleDocs.Proofs.Help.NodeText
import ModuleDocs.Proofs.Help.Repeats
import ModuleDocs.Proofs.Text.Matching

/-! Every page is well formed, whichever source it comes from: names are trimmed and not empty, a usage
form names no parameter twice, an example has a title and code that fits its mode, and what a
parameter leaves unsaid is absent, never an empty text or the word none. -/
namespace ModuleDocs.Help
open Text

/-- No alias is blank or untrimmed, and neither an alias nor a default value is the word none. -/
structure Parameter.WellFormed (p : Parameter) : Prop where
  aliases : ∀ a ∈ p.aliases, Solid a ∧ sameName a "none" = false
  position : p.position ≠ some []
  defaultValue : ∀ d ∈ p.defaultValue, d ≠ [] ∧ sameName d "none" = false

structure SyntaxSet.WellFormed (s : SyntaxSet) : Prop where
  names : s.parameters.Pairwise fun p q => sameName p.name q.name = false
  parameters : ∀ p ∈ s.parameters, p.WellFormed

def exampleModes : List Text := Example.emptyMode :: Example.Strategy.all.map (·.name)

example : exampleModes = ["empty", "prompt-priority", "narrative-tail", "whole-block"] := rfl

structure ExampleEntry.WellFormed (e : ExampleEntry) : Prop where
  title : Solid e.title
  mode : e.mode ∈ exampleModes
  noCode : e.code = [] ↔ e.mode = Example.emptyMode
  edges : e.code ≠ [] → ∃ first last, e.code.lines.head? = some first ∧ isBlank first = false ∧
    e.code.lines.getLast? = some last ∧ isBlank last = false

structure Page.WellFormed (p : Page) : Prop where
  name : Solid p.name
  usages : ∀ s ∈ p.usages, s.WellFormed
  parameters : ∀ q ∈ p.parameters, q.WellFormed
  examples : ∀ e ∈ p.examples, e.WellFormed
  inputs : ∀ t ∈ p.inputs, Solid t.name
  outputs : ∀ t ∈ p.outputs, Solid t.name

theorem wellFormed_aliasesOf {value a : Text} (mem : a ∈ aliasesOf value) :
    Solid a ∧ sameName a "none" = false := by
  obtain ⟨part, kept⟩ := List.mem_filter.mp mem
  obtain ⟨s, -, rfl⟩ := List.mem_map.mp part
  rw [Bool.and_eq_true, Bool.not_eq_true', Bool.not_eq_true', List.isEmpty_eq_false_iff] at kept
  exact ⟨solid_trim kept.1, kept.2⟩

theorem Parameter.wellFormed_plain {p : Parameter} (aliases : p.aliases = [])
    (position : p.position = none) (defaultValue : p.defaultValue = none) : p.WellFormed := by
  constructor
  · simp [aliases]
  · simp [position]
  · simp [defaultValue]

theorem Parameter.WellFormed.enrichedFrom {own entry : Parameter} (ho : own.WellFormed)
    (he : entry.WellFormed) : (own.enrichedFrom entry).WellFormed := by
  constructor
  · intro a mem
    change a ∈ if own.aliases.isEmpty then entry.aliases else own.aliases at mem
    cases none : own.aliases.isEmpty with
    | true => exact he.aliases a (by rwa [none] at mem)
    | false => exact ho.aliases a (by rwa [none] at mem)
  · intro empty
    rcases Option.or_eq_some_iff.mp empty with mine | ⟨-, other⟩
    · exact ho.position mine
    · exact he.position other
  · intro d mem
    rcases Option.or_eq_some_iff.mp mem with mine | ⟨-, other⟩
    · exact ho.defaultValue d mine
    · exact he.defaultValue d other

theorem SyntaxSet.wellFormed_ofParameters (name : Text) {ps : List Parameter}
    (each : ∀ p ∈ ps, p.WellFormed) : (SyntaxSet.ofParameters name ps).WellFormed where
  names := pairwise_dropRepeats [] ps
  parameters p mem := each p (mem_dropRepeats mem).1

theorem name_mem_exampleModes (rule : Example.Strategy) : rule.name ∈ exampleModes := by
  cases rule <;> decide

theorem exists_joined (chain : List Example.Strategy) (s : Text) :
    ∃ ls, (∀ l ∈ ls, '\n' ∉ l) ∧ (Example.classify chain s).code = joinTrimmed ls ∧
      (Example.classify chain s).mode ∈ exampleModes := by
  cases text : isBlank s with
  | true =>
    rw [Example.classify, text]
    exact ⟨[], by simp, rfl, List.mem_cons_self⟩
  | false =>
    have plain := Example.newline_notMem_lines s
    obtain ⟨rule, answer⟩ := Example.exists_segment_eq_classify chain text
    have mode : (Example.classify chain s).mode ∈ exampleModes := by
      rw [Example.mode_segment answer]
      exact name_mem_exampleModes rule
    generalize Example.classify chain s = r at answer mode
    cases rule with
    | promptPriority =>
      obtain ⟨-, result⟩ := Option.ite_none_right_eq_some.mp answer
      cases Option.some.inj result
      exact ⟨_, fun l mem => plain l (List.mem_filter.mp mem).1, rfl, mode⟩
    | narrativeTail =>
      obtain ⟨cut, rfl⟩ := Example.exists_tailCut answer
      exact ⟨_, fun l mem => plain l (cut.mem_of_mem_code mem), rfl, mode⟩
    | wholeBlock =>
      cases Option.some.inj answer
      exact ⟨_, plain, rfl, mode⟩

theorem solid_numberedTitle (ordinal : Nat) : Solid (numberedTitle ordinal) := by
  have word : Solid "Example".toList := solid_of_all (by decide) (by decide)
  exact word.append (solid_ofNat ordinal) [' ']

theorem solid_titleOr (ordinal : Nat) (s : Text) : Solid (titleOr ordinal (trim s)) := by
  rw [titleOr]
  cases empty : (trim s).isEmpty with
  | true => exact solid_numberedTitle ordinal
  | false => exact solid_trim (List.isEmpty_eq_false_iff.mp empty)

theorem solid_exampleTitle (after : Text) (ordinal : Nat) : Solid (exampleTitle after ordinal) := by
  unfold exampleTitle
  exact solid_titleOr ordinal _

theorem solid_cleanTitle (title : Text) (ordinal : Nat) : Solid (cleanTitle title ordinal) := by
  rw [cleanTitle]
  cases exampleMarker? title with
  | none => exact solid_titleOr ordinal _
  | some after => exact solid_exampleTitle after ordinal

theorem wellFormed_entryOf {title : Text} (solid : Solid title) (chain : List Example.Strategy)
    (body : Text) : (entryOf title (Example.classify chain body)).WellFormed := by
  obtain ⟨ls, plain, code, mode⟩ := exists_joined chain body
  have edges := edges_joinTrimmed plain
  rw [← code] at edges
  exact ⟨solid, mode, (Example.divides_classify chain body).noCode, edges⟩

theorem solid_markedExamples {ordinal : Nat} {ls : List Text} {e : Text × Text}
    (mem : e ∈ markedExamples ordinal ls) : Solid e.1 := by
  induction ls generalizing ordinal with
  | nil => simp [markedExamples] at mem
  | cons line rest ih =>
    rw [markedExamples] at mem
    cases marker : exampleMarker? line with
    | none =>
      rw [marker] at mem
      exact ih mem
    | some after =>
      simp only [marker, List.mem_cons] at mem
      rcases mem with here | later
      · have title : e.1 = exampleTitle after ordinal := by rw [here]
        rw [title]
        exact solid_exampleTitle after ordinal
      · exact ih later

theorem solid_examplesOf {s : Text} {e : Text × Text} (mem : e ∈ examplesOf s) : Solid e.1 := by
  unfold examplesOf at mem
  extract_lets ls body at mem
  split at mem
  case isTrue => exact solid_markedExamples mem
  case isFalse =>
    split at mem
    case isTrue => contradiction
    case isFalse =>
      rw [List.mem_singleton.mp mem]
      exact solid_numberedTitle 1

theorem wellFormed_dumpExamples {s : Text} {e : ExampleEntry} (mem : e ∈ dumpExamples s) :
    e.WellFormed := by
  obtain ⟨parts, marked, rfl⟩ := List.mem_map.mp mem
  exact wellFormed_entryOf (solid_examplesOf marked) _ parts.2

theorem wellFormed_objectExample (index : Nat) (raw : HelpObject.RawExample) :
    (objectExample index raw).WellFormed := by
  -- remarks that came with the example change nothing but the remarks
  have title := solid_cleanTitle raw.title (index + 1)
  have entry := wellFormed_entryOf title Example.defaultChain raw.body
  exact ⟨entry.title, entry.mode, entry.noCode, entry.edges⟩

namespace HelpObject

theorem solid_textAt {j : Json} {keys : List Text} {t : Text} (text : textAt j keys = some t) :
    Solid t := by
  obtain ⟨node, -, text⟩ := Option.bind_eq_some_iff.mp text
  exact solid_textOf node text

theorem solid_textAmong {j : Json} {chains : List (List Text)} {t : Text}
    (text : textAmong j chains = some t) : Solid t := by
  obtain ⟨keys, -, text⟩ := List.exists_of_findSome?_eq_some text
  exact solid_textAt text

theorem wellFormed_aliases {j : Json} {a : Text} (mem : a ∈ aliases j) :
    Solid a ∧ sameName a "none" = false := by
  rw [aliases] at mem
  split at mem
  · obtain ⟨text, -, mem⟩ := List.mem_flatMap.mp mem
    exact wellFormed_aliasesOf mem
  · rename_i other _ _
    cases text : textOf other with
    | none => simp [text] at mem
    | some t =>
      rw [text, Option.map_some, Option.getD_some] at mem
      exact wellFormed_aliasesOf mem
  · contradiction

theorem wellFormed_parameter? {j : Json} {p : Parameter} (read : parameter? j = some p) :
    p.WellFormed := by
  obtain ⟨name, -, read⟩ := Option.bind_eq_some_iff.mp read
  cases Option.some.inj read
  constructor
  · exact fun a mem => wellFormed_aliases mem
  · exact fun empty => (solid_textAt empty).nonempty rfl
  · intro d mem
    obtain ⟨text, kept⟩ := Option.filter_eq_some_iff.mp mem
    exact ⟨(solid_textAt text).nonempty, by simpa using kept⟩

theorem wellFormed_filterMap {items : List Json} {p : Parameter}
    (mem : p ∈ items.filterMap parameter?) : p.WellFormed := by
  obtain ⟨item, -, read⟩ := List.mem_filterMap.mp mem
  exact wellFormed_parameter? read

theorem wellFormed_usages {j : Json} {catalogue : List Parameter}
    (each : ∀ p ∈ catalogue, p.WellFormed) {s : SyntaxSet} (mem : s ∈ usages j catalogue) :
    s.WellFormed := by
  obtain ⟨i, inside, rfl⟩ := List.mem_mapIdx.mp mem
  refine SyntaxSet.wellFormed_ofParameters _ fun p shown => ?_
  obtain ⟨own, read, rfl⟩ := List.mem_map.mp shown
  have plain : own.WellFormed := wellFormed_filterMap read
  rw [enriched]
  cases entry : findParameter catalogue own.name with
  | none => exact plain
  | some e => exact plain.enrichedFrom (each e (List.mem_of_find?_eq_some entry))

theorem solid_labelOf {j : Json} {chains : List (List Text)} {t : Text}
    (label : labelOf j chains = some t) : Solid t := by
  cases j with
  | str s => exact solid_textOf (.str s) label
  | null | bool | num | arr | obj => exact solid_textAmong label

theorem solid_typeEntry {items : List Json} {t : TypeEntry} (mem : t ∈ items.filterMap typeEntry?) :
    Solid t.name := by
  obtain ⟨item, -, read⟩ := List.mem_filterMap.mp mem
  obtain ⟨name, label, rfl⟩ := Option.map_eq_some_iff.mp read
  exact solid_labelOf label

end HelpObject

theorem wellFormed_pageOfObject {j : Json} {dump : Option Dump} {page : Page}
    (found : pageOfObject j dump = some page) : page.WellFormed := by
  obtain ⟨name, named, rfl⟩ := Option.map_eq_some_iff.mp found
  have catalogue : ∀ p ∈ HelpObject.parameters j, p.WellFormed := fun p mem =>
    HelpObject.wellFormed_filterMap mem
  refine ⟨HelpObject.solid_textAmong named, fun s mem => HelpObject.wellFormed_usages catalogue mem,
    catalogue, fun e mem => ?_, fun t mem => HelpObject.solid_typeEntry mem,
    fun t mem => HelpObject.solid_typeEntry mem⟩
  simp only [examplesFor] at mem
  split at mem
  · exact wellFormed_dumpExamples mem
  · obtain ⟨i, inside, rfl⟩ := List.mem_mapIdx.mp mem
    exact wellFormed_objectExample i _

theorem words_dark (s : Text) : ∀ w ∈ words s, w ≠ [] ∧ ∀ c ∈ w, isWhite c = false := by
  have alone {c : Char} (dark : ¬isWhite c = true) : [c] ≠ [] ∧ ∀ d ∈ [c], isWhite d = false := by
    simpa using dark
  fun_induction words s with
  | case1 => simp
  | case2 c rest white ih => exact ih
  | case3 c dark => exact List.forall_mem_singleton.mpr (alone dark)
  | case4 c dark d more white ih => exact List.forall_mem_cons.mpr ⟨alone dark, ih⟩
  | case5 c dark d more _ none =>
    rw [none]
    exact List.forall_mem_singleton.mpr (alone dark)
  | case6 c dark d more _ word others found ih =>
    rw [found, List.forall_mem_cons] at ih
    rw [found]
    have longer : ∀ e ∈ c :: word, isWhite e = false :=
      List.forall_mem_cons.mpr ⟨by simpa using dark, ih.1.2⟩
    exact List.forall_mem_cons.mpr ⟨⟨List.cons_ne_nil c word, longer⟩, ih.2⟩

theorem solid_of_mem_words {s w : Text} (mem : w ∈ words s) : Solid w :=
  have dark := words_dark s w mem
  solid_of_forall dark.1 dark.2

theorem mem_of_mem_lines_unlines {ls : List Text} {line : Text}
    (plain : ∀ l ∈ ls, '\n' ∉ l ∧ endedLine l = l) (mem : line ∈ (unlines ls).lines) :
    line ∈ ls := by
  induction ls with
  | nil => contradiction
  | cons l rest ih =>
    rw [List.forall_mem_cons] at plain
    cases rest with
    | nil =>
      by_cases empty : l = []
      case pos =>
        rw [empty] at mem
        contradiction
      case neg => rwa [unlines_singleton, lines_of_notMem plain.1.1 empty] at mem
    | cons m more =>
      rw [unlines_cons_cons, lines_append_newline plain.1.1, plain.1.2] at mem
      rcases List.mem_cons.mp mem with rfl | later
      · exact List.mem_cons_self
      · exact List.mem_cons_of_mem l (ih plain.2 later)

theorem exists_of_mem_lines_paragraph {s line : Text} (mem : line ∈ (paragraph s).lines) :
    ∃ l, trim l = line := by
  have within : dropEndWhile List.isEmpty (collapse true (s.lines.map trim)) ⊆ s.lines.map trim := by
    rw [dropEndWhile_eq_rdropWhile]
    have front := List.rdropWhile_prefix List.isEmpty (collapse true (s.lines.map trim))
    exact List.Subset.trans front.subset (collapse_sublist true _).subset
  -- no line ends in a carriage return, since all are trimmed, so each is read back as it is
  have among := mem_of_mem_lines_unlines (fun k inside => ?_) mem
  · obtain ⟨l, -, trimmed⟩ := List.mem_map.mp (within among)
    exact ⟨l, trimmed⟩
  · obtain ⟨l, line, rfl⟩ := List.mem_map.mp (within inside)
    exact ⟨newline_notMem_trim (newline_notMem_of_mem_lines line), endedLine_trim l⟩

theorem solid_declaredName {d : Dump} {name : Text} (declared : declaredName d = some name) :
    Solid name := by
  obtain ⟨line, first, text⟩ := Option.bind_eq_some_iff.mp declared
  obtain ⟨rfl, nonempty⟩ := nonEmpty_eq_some text
  obtain ⟨body, -, first⟩ := Option.bind_eq_some_iff.mp first
  obtain ⟨l, rfl⟩ := exists_of_mem_lines_paragraph (List.mem_of_head? first)
  exact solid_trim nonempty

theorem wellFormed_usageParameters {depth : Nat} {opened : Bool} {ts : List UsageToken}
    {p : Parameter} (mem : p ∈ usageParameters depth opened ts) : p.WellFormed := by
  fun_induction usageParameters depth opened ts with
  | case1 => contradiction
  | case2 depth opened rest ih => exact ih mem
  | case3 depth opened rest ih => exact ih mem
  | case4 depth opened token rest _ _ _ ih => exact ih mem
  | case5 depth opened token rest _ _ name _ after inner _ ih =>
    rcases List.mem_cons.mp mem with rfl | later
    · exact Parameter.wellFormed_plain rfl rfl rfl
    · exact ih later

theorem SyntaxSet.wellFormed_of_mem_usages {s command : Text} {u : SyntaxSet}
    (mem : u ∈ Help.usages s command) : u.WellFormed := by
  obtain ⟨i, inside, rfl⟩ := List.mem_mapIdx.mp mem
  exact wellFormed_ofParameters _ fun p shown => wellFormed_usageParameters shown

theorem wellFormed_parameterHeader? {line : Text} {p : Parameter}
    (header : parameterHeader? line = some p) : p.WellFormed := by
  simp only [parameterHeader?, Option.bind_eq_bind, Option.bind_eq_some_iff, guard] at header
  obtain ⟨rest, -, _, -, read⟩ := header
  split at read
  case isTrue =>
    cases Option.some.inj read
    exact Parameter.wellFormed_plain rfl rfl rfl
  case isFalse =>
    obtain ⟨type, -, read⟩ := Option.bind_eq_some_iff.mp read
    cases Option.some.inj read
    exact Parameter.wellFormed_plain rfl rfl rfl

theorem Parameter.WellFormed.apply {p : Parameter} (h : p.WellFormed) (a : Attribute × Text) :
    (Attribute.apply p a).WellFormed := by
  obtain ⟨a, v⟩ := a
  cases a with
  | required | pipelineInput | wildcards => exact ⟨h.aliases, h.position, h.defaultValue⟩
  | position =>
    refine ⟨h.aliases, fun empty => ?_, h.defaultValue⟩
    obtain ⟨same, nonempty⟩ := nonEmpty_eq_some empty
    exact nonempty same.symm
  | defaultValue =>
    refine ⟨h.aliases, h.position, fun d mem => ?_⟩
    obtain ⟨text, kept⟩ := Option.filter_eq_some_iff.mp mem
    obtain ⟨rfl, nonempty⟩ := nonEmpty_eq_some text
    exact ⟨nonempty, by simpa using kept⟩
  | aliases => exact ⟨fun _ mem => wellFormed_aliasesOf mem, h.position, h.defaultValue⟩

theorem Parameter.WellFormed.withBlock {p : Parameter} (h : p.WellFormed) (ls : List Text) :
    (p.withBlock ls).WellFormed := by
  have read (found : List (Attribute × Text)) : (found.foldl Attribute.apply p).WellFormed := by
    induction found generalizing p with
    | nil => exact h
    | cons a rest ih => exact ih (h.apply a)
  have set := read (ls.filterMap Attribute.ofLine?)
  exact ⟨set.aliases, set.position, set.defaultValue⟩

theorem wellFormed_parameterBlocks {ls : List Text} {p : Parameter} (mem : p ∈ parameterBlocks ls) :
    p.WellFormed := by
  fun_induction parameterBlocks ls with
  | case1 => contradiction
  | case2 line rest q header ih =>
    rcases List.mem_cons.mp mem with rfl | later
    · exact (wellFormed_parameterHeader? header).withBlock _
    · exact ih later
  | case3 line rest none ih => exact ih mem

theorem mem_groups (ls : List Text) : ∀ g ∈ groups ls, ∀ l ∈ g, l ∈ ls ∧ l ≠ [] := by
  have later {gs : List (List Text)} {ls : List Text} (line : Text)
      (inner : ∀ g ∈ gs, ∀ l ∈ g, l ∈ ls ∧ l ≠ []) : ∀ g ∈ gs, ∀ l ∈ g, l ∈ line :: ls ∧ l ≠ [] :=
    fun g mem l inside =>
      ⟨List.mem_cons_of_mem line (inner g mem l inside).1, (inner g mem l inside).2⟩
  fun_induction groups ls with
  | case1 => simp
  | case2 line rest _ ih => exact later line ih
  | case3 line text => simpa using text
  | case4 line text next more _ ih =>
    exact List.forall_mem_cons.mpr ⟨by simpa using text, later line ih⟩
  | case5 line text next more _ none =>
    rw [none]
    simpa using text
  | case6 line text next more _ g gs found ih =>
    rw [found] at ih ⊢
    have inner := List.forall_mem_cons.mp (later line ih)
    have first : line ∈ line :: next :: more ∧ line ≠ [] := ⟨List.mem_cons_self, by simpa using text⟩
    exact List.forall_mem_cons.mpr ⟨List.forall_mem_cons.mpr ⟨first, inner.1⟩, inner.2⟩

theorem solid_typesOf {s : Text} {t : TypeEntry} (mem : t ∈ typesOf s) : Solid t.name := by
  obtain ⟨g, grouped, named⟩ := List.mem_filterMap.mp mem
  cases g with
  | nil => contradiction
  | cons name rest =>
    cases Option.some.inj named
    obtain ⟨line, nonempty⟩ := mem_groups _ _ grouped name List.mem_cons_self
    obtain ⟨l, -, rfl⟩ := List.mem_map.mp line
    exact solid_trim nonempty

theorem Capture.solid_hint {c : Capture} {name : Text} (hint : c.hint = some name) : Solid name := by
  obtain ⟨t, given, text⟩ := Option.bind_eq_some_iff.mp hint
  obtain ⟨s, -, rfl⟩ := Option.map_eq_some_iff.mp given
  obtain ⟨rfl, nonempty⟩ := nonEmpty_eq_some text
  exact solid_trim nonempty

theorem wellFormed_pageOfDump {d : Dump} {hint : Option Text} {page : Page}
    (hinted : ∀ name ∈ hint, Solid name) (found : pageOfDump d hint = some page) :
    page.WellFormed := by
  obtain ⟨name, named, rfl⟩ := Option.map_eq_some_iff.mp found
  refine ⟨?_, fun s mem => SyntaxSet.wellFormed_of_mem_usages mem,
    fun p mem => wellFormed_parameterBlocks mem, fun e mem => wellFormed_dumpExamples mem,
    fun t mem => solid_typesOf mem, fun t mem => solid_typesOf mem⟩
  rcases Option.or_eq_some_iff.mp named with known | ⟨-, given⟩
  · rcases Option.or_eq_some_iff.mp known with declared | ⟨-, used⟩
    · exact solid_declaredName declared
    · exact solid_of_mem_words (List.mem_of_head? used)
  · exact hinted name given

theorem page?_wellFormed {c : Capture} {page : Page} (found : c.page? = some page) :
    page.WellFormed := by
  rcases Option.or_eq_some_iff.mp found with known | ⟨-, bare⟩
  · rcases Option.or_eq_some_iff.mp known with object | ⟨-, dumped⟩
    · split at object
      case h_1 => exact wellFormed_pageOfObject object
      case h_2 => contradiction
    · obtain ⟨d, -, read⟩ := Option.bind_eq_some_iff.mp dumped
      exact wellFormed_pageOfDump (fun name hint => Capture.solid_hint hint) read
  · obtain ⟨name, hint, rfl⟩ := Option.map_eq_some_iff.mp bare
    exact ⟨Capture.solid_hint hint, by simp, by simp, by simp, by simp, by simp⟩

def getItemDump : Text :=
  unlines ["NAME", "  Get-Item", "PARAMETERS", "-Path <String>", "Default value None",
    "Aliases none, PSPath", "EXAMPLES", "", "PS> Get-Item .", ""]

def getItemPage : Page where
  name := "Get-Item"
  parameters := [{ name := "Path", typeName := "String", aliases := ["PSPath"] }]
  examples := [⟨"Example 1", "PS> Get-Item .", [], "prompt-priority"⟩]

theorem page?_wellFormed_getItem :
    Capture.page? { raw := some getItemDump } = some getItemPage ∧ getItemPage.WellFormed := by
  have read : Capture.page? { raw := some getItemDump } = some getItemPage := by decide +kernel
  exact ⟨read, page?_wellFormed read⟩

end ModuleDocs.Help
