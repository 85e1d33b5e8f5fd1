import ModuleDocs.Help.Blocks
import ModuleDocs.Proofs.Help.Layout
import ModuleDocs.Proofs.Help.ParameterBlocks
import ModuleDocs.Proofs.Help.UsageParts

/-! Parameter blocks written and read back. A block gives a parameter by a header, the lines of its
description, and a line for each attribute that it has. Read in any order, the attribute lines put
together what the parameter gives: each of them takes over one field. -/
namespace ModuleDocs.Help
open Text

/-- What a block can say: the name is a word, texts are trimmed, and nothing in the description reads as
a line of another sort. -/
structure Parameter.Writable (p : Parameter) : Prop where
  named : p.name ≠ []
  word : p.name.all (fun c => isAlphanumeric c || c == '_') = true
  typeName : trim p.typeName = p.typeName
  description : paragraph p.description = p.description
  plain : ∀ l ∈ p.description.lines, parameterHeader? l = none ∧ Attribute.ofLine? l = none
  position : ∀ v ∈ p.position, Solid v
  defaultValue : ∀ v ∈ p.defaultValue, Solid v ∧ sameName v "none" = false
  pipelineInput : trim p.pipelineInput = p.pipelineInput
  aliases : ∀ a ∈ p.aliases, Solid a ∧ ',' ∉ a ∧ sameName a "none" = false

def FlagWord (b : Bool) (v : Text) : Prop :=
  sameName v (if b then "true" else "false") = true ∨ sameName v (if b then "yes" else "no") = true

/-- The parameter has the attribute, and the text is its value. Aliases stand between commas, with or
without white space around them. -/
def Parameter.Gives (p : Parameter) : Attribute → Text → Prop
  | .required, v => ∃ b, p.required = some b ∧ FlagWord b v
  | .position, v => p.position = some v
  | .defaultValue, v => p.defaultValue = some v
  | .pipelineInput, v => p.pipelineInput = v ∧ v ≠ []
  | .wildcards, v => ∃ b, p.supportsWildcards = some b ∧ FlagWord b v
  | .aliases, v => p.aliases ≠ [] ∧ ∃ parts, parts.map trim = p.aliases ∧ v = List.intercalate [','] parts

/-- A line that gives a value behind the label of an attribute, in any letter case and with any
indentation. -/
structure AttributeLine where
  kind : Attribute
  label : Text
  gap : Gap
  value : Text
  line : Text
  named : sameName label kind.label = true
  solid : Solid value
  shown : trim line = label ++ (gap.text ++ value)

def angled (type : Text) : Text := '<' :: (type ++ ['>'])

/-- A type as headers show it. -/
def typeStyles (type : Text) : List Text := [angled type, bracketed (angled type)]

/-- The line is the header: `-Name` without a type, else `-Name <Type>` or `-Name [<Type>]`. -/
def Parameter.HeadedBy (p : Parameter) (line : Text) : Prop :=
  if p.typeName = [] then trim line = '-' :: p.name
  else ∃ gap : Gap, ∃ style ∈ typeStyles p.typeName,
    trim line = '-' :: (p.name ++ (gap.text ++ style))

/-- A parameter and the lines that say it: header, description, and the attributes that it has in any
order. Blank lines may stand between and behind them. -/
structure ParameterBlock where
  parameter : Parameter
  header : Text
  description : List Text
  between : List Text
  attributes : List AttributeLine
  behind : List Text
  writable : parameter.Writable
  headed : parameter.HeadedBy header
  described : description.map trim = parameter.description.lines
  blank : ∀ l ∈ between ++ behind, isBlank l = true
  given : ∀ e ∈ attributes, parameter.Gives e.kind e.value
  complete : ∀ a v, parameter.Gives a v → a ∈ attributes.map (·.kind)

def ParameterBlock.lines (b : ParameterBlock) : List Text :=
  b.header :: (b.description ++ b.between ++ b.attributes.map (·.line) ++ b.behind)

theorem between?_self {left right : Char} (s : Text) :
    between? left right (left :: (s ++ [right])) = some s := by
  simp [between?, Text.stripSuffix?, List.isSuffixOf?, List.isPrefixOf?]

theorem isWhite_of_word {s : Text} (word : s.all (fun c => isAlphanumeric c || c == '_') = true)
    {c : Char} (mem : c ∈ s) : isWhite c = false := by
  have here := List.all_eq_true.mp word c mem
  rw [Bool.or_eq_true, beq_iff_eq] at here
  rw [← Bool.not_eq_true]
  intro white
  rcases here with letter | rfl
  · rw [isAlphanumeric_of_isWhite white] at letter
    contradiction
  · exact absurd white (by decide)

theorem parameterHeader?_word {name : Text} (named : name ≠ [])
    (word : name.all (fun c => isAlphanumeric c || c == '_') = true) {rest : Text}
    (stops : Stops (fun c => !isWhite c) rest) {inner : Text}
    (style : (between? '[' ']' (trim rest)).getD (trim rest) = inner) :
    parameterHeader? ('-' :: (name ++ rest)) =
      if inner.isEmpty then some { name }
      else (between? '<' '>' inner).map fun type => { name, typeName := trim type } := by
  -- no white space in the name and some behind it: the name is what is taken
  have run := stops.run (a := name) fun c mem => by simp [isWhite_of_word word mem]
  have all : (!name.isEmpty && name.all (fun c => isAlphanumeric c || c == '_')) = true := by
    simp [named, word]
  have dash : Text.stripPrefix? ('-' :: (name ++ rest)) "-" = some (name ++ rest) := by
    simp [Text.stripPrefix?, List.isPrefixOf?]
  simp only [parameterHeader?, dash, Option.bind_eq_bind, Option.bind_some, run.1, List.drop_left,
    all, style, guard, if_true]
  cases inner.isEmpty with
  | true => rfl
  | false =>
    cases between? '<' '>' inner <;> rfl

theorem solid_angled (type : Text) : Solid (angled type) :=
  solid_between (by decide) (by decide) type

theorem between?_style {type style : Text} (shown : style ∈ typeStyles type) {gap : Text}
    (blank : isBlank gap = true) :
    (between? '[' ']' (trim (gap ++ style))).getD (trim (gap ++ style)) = angled type := by
  rw [trim_append_left blank]
  rcases List.mem_pair.mp shown with rfl | rfl
  · rw [(solid_angled type).trim_eq]
    rfl
  · rw [(solid_bracketed _).trim_eq, bracketed, between?_self, Option.getD_some]

theorem Parameter.HeadedBy.parameterHeader?_eq {p : Parameter} {line : Text} (headed : p.HeadedBy line)
    (writable : p.Writable) :
    parameterHeader? (trim line) = some { name := p.name, typeName := p.typeName } := by
  have header := @parameterHeader?_word p.name writable.named writable.word
  unfold HeadedBy at headed
  split at headed
  case isTrue untyped =>
    have bare := header (Stops.nil _) rfl
    rw [List.append_nil] at bare
    rw [headed, bare, untyped]
    rfl
  case isFalse typed =>
    obtain ⟨gap, style, shown, line⟩ := headed
    have stops : Stops (fun c => !isWhite c) (gap.text ++ style) :=
      gap.stops (fun white => by simp [white]) style
    rw [line, header stops (between?_style shown gap.blank), angled, if_neg (by simp), between?_self,
      Option.map_some, writable.typeName]

namespace Attribute

theorem label_injective {a b : Attribute} (front : a.label <+: b.label) : a = b := by
  revert front
  cases a <;> cases b <;> decide

theorem lowerAscii_label (a : Attribute) : lowerAscii a.label = a.label := by
  cases a <;> decide

theorem label_begins_of_sameName {a : Attribute} {line : Text}
    (named : sameName (line.take a.label.length) a.label = true) : a.label <+: lowerAscii line := by
  have same : (lowerAscii line).take a.label.length = a.label :=
    calc (lowerAscii line).take a.label.length
        = lowerAscii (line.take a.label.length) := List.map_take.symm
      _ = a.label := by rw [sameName_iff.mp named, lowerAscii_label]
  exact same ▸ List.take_prefix _ _

variable {a : Attribute} {label v : Text} {gap : Gap} (named : sameName label a.label = true)
include named

theorem take_label (rest : Text) : (label ++ rest).take a.label.length = label ∧
    (label ++ rest).drop a.label.length = rest := by
  rw [← length_of_sameName named]
  exact ⟨List.take_left, List.drop_left⟩

theorem label_begins (rest : Text) : a.label <+: lowerAscii (label ++ rest) :=
  label_begins_of_sameName (by rwa [(take_label named rest).1])

theorem valueIn?_self (solid : Solid v) : a.valueIn? (label ++ (gap.text ++ v)) = some v := by
  obtain ⟨take, drop⟩ := take_label named (gap.text ++ v)
  have stops : Stops (· == ':') (gap.text ++ v) :=
    gap.stops (fun {c} white => by
      rw [beq_eq_false_iff_ne]
      rintro rfl
      exact absurd white (by decide)) v
  have delimited : (gap.text ++ v).head?.all (fun c => isWhite c || c == ':') = true := by
    obtain ⟨c, rest, begins⟩ := List.exists_cons_of_ne_nil gap.nonempty
    have blank := gap.blank
    rw [begins, isBlank_cons, Bool.and_eq_true] at blank
    simp [begins, blank.1]
  have noColon : (gap.text ++ v).dropWhile (· == ':') = gap.text ++ v :=
    (Stops.run (a := []) (by simp) stops).2
  simp only [valueIn?, take, drop, named, delimited, noColon, Bool.and_self, if_true,
    trim_append_left gap.blank, solid.trim_eq]

theorem valueIn?_other {b : Attribute} (other : b ≠ a) (rest : Text) :
    b.valueIn? (label ++ rest) = none := by
  rw [valueIn?, if_neg]
  rintro read
  rw [Bool.and_eq_true] at read
  -- a line that begins with two labels would make one of them begin with the other
  rcases List.prefix_or_prefix_of_prefix (label_begins_of_sameName read.1) (label_begins named rest) with
    front | front
  · exact other (label_injective front)
  · exact other (label_injective front).symm

theorem ofLine?_written (solid : Solid v) : ofLine? (label ++ (gap.text ++ v)) = some (a, v) := by
  have listed : a ∈ all := by cases a <;> decide
  obtain ⟨front, back, split, absent⟩ := List.eq_append_cons_of_mem listed
  rw [ofLine?, List.findSome?_eq_some_iff]
  refine ⟨front, a, back, split, ?_, fun b mem => ?_⟩
  · rw [valueIn?_self named solid, Option.map_some]
  · have other : b ≠ a := fun same => absent (same ▸ mem)
    rw [valueIn?_other named other, Option.map_none]

theorem parameterHeader?_written (rest : Text) : parameterHeader? (label ++ rest) = none := by
  have nonempty : a.label ≠ [] := by cases a <;> decide
  have undashed : a.label.head? ≠ some '-' := by cases a <;> decide
  rw [Option.eq_none_iff_forall_ne_some]
  intro p header
  obtain ⟨more, begins, -⟩ := parameterHeader?_eq_some header
  obtain ⟨t, front⟩ := label_begins named rest
  rw [begins] at front
  have first : (a.label ++ t).head? = a.label.head? := List.head?_append_of_ne_nil _ nonempty
  exact undashed (by rw [← first, front]; rfl)

end Attribute

theorem FlagWord.flagOf_eq {b : Bool} {v : Text} (word : FlagWord b v) (solid : Solid v) :
    flagOf v = some b := by
  rcases word with same | same
  · simp only [flagOf, solid.trim_eq, sameName_iff.mp same]
    cases b <;> rfl
  · simp only [flagOf, solid.trim_eq, sameName_iff.mp same]
    cases b <;> rfl

theorem aliasesOf_parts {aliases parts : List Text} (written : parts.map trim = aliases)
    (each : ∀ a ∈ aliases, Solid a ∧ ',' ∉ a ∧ sameName a "none" = false) (some : aliases ≠ []) :
    aliasesOf (List.intercalate [','] parts) = aliases := by
  have plain : ∀ s ∈ parts, ',' ∉ s := by
    intro s mem comma
    have trimmed : trim s ∈ aliases := written ▸ List.mem_map_of_mem mem
    exact (each _ trimmed).2.1 (mem_trim (by decide) comma)
  have nonempty : parts ≠ [] := by
    rintro rfl
    exact some written.symm
  rw [aliasesOf, splitOn_intercalate plain nonempty, written, List.filter_eq_self]
  intro a mem
  obtain ⟨solid, -, ordinary⟩ := each a mem
  simpa [solid.nonempty] using ordinary

def Parameter.only (p : Parameter) (known : List Attribute) : Parameter where
  name := p.name
  typeName := p.typeName
  position := if .position ∈ known then p.position else none
  required := if .required ∈ known then p.required else none
  pipelineInput := if .pipelineInput ∈ known then p.pipelineInput else []
  supportsWildcards := if .wildcards ∈ known then p.supportsWildcards else none
  defaultValue := if .defaultValue ∈ known then p.defaultValue else none
  aliases := if .aliases ∈ known then p.aliases else []

section

variable {p : Parameter} (writable : p.Writable)
include writable

theorem Parameter.apply_only {a : Attribute} {v : Text} (gives : p.Gives a v) (solid : Solid v)
    (known : List Attribute) : Attribute.apply (p.only known) (a, v) = p.only (a :: known) := by
  cases a with
  | required =>
    obtain ⟨b, field, word⟩ := gives
    simp [Attribute.apply, only, field, word.flagOf_eq solid]
  | position =>
    simp [Attribute.apply, only, nonEmpty, solid.nonempty, show p.position = some v from gives]
  | defaultValue =>
    have ordinary := (writable.defaultValue v gives).2
    have field : (nonEmpty v).filter (fun d => !sameName d "none") = p.defaultValue := by
      rw [nonEmpty, if_neg (by simp [solid.nonempty]), Option.filter_some, ordinary]
      exact gives.symm
    simp only [Attribute.apply, field]
    simp [only]
  | pipelineInput =>
    simp [Attribute.apply, only, gives.1]
  | wildcards =>
    obtain ⟨b, field, word⟩ := gives
    simp [Attribute.apply, only, field, word.flagOf_eq solid]
  | aliases =>
    obtain ⟨some, parts, written, rfl⟩ := gives
    simp [Attribute.apply, only, aliasesOf_parts written writable.aliases some]

theorem Parameter.foldl_apply_only {lines : List (Attribute × Text)}
    (gives : ∀ l ∈ lines, p.Gives l.1 l.2 ∧ Solid l.2) (known : List Attribute) :
    lines.foldl Attribute.apply (p.only known) = p.only ((lines.map (·.1)).reverse ++ known) := by
  induction lines generalizing known with
  | nil => rfl
  | cons l rest ih =>
    obtain ⟨⟨first, solid⟩, later⟩ := List.forall_mem_cons.mp gives
    rw [List.foldl_cons, apply_only writable first solid, ih later]
    simp

end

theorem ite_of_silent {α : Type} {c : Prop} [Decidable c] {x d : α} (silent : ¬ c → x = d) :
    (if c then x else d) = x := by
  split
  case isTrue => rfl
  case isFalse unknown => exact (silent unknown).symm

theorem eq_none_of_flag {o : Option Bool} (unsaid : ∀ b v, o = some b → ¬ FlagWord b v) : o = none := by
  cases o with
  | none => rfl
  | some b => exact absurd (Or.inl (sameName_refl _)) (unsaid b _ rfl)

theorem Parameter.only_eq_self {p : Parameter} (writable : p.Writable) {known : List Attribute}
    (complete : ∀ a v, p.Gives a v → a ∈ known) : p.only known = { p with description := [] } := by
  have silent (a : Attribute) (unknown : a ∉ known) (v : Text) : ¬ p.Gives a v :=
    fun gives => unknown (complete a v gives)
  have position (unknown : .position ∉ known) : p.position = none :=
    Option.eq_none_iff_forall_ne_some.mpr (silent .position unknown)
  have required (unknown : .required ∉ known) : p.required = none :=
    eq_none_of_flag fun b v field word => silent .required unknown v ⟨b, field, word⟩
  have pipelineInput (unknown : .pipelineInput ∉ known) : p.pipelineInput = [] :=
    Classical.not_not.mp fun given => silent .pipelineInput unknown _ ⟨rfl, given⟩
  have wildcards (unknown : .wildcards ∉ known) : p.supportsWildcards = none :=
    eq_none_of_flag fun b v field word => silent .wildcards unknown v ⟨b, field, word⟩
  have defaultValue (unknown : .defaultValue ∉ known) : p.defaultValue = none :=
    Option.eq_none_iff_forall_ne_some.mpr (silent .defaultValue unknown)
  have aliases (unknown : .aliases ∉ known) : p.aliases = [] := by
    have trimmed : p.aliases.map trim = p.aliases :=
      (List.map_congr_left fun a mem => (writable.aliases a mem).1.trim_eq).trans (List.map_id _)
    exact Classical.not_not.mp fun given => silent .aliases unknown _ ⟨given, _, trimmed, rfl⟩
  simp only [only, ite_of_silent position, ite_of_silent required, ite_of_silent pipelineInput,
    ite_of_silent wildcards, ite_of_silent defaultValue, ite_of_silent aliases]

namespace AttributeLine

variable (e : AttributeLine)

theorem ofLine?_eq : Attribute.ofLine? (trim e.line) = some (e.kind, e.value) := by
  rw [e.shown]
  exact Attribute.ofLine?_written e.named e.solid

theorem parameterHeader?_eq : parameterHeader? (trim e.line) = none := by
  rw [e.shown]
  exact Attribute.parameterHeader?_written e.named _

end AttributeLine

namespace ParameterBlock

variable (b : ParameterBlock)

def tail : List Text :=
  b.between.map trim ++ b.attributes.map (fun e => trim e.line) ++ b.behind.map trim

def below : List Text := b.parameter.description.lines ++ b.tail

theorem map_trim_lines : b.lines.map trim = trim b.header :: b.below := by
  simp only [lines, below, tail, ← b.described, List.map_cons, List.map_append, List.map_map,
    List.append_assoc]
  rfl

theorem mem_tail {l : Text} (mem : l ∈ b.tail) : l = [] ∨ ∃ e ∈ b.attributes, trim e.line = l := by
  obtain ⟨between, behind⟩ := List.forall_mem_append.mp b.blank
  rw [tail, List.mem_append, List.mem_append] at mem
  rcases mem with (mem | mem) | mem
  · exact .inl (eq_nil_of_mem_blank between mem)
  · exact .inr (List.mem_map.mp mem)
  · exact .inl (eq_nil_of_mem_blank behind mem)

theorem parameterHeader?_below : ∀ l ∈ b.below, parameterHeader? l = none := by
  intro l mem
  rcases List.mem_append.mp mem with mem | mem
  · exact (b.writable.plain l mem).1
  · rcases b.mem_tail mem with rfl | ⟨e, -, rfl⟩
    · rfl
    · exact e.parameterHeader?_eq

theorem filterMap_below :
    b.below.filterMap Attribute.ofLine? = b.attributes.map fun e => (e.kind, e.value) := by
  obtain ⟨between, behind⟩ := List.forall_mem_append.mp b.blank
  have description : b.parameter.description.lines.filterMap Attribute.ofLine? = [] :=
    List.filterMap_eq_nil_iff.mpr fun l mem => (b.writable.plain l mem).2
  have gap {ls : List Text} (blank : ∀ l ∈ ls, isBlank l = true) :
      (ls.map trim).filterMap Attribute.ofLine? = [] :=
    List.filterMap_eq_nil_iff.mpr fun l mem => by rw [eq_nil_of_mem_blank blank mem]; rfl
  have attributes : (b.attributes.map fun e => trim e.line).filterMap Attribute.ofLine? =
      b.attributes.map fun e => (e.kind, e.value) := by
    rw [List.filterMap_map, ← List.filterMap_eq_map]
    exact List.filterMap_congr fun e _ => e.ofLine?_eq
  rw [below, tail, List.filterMap_append, List.filterMap_append, List.filterMap_append, description,
    gap between, gap behind, attributes, List.nil_append, List.nil_append, List.append_nil]

theorem paragraphOf_below :
    paragraphOf (b.below.filter fun l => (Attribute.ofLine? l).isNone) = b.parameter.description := by
  have own : b.parameter.description.lines.filter (fun l => (Attribute.ofLine? l).isNone) =
      b.parameter.description.lines :=
    List.filter_eq_self.mpr fun l mem => by rw [(b.writable.plain l mem).2]; rfl
  -- what else is no attribute line is blank
  rw [below, List.filter_append, own, paragraphOf_append_blank]
  · exact b.writable.description
  · intro l mem
    obtain ⟨mem, unread⟩ := List.mem_filter.mp mem
    rcases b.mem_tail mem with rfl | ⟨e, -, rfl⟩
    · rfl
    · rw [e.ofLine?_eq] at unread
      contradiction

theorem withBlock_eq :
    Parameter.withBlock { name := b.parameter.name, typeName := b.parameter.typeName } b.below =
      b.parameter := by
  have start : { name := b.parameter.name, typeName := b.parameter.typeName } =
      b.parameter.only [] := by simp [Parameter.only]
  have given : ∀ l ∈ b.attributes.map (fun e => (e.kind, e.value)),
      b.parameter.Gives l.1 l.2 ∧ Solid l.2 := by
    intro l mem
    obtain ⟨e, there, rfl⟩ := List.mem_map.mp mem
    exact ⟨b.given e there, e.solid⟩
  have known : (b.attributes.map fun e => (e.kind, e.value)).map (·.1) =
      b.attributes.map (·.kind) := by rw [List.map_map]; rfl
  rw [Parameter.withBlock, b.filterMap_below, b.paragraphOf_below, start,
    Parameter.foldl_apply_only b.writable given, known, Parameter.only_eq_self b.writable]
  intro a v gives
  rw [List.append_nil, List.mem_reverse]
  exact b.complete a v gives

end ParameterBlock

theorem parameterBlocks_append {body rest : List Text}
    (inside : ∀ l ∈ body, parameterHeader? l = none) :
    parameterBlocks (body ++ rest) = parameterBlocks rest := by
  induction body with
  | nil => rfl
  | cons l more ih =>
    rw [List.forall_mem_cons] at inside
    rw [List.cons_append, parameterBlocks, inside.1]
    exact ih inside.2

/-- Parameters are read back from the blocks that say them. -/
theorem parametersOf_blocks (blocks : List ParameterBlock) {s : Text}
    (written : s.lines = blocks.flatMap ParameterBlock.lines) :
    parametersOf s = blocks.map (·.parameter) := by
  rw [parametersOf, written]
  clear written
  -- block by block: the lines below a header go up to the header of the next block
  induction blocks with
  | nil => rfl
  | cons b rest ih =>
    have header := b.headed.parameterHeader?_eq b.writable
    have stops : Stops (fun l => (parameterHeader? l).isNone)
        ((rest.flatMap ParameterBlock.lines).map trim) := by
      cases rest with
      | nil => exact Stops.nil _
      | cons c more =>
        rw [List.flatMap_cons, List.map_append, c.map_trim_lines, List.cons_append]
        exact Stops.cons (by rw [c.headed.parameterHeader?_eq c.writable]; rfl) _
    have block := (stops.run (a := b.below) fun l mem => by rw [b.parameterHeader?_below l mem]; rfl).1
    rw [List.flatMap_cons, List.map_append, b.map_trim_lines, List.cons_append, parameterBlocks, header]
    simp only [block, parameterBlocks_append b.parameterHeader?_below, ih, b.withBlock_eq, List.map_cons]

def pathBlock : ParameterBlock where
  parameter :=
    { name := "Path", typeName := "String[]", description := "Where to look.\n\nMay be empty.",
      position := some "0", required := some true, aliases := ["PSPath", "LP"] }
  header := "-Path [<String[]>]"
  description := ["    Where to look.", "", "    May be empty."]
  between := [[]]
  attributes :=
    [{ kind := .aliases, label := "ALIASES", gap := ⟨"   ", by decide, by decide⟩,
       value := "PSPath , LP", line := "    ALIASES   PSPath , LP", named := by decide,
       solid := ⟨by decide, by decide, by decide⟩, shown := by decide },
     { kind := .position, label := "Position?", gap := .space, value := "0",
       line := "    Position? 0", named := by decide,
       solid := ⟨by decide, by decide, by decide⟩, shown := by decide },
     { kind := .required, label := "required?", gap := .space, value := "Yes",
       line := "\trequired? Yes", named := by decide,
       solid := ⟨by decide, by decide, by decide⟩, shown := by decide }]
  behind := []
  writable :=
    { named := by decide
      word := by decide
      typeName := by decide
      description := by decide
      plain := by decide
      position := fun v given => by
        cases given
        exact ⟨by decide, by decide, by decide⟩
      defaultValue := fun v given => by cases given
      pipelineInput := rfl
      aliases := by
        simp only [List.forall_mem_cons]
        exact ⟨⟨⟨by decide, by decide, by decide⟩, by decide, by decide⟩,
          ⟨⟨by decide, by decide, by decide⟩, by decide, by decide⟩, by simp⟩ }
  headed := ⟨.space, bracketed (angled "String[]"), by decide, by decide⟩
  described := by decide
  blank := by decide
  given := by
    simp only [List.forall_mem_cons]
    refine ⟨⟨by decide, ["PSPath ", " LP"], by decide, by decide⟩, rfl, ⟨true, rfl, ?_⟩, by simp⟩
    exact .inr (by decide)
  complete := by
    intro a v gives
    cases a with
    | required => decide
    | position => decide
    | aliases => decide
    | defaultValue => cases gives
    | pipelineInput => exact absurd gives.1.symm gives.2
    | wildcards =>
      obtain ⟨b, given, -⟩ := gives
      cases given

def forceBlock : ParameterBlock where
  parameter := { name := "Force", pipelineInput := "False" }
  header := "-Force"
  description := []
  between := [[]]
  attributes :=
    [{ kind := .pipelineInput, label := "Accept pipeline input?", gap := .space, value := "False",
       line := "    Accept pipeline input? False", named := by decide,
       solid := ⟨by decide, by decide, by decide⟩, shown := by decide }]
  behind := [[]]
  writable :=
    { named := by decide
      word := by decide
      typeName := by decide
      description := by decide
      plain := by decide
      position := fun v given => by cases given
      defaultValue := fun v given => by cases given
      pipelineInput := by decide
      aliases := by simp }
  headed := by
    rw [Parameter.HeadedBy, if_pos rfl]
    decide
  described := by decide
  blank := by decide
  given := by
    simp only [List.forall_mem_singleton]
    exact ⟨rfl, by decide⟩
  complete := by
    intro a v gives
    cases a with
    | pipelineInput => decide
    | position => cases gives
    | defaultValue => cases gives
    | aliases => exact absurd rfl gives.1
    | required =>
      obtain ⟨b, given, -⟩ := gives
      cases given
    | wildcards =>
      obtain ⟨b, given, -⟩ := gives
      cases given

theorem parametersOf_blocks_path :
    let s : Text := "-Path [<String[]>]\n    Where to look.\n\n    May be empty.\n\n" ++
      "    ALIASES   PSPath , LP\n    Position? 0\n\trequired? Yes\n" ++
      "-Force\n\n    Accept pipeline input? False\n\n"
    s.lines = [pathBlock, forceBlock].flatMap ParameterBlock.lines ∧
    parametersOf s = [pathBlock.parameter, forceBlock.parameter] := by
  intro s
  have written : s.lines = [pathBlock, forceBlock].flatMap ParameterBlock.lines := by decide
  exact ⟨written, parametersOf_blocks _ written⟩

end ModuleDocs.Help
