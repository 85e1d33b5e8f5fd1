import ModuleDocs.Help.Reader
import ModuleDocs.Proofs.Help.Members
import ModuleDocs.Proofs.Help.Sources
import ModuleDocs.Proofs.Text.Lines

/-! Two shapes of one page. The nested shape keeps most members below others, wraps paragraphs and
writes flags as texts; the flat one has a member for each field, under the names that its producer
prefers. Whatever is written in either shape is read as the same page, its texts trimmed. -/
namespace ModuleDocs.Help
open Text HelpObject

structure ExampleText where
  title : Text
  introduction : Option Text
  code : Text
  remarks : Text

/-- What a page is to say. A text may be any, and an option that is none is not written at all. -/
structure Content where
  name : Text
  synopsis : Text
  description : Text
  usages : List SyntaxSet
  parameters : List Parameter
  examples : List ExampleText
  inputs : List TypeEntry
  outputs : List TypeEntry
  notes : Text
  links : List Link

def paragraphs (s : Text) : Json := .arr [under "Text" (.str s)]

def flagText (b : Bool) : Json := .str (if b then "true" else "false")

def Parameter.nested (p : Parameter) : Members :=
  [("name", some (.str p.name)), ("type", some (under "name" (.str p.typeName))),
   ("description", some (paragraphs p.description)), ("position", p.position.map .str),
   ("required", p.required.map flagText), ("globbing", p.supportsWildcards.map flagText),
   ("pipelineInput", some (.str p.pipelineInput)), ("defaultValue", p.defaultValue.map .str),
   ("aliases", some (.str (List.intercalate ", ".toList p.aliases)))]

def SyntaxSet.nested (s : SyntaxSet) : Members :=
  [("parameterSetName", some (.str s.name)),
   ("parameter", some (.arr (s.parameters.map fun p => object p.nested)))]

def ExampleText.nested (e : ExampleText) : Members :=
  [("title", some (.str e.title)), ("introduction", e.introduction.map paragraphs),
   ("code", some (.str e.code)), ("remarks", some (paragraphs e.remarks))]

def TypeEntry.nested (t : TypeEntry) : Members :=
  [("type", some (under "name" (.str t.name))), ("description", some (paragraphs t.description))]

def Link.nested (l : Link) : Members :=
  [("linkText", some (.str l.text)), ("uri", l.uri.map .str)]

def Content.details (c : Content) : Members :=
  [("name", some (.str c.name)), ("description", some (paragraphs c.synopsis))]

def Content.nested (c : Content) : Members :=
  [("details", some (object c.details)), ("description", some (paragraphs c.description)),
   ("syntax", some (under "syntaxItem" (.arr (c.usages.map fun s => object s.nested)))),
   ("parameters", some (under "parameter" (.arr (c.parameters.map fun p => object p.nested)))),
   ("examples", some (under "example" (.arr (c.examples.map fun e => object e.nested)))),
   ("inputTypes", some (under "inputType" (.arr (c.inputs.map fun t => object t.nested)))),
   ("returnValues", some (under "returnValue" (.arr (c.outputs.map fun t => object t.nested)))),
   ("alertSet", some (under "alert" (paragraphs c.notes))),
   ("relatedLinks", some (under "navigationLink" (.arr (c.links.map fun l => object l.nested))))]

/-- Which of two names a flat producer takes, where there are two. -/
structure Dialect where
  typeName : Bool
  required : Bool
  wildcards : Bool
  pipelineInput : Bool
  linkText : Bool
  uri : Bool
  links : Bool

def Parameter.flat (d : Dialect) (p : Parameter) : Members :=
  [("name", some (.str p.name)),
   (choose d.typeName "typeName" "type", some (.str p.typeName)),
   ("description", some (.str p.description)), ("position", p.position.map .str),
   (choose d.required "required" "isMandatory", p.required.map .bool),
   (choose d.wildcards "globbing" "supportsWildcards", p.supportsWildcards.map .bool),
   (choose d.pipelineInput "pipelineInput" "acceptPipelineInput", some (.str p.pipelineInput)),
   ("defaultValue", p.defaultValue.map .str), ("aliases", some (.ofTexts p.aliases))]

def SyntaxSet.flat (d : Dialect) (s : SyntaxSet) : Members :=
  [("parameterSetName", some (.str s.name)),
   ("parameters", some (.arr (s.parameters.map fun p => object (p.flat d))))]

def ExampleText.flat (e : ExampleText) : Members :=
  [("title", some (.str e.title)), ("introduction", e.introduction.map .str),
   ("code", some (.str e.code)), ("remarks", some (.str e.remarks))]

def TypeEntry.flat (t : TypeEntry) : Members :=
  [("name", some (.str t.name)), ("description", some (.str t.description))]

def Link.flat (d : Dialect) (l : Link) : Members :=
  [(choose d.linkText "linkText" "text", some (.str l.text)),
   (choose d.uri "uri" "url", l.uri.map .str)]

def Content.flat (d : Dialect) (c : Content) : Members :=
  [("name", some (.str c.name)), ("synopsis", some (.str c.synopsis)),
   ("description", some (.str c.description)),
   ("parameterSets", some (.arr (c.usages.map fun s => object (s.flat d)))),
   ("parameters", some (.arr (c.parameters.map fun p => object (p.flat d)))),
   ("examples", some (.arr (c.examples.map fun e => object e.flat))),
   ("inputs", some (.arr (c.inputs.map fun t => object t.flat))),
   ("outputs", some (.arr (c.outputs.map fun t => object t.flat))),
   ("notes", some (.str c.notes)),
   (choose d.links "relatedLinks" "links", some (.arr (c.links.map fun l => object (l.flat d))))]

def shown (s : Text) : Option Text := nonEmpty (trim s)

def Parameter.read? (p : Parameter) : Option Parameter :=
  (shown p.name).map fun name =>
    { name := name.dropWhile (· == '-')
      typeName := trim p.typeName
      description := trim p.description
      position := p.position.bind shown
      required := p.required
      pipelineInput := trim p.pipelineInput
      supportsWildcards := p.supportsWildcards
      defaultValue := (p.defaultValue.bind shown).filter (fun d => !sameName d "none")
      aliases := p.aliases.flatMap aliasesOf }

def SyntaxSet.read (catalogue : List Parameter) (index total : Nat) (s : SyntaxSet) : SyntaxSet :=
  .ofParameters ((shown s.name).getD (defaultSetName index total))
    ((s.parameters.filterMap Parameter.read?).map (enriched catalogue))

def ExampleText.read (e : ExampleText) : RawExample where
  title := trim e.title
  body := joinIntroduction ((e.introduction.bind shown).getD []) (trim e.code)
  remarks := trim e.remarks

def TypeEntry.read? (t : TypeEntry) : Option TypeEntry :=
  (shown t.name).map fun name => ⟨name, trim t.description⟩

def Link.read? (l : Link) : Option Link :=
  match shown l.text with
  | some text => some ⟨text, l.uri.bind shown⟩
  | none => (l.uri.bind shown).map fun u => ⟨u, some u⟩

def Content.page? (c : Content) (dump : Option Dump) : Option Page :=
  (shown c.name).map fun name =>
    let catalogue := c.parameters.filterMap Parameter.read?
    { name
      synopsis := trim c.synopsis
      description := trim c.description
      usages := c.usages.mapIdx fun i s => s.read catalogue i c.usages.length
      parameters := catalogue
      examples := ((dump.bind (·.text? .examples)).map dumpExamples).getD
        ((c.examples.map ExampleText.read).mapIdx objectExample)
      inputs := c.inputs.filterMap TypeEntry.read?
      outputs := c.outputs.filterMap TypeEntry.read?
      notes := trim c.notes
      links := c.links.filterMap Link.read? }

/-- The node gives every field of the content, read as above. -/
structure Carries (j : Json) (c : Content) : Prop where
  name : HelpObject.name j = shown c.name
  synopsis : HelpObject.synopsis j = shown c.synopsis
  description : HelpObject.description j = shown c.description
  usages : ∀ catalogue, HelpObject.usages j catalogue =
    c.usages.mapIdx fun i s => s.read catalogue i c.usages.length
  parameters : HelpObject.parameters j = c.parameters.filterMap Parameter.read?
  examples : HelpObject.examples j = c.examples.map ExampleText.read
  inputs : HelpObject.inputs j = c.inputs.filterMap TypeEntry.read?
  outputs : HelpObject.outputs j = c.outputs.filterMap TypeEntry.read?
  notes : HelpObject.notes j = shown c.notes
  links : HelpObject.links j = c.links.filterMap Link.read?

theorem shown_getD (s : Text) : (shown s).getD [] = trim s := by
  rw [shown, nonEmpty]
  cases empty : trim s <;> rfl

theorem Carries.pageOfObject_eq {j : Json} {c : Content} (h : Carries j c) (dump : Option Dump) :
    pageOfObject j dump = c.page? dump := by
  have examples : examplesFor j dump =
      ((dump.bind (·.text? .examples)).map dumpExamples).getD
        ((c.examples.map ExampleText.read).mapIdx objectExample) := by
    rw [examplesFor, h.examples]
    cases dump.bind (·.text? .examples) <;> rfl
  rw [pageOfObject, Content.page?, h.name]
  simp only [examples, h.synopsis, h.description, h.usages, h.parameters, h.inputs, h.outputs,
    h.notes, h.links, shown_getD]

theorem textOf_str (s : Text) : textOf (.str s) = shown s := by rw [textOf, shown]

theorem textOf_under_text (s : Text) : textOf (under "Text" (.str s)) = shown s := by
  change textOf (.obj [("Text", .str s)]) = shown s
  rw [textOf, memberTexts, memberTexts, textOf_str]
  cases shown s <;> rfl

theorem textOf_paragraphs (s : Text) : textOf (paragraphs s) = shown s := by
  rw [paragraphs, textOf, textsOf, textOf_under_text, textsOf, List.append_nil]
  cases text : shown s with
  | none => rfl
  | some t =>
    obtain ⟨rfl, nonempty⟩ := nonEmpty_eq_some text
    rw [Option.toList_some, List.intercalate_singleton, nonEmpty,
      List.isEmpty_eq_false_iff.mpr nonempty]
    rfl

theorem textOf_under_name (s : Text) : textOf (under "name" (.str s)) = none := by
  change textOf (.obj [("name", .str s)]) = none
  rw [textOf, memberTexts, memberTexts]
  cases textOf (.str s) <;> rfl

section

variable {fields : Members} (distinct : Distinct (fields.map (·.1))) (i : Nat) {key s : Text}
include distinct

theorem textAt_str (here : fields[i]? = some (key, some (.str s))) :
    textAt (object fields) [key] = shown s :=
  (textAt_of_get (get_object distinct i here)).trans (textOf_str s)

theorem textAt_paragraphs (here : fields[i]? = some (key, some (paragraphs s))) :
    textAt (object fields) [key] = shown s :=
  (textAt_of_get (get_object distinct i here)).trans (textOf_paragraphs s)

theorem textAt_option {o : Option Text} (here : fields[i]? = some (key, o.map .str)) :
    textAt (object fields) [key] = o.bind shown := by
  rw [textAt_of_get (get_object distinct i here)]
  cases o with
  | none => rfl
  | some s => exact textOf_str s

theorem textAt_optionParagraphs {o : Option Text} (here : fields[i]? = some (key, o.map paragraphs)) :
    textAt (object fields) [key] = o.bind shown := by
  rw [textAt_of_get (get_object distinct i here)]
  cases o with
  | none => rfl
  | some s => exact textOf_paragraphs s

end

theorem flagAt_text {j : Json} {key : Text} {o : Option Bool} (here : get j key = o.map flagText) :
    flagAt j [key] = o := by
  rw [flagAt, follow_cons, here]
  cases o with
  | none => rfl
  | some b => cases b <;> decide

theorem flagAt_bool {j : Json} {key : Text} {o : Option Bool} (here : get j key = o.map .bool) :
    flagAt j [key] = o := by
  rw [flagAt, follow_cons, here]
  cases o <;> rfl

theorem aliasesOf_trim (s : Text) : aliasesOf (trim s) = aliasesOf s := by
  obtain ⟨w, before, front⟩ := exists_trimStart s
  obtain ⟨v, behind, back⟩ := exists_trimEnd (trimStart s)
  have whole : s = w ++ (trim s ++ v) := by rw [trim, ← back, ← front]
  have same : (splitOn ',' s).map trim = (splitOn ',' (trim s)).map trim := by
    rw [congrArg (splitOn ',') whole, map_trim_splitOn_blank (by decide) before,
      map_trim_splitOn_append_blank (by decide) behind]
  rw [aliasesOf, aliasesOf, same]

theorem aliasesOf_shown (s : Text) : ((shown s).map aliasesOf).getD [] = aliasesOf s := by
  rw [← aliasesOf_trim s, shown, nonEmpty]
  cases text : trim s with
  | nil => decide
  | cons c rest => rfl

theorem aliasesOf_intercalate (texts : List Text) :
    aliasesOf (List.intercalate ", ".toList texts) = texts.flatMap aliasesOf := by
  induction texts with
  | nil => decide
  | cons t rest ih =>
    cases rest with
    | nil => rw [List.intercalate_singleton, List.flatMap_cons, List.flatMap_nil, List.append_nil]
    | cons u more =>
      have spaced : aliasesOf (' ' :: List.intercalate ", ".toList (u :: more)) =
          aliasesOf (List.intercalate ", ".toList (u :: more)) := by
        rw [aliasesOf, aliasesOf, ← List.singleton_append, map_trim_splitOn_blank (by decide) (by decide)]
      rw [List.flatMap_cons, ← ih, ← spaced, List.intercalate_cons_cons]
      change aliasesOf (t ++ [',', ' '] ++ _) = _
      rw [aliasesOf, aliasesOf, aliasesOf, List.append_assoc, List.cons_append, List.cons_append,
        List.nil_append, splitOn_append_cons, List.map_append, List.filter_append]

theorem aliases_text {j : Json} {texts : List Text}
    (here : get j "aliases" = some (.str (List.intercalate ", ".toList texts))) :
    aliases j = texts.flatMap aliasesOf := by
  rw [aliases, here, ← aliasesOf_intercalate, ← aliasesOf_shown, ← textOf_str]

theorem aliases_list {j : Json} {texts : List Text}
    (here : get j "aliases" = some (.ofTexts texts)) : aliases j = texts.flatMap aliasesOf := by
  have each (t : Text) : (textOf (.str t)).toList.flatMap aliasesOf = aliasesOf t := by
    rw [textOf_str, ← aliasesOf_shown]
    cases shown t <;> simp
  rw [aliases, here, Json.ofTexts]
  simp only [List.filterMap_eq_flatMap_toList, List.flatMap_assoc, List.flatMap_map, each]

structure Parameter.ReadFrom (p : Parameter) (j : Json) : Prop where
  name : textAt j ["name"] = shown p.name
  typeName : textAmong j [["type", "name"], ["typeName"], ["type"], ["parameterValue"]] =
    shown p.typeName
  description : textAt j ["description"] = shown p.description
  position : textAt j ["position"] = p.position.bind shown
  required : (flagAt j ["required"]).or (flagAt j ["isMandatory"]) = p.required
  pipelineInput : textAmong j [["pipelineInput"], ["acceptPipelineInput"]] = shown p.pipelineInput
  wildcards : (flagAt j ["globbing"]).or (flagAt j ["supportsWildcards"]) = p.supportsWildcards
  defaultValue : textAt j ["defaultValue"] = p.defaultValue.bind shown
  aliases : HelpObject.aliases j = p.aliases.flatMap aliasesOf

theorem Parameter.ReadFrom.parameter?_eq {p : Parameter} {j : Json} (h : p.ReadFrom j) :
    parameter? j = p.read? := by
  simp only [parameter?, HelpObject.typeName, h.name, h.typeName, h.description, h.position, h.required,
    h.pipelineInput, h.wildcards, h.defaultValue, h.aliases, shown_getD, Parameter.read?]
  cases shown p.name <;> rfl

theorem Parameter.readFrom_nested (p : Parameter) : p.ReadFrom (object p.nested) := by
  have distinct : Distinct (p.nested.map (·.1)) := of_decide_eq_true rfl
  have apart : Apart (p.nested.map (·.1)) ["typeName", "parameterValue", "isMandatory",
      "supportsWildcards", "acceptPipelineInput"] := of_decide_eq_true rfl
  constructor
  case name => exact textAt_str distinct 0 rfl
  case typeName =>
    have type := get_object distinct 1 rfl
    rw [textAmong_cons, textAt_under type, textAmong_cons, textAt_of_none (get_absent apart 0 rfl),
      textAmong_cons, textAt_of_get type, Option.bind_some, textOf_under_name, textAmong_cons,
      textAt_of_none (get_absent apart 1 rfl), textAmong_nil, textOf_str]
    simp only [Option.or_none]
  case description => exact textAt_paragraphs distinct 2 rfl
  case position => exact textAt_option distinct 3 rfl
  case required =>
    have required := flagAt_text (get_object distinct 4 rfl)
    exact flagAt_choose true required (get_absent apart 2 rfl)
  case pipelineInput =>
    have input := textAt_str distinct 6 rfl
    exact textAmong_choose true input (get_absent apart 4 rfl)
  case wildcards =>
    have globbing := flagAt_text (get_object distinct 5 rfl)
    exact flagAt_choose true globbing (get_absent apart 3 rfl)
  case defaultValue => exact textAt_option distinct 7 rfl
  case aliases => exact aliases_text (get_object distinct 8 rfl)

def flatNames (typeName required wildcards pipelineInput : Bool) : List Text :=
  ["name", choose typeName "typeName" "type", "description", "position",
   choose required "required" "isMandatory", choose wildcards "globbing" "supportsWildcards",
   choose pipelineInput "pipelineInput" "acceptPipelineInput", "defaultValue", "aliases"]

def otherNames (typeName required wildcards pipelineInput : Bool) : List Text :=
  [choose (!typeName) "typeName" "type", "parameterValue",
   choose (!required) "required" "isMandatory", choose (!wildcards) "globbing" "supportsWildcards",
   choose (!pipelineInput) "pipelineInput" "acceptPipelineInput"]

theorem distinct_flatNames : ∀ a b c e, Distinct (flatNames a b c e) := by decide +kernel

theorem apart_flatNames : ∀ a b c e, Apart (flatNames a b c e) (otherNames a b c e) := by
  decide +kernel

theorem Parameter.readFrom_flat (d : Dialect) (p : Parameter) : p.ReadFrom (object (p.flat d)) := by
  have distinct : Distinct ((p.flat d).map (·.1)) := distinct_flatNames _ _ _ _
  have apart : Apart ((p.flat d).map (·.1))
      (otherNames d.typeName d.required d.wildcards d.pipelineInput) := apart_flatNames _ _ _ _
  constructor
  case name => exact textAt_str distinct 0 rfl
  case typeName =>
    have absent := get_absent apart 0 rfl
    -- a type that is a plain text has no name below it
    have inner : textAt (object (p.flat d)) ["type", "name"] = none := by
      have here := get_object distinct 1 rfl
      cases choice : d.typeName with
      | true =>
        rw [choice] at absent
        exact textAt_of_none absent
      | false =>
        rw [choice] at here
        exact textAt_below here
    have either := textAmong_choose d.typeName (textAt_str distinct 1 rfl) absent
    have last : textAt (object (p.flat d)) ["parameterValue"] = none :=
      textAt_of_none (get_absent apart 1 rfl)
    simp only [textAmong_cons, textAmong_nil, inner, last, Option.none_or, Option.or_none] at either ⊢
    exact either
  case description => exact textAt_str distinct 2 rfl
  case position => exact textAt_option distinct 3 rfl
  case required =>
    have required := flagAt_bool (get_object distinct 4 rfl)
    exact flagAt_choose d.required required (get_absent apart 2 rfl)
  case pipelineInput =>
    have input := textAt_str distinct 6 rfl
    exact textAmong_choose d.pipelineInput input (get_absent apart 4 rfl)
  case wildcards =>
    have wildcards := flagAt_bool (get_object distinct 5 rfl)
    exact flagAt_choose d.wildcards wildcards (get_absent apart 3 rfl)
  case defaultValue => exact textAt_option distinct 7 rfl
  case aliases => exact aliases_list (get_object distinct 8 rfl)

theorem filterMap_objects {α β : Type} {write : α → Members} {read : Json → Option β}
    {answer : α → Option β} (each : ∀ x, read (object (write x)) = answer x) (xs : List α) :
    (xs.map fun x => object (write x)).filterMap read = xs.filterMap answer := by
  rw [List.filterMap_map]
  exact congrArg (xs.filterMap ·) (funext each)

structure SyntaxSet.ReadFrom (s : SyntaxSet) (j : Json) : Prop where
  name : textAmong j [["parameterSetName"], ["setName"]] = shown s.name
  parameters : (collection j [["parameter"], ["parameters"]] []).filterMap parameter? =
    s.parameters.filterMap Parameter.read?

theorem SyntaxSet.readFrom_nested (s : SyntaxSet) : s.ReadFrom (object s.nested) := by
  have distinct : Distinct (s.nested.map (·.1)) := of_decide_eq_true rfl
  have apart : Apart (s.nested.map (·.1)) ["setName", "parameters"] := of_decide_eq_true rfl
  constructor
  · have name := textAt_str distinct 0 rfl
    exact textAmong_choose true name (get_absent apart 0 rfl)
  · have items : collection (object s.nested) [["parameter"], ["parameters"]] [] = _ :=
      collection_choose true (get_object distinct 1 rfl) (get_absent apart 1 rfl)
    rw [items]
    exact filterMap_objects (fun p => (Parameter.readFrom_nested p).parameter?_eq) s.parameters

theorem SyntaxSet.readFrom_flat (d : Dialect) (s : SyntaxSet) : s.ReadFrom (object (s.flat d)) := by
  have distinct : Distinct ((s.flat d).map (·.1)) := of_decide_eq_true rfl
  have apart : Apart ((s.flat d).map (·.1)) ["setName", "parameter"] := of_decide_eq_true rfl
  constructor
  · have name := textAt_str distinct 0 rfl
    exact textAmong_choose true name (get_absent apart 0 rfl)
  · have items : collection (object (s.flat d)) [["parameter"], ["parameters"]] [] = _ :=
      collection_choose false (get_object distinct 1 rfl) (get_absent apart 1 rfl)
    rw [items]
    exact filterMap_objects (fun p => (Parameter.readFrom_flat d p).parameter?_eq) s.parameters

theorem usages_objects {j : Json} {write : SyntaxSet → Members} {sets : List SyntaxSet}
    (reads : ∀ s : SyntaxSet, s.ReadFrom (object (write s)))
    (items : collection j [["syntax", "syntaxItem"]] ["syntax", "parameterSets"] =
      sets.map fun s => object (write s)) (catalogue : List Parameter) :
    HelpObject.usages j catalogue = sets.mapIdx fun i s => s.read catalogue i sets.length := by
  rw [HelpObject.usages, items]
  refine List.ext_getElem? fun i => ?_
  rw [List.getElem?_mapIdx, List.getElem?_mapIdx, List.getElem?_map, List.length_map]
  cases sets[i]? with
  | none => rfl
  | some s =>
    simp only [Option.map_some, (reads s).name, (reads s).parameters, SyntaxSet.read]

theorem rawExample_nested (e : ExampleText) : rawExample (object e.nested) = e.read := by
  have distinct : Distinct (e.nested.map (·.1)) := of_decide_eq_true rfl
  have title := textAt_str distinct 0 rfl
  have introduction := textAt_optionParagraphs distinct 1 rfl
  have code := textAt_str distinct 2 rfl
  have remarks := textAt_paragraphs distinct 3 rfl
  rw [rawExample, title, introduction, code, remarks, shown_getD, shown_getD, shown_getD,
    ExampleText.read]

theorem rawExample_flat (e : ExampleText) : rawExample (object e.flat) = e.read := by
  have distinct : Distinct (e.flat.map (·.1)) := of_decide_eq_true rfl
  have title := textAt_str distinct 0 rfl
  have introduction := textAt_option distinct 1 rfl
  have code := textAt_str distinct 2 rfl
  have remarks := textAt_str distinct 3 rfl
  rw [rawExample, title, introduction, code, remarks, shown_getD, shown_getD, shown_getD,
    ExampleText.read]

theorem typeEntry?_nested (t : TypeEntry) : typeEntry? (object t.nested) = t.read? := by
  have distinct : Distinct (t.nested.map (·.1)) := of_decide_eq_true rfl
  have apart : Apart (t.nested.map (·.1)) ["name"] := of_decide_eq_true rfl
  have name := (textAt_under (get_object distinct 0 rfl)).trans (textOf_str _)
  have description := textAt_paragraphs distinct 1 rfl
  unfold typeEntry?
  rw [labelOf_object, textAmong_cons, name, textAmong_cons,
    textAt_of_none (get_absent apart 0 rfl), textAmong_nil, Option.or_none, Option.or_none,
    description, shown_getD, TypeEntry.read?]

theorem typeEntry?_flat (t : TypeEntry) : typeEntry? (object t.flat) = t.read? := by
  have distinct : Distinct (t.flat.map (·.1)) := of_decide_eq_true rfl
  have apart : Apart (t.flat.map (·.1)) ["type"] := of_decide_eq_true rfl
  have name := textAt_str distinct 0 rfl
  have description := textAt_str distinct 1 rfl
  unfold typeEntry?
  rw [labelOf_object, textAmong_cons, textAt_of_none (get_absent apart 0 rfl),
    Option.none_or, textAmong_cons, name, textAmong_nil, Option.or_none, description, shown_getD,
    TypeEntry.read?]

theorem link?_eq {fields : Members} {l : Link}
    (text : textAmong (object fields) [["linkText"], ["text"]] = shown l.text)
    (uri : textAmong (object fields) [["uri"], ["url"]] = l.uri.bind shown) :
    link? (object fields) = l.read? := by
  rw [link?, Link.read?]
  cases given : shown l.text <;> simp only [labelOf_object, text, uri, given]

theorem link?_nested (l : Link) : link? (object l.nested) = l.read? := by
  have distinct : Distinct (l.nested.map (·.1)) := of_decide_eq_true rfl
  have apart : Apart (l.nested.map (·.1)) ["text", "url"] := of_decide_eq_true rfl
  have text := textAt_str distinct 0 rfl
  have uri := textAt_option distinct 1 rfl
  exact link?_eq (textAmong_choose true text (get_absent apart 0 rfl))
    (textAmong_choose true uri (get_absent apart 1 rfl))

theorem link?_flat (d : Dialect) (l : Link) : link? (object (l.flat d)) = l.read? := by
  have distinct : Distinct ((l.flat d).map (·.1)) := by
    have all : ∀ a b, Distinct [choose a "linkText" "text", choose b "uri" "url"] := by decide
    exact all _ _
  have apart : Apart ((l.flat d).map (·.1))
      [choose (!d.linkText) "linkText" "text", choose (!d.uri) "uri" "url"] := by
    have all : ∀ a b, Apart [choose a "linkText" "text", choose b "uri" "url"]
        [choose (!a) "linkText" "text", choose (!b) "uri" "url"] := by decide
    exact all _ _
  have text := textAt_str distinct 0 rfl
  have uri := textAt_option distinct 1 rfl
  exact link?_eq (textAmong_choose d.linkText text (get_absent apart 0 rfl))
    (textAmong_choose d.uri uri (get_absent apart 1 rfl))

theorem notes_alerts {j : Json} {s : Text}
    (here : get j "alertSet" = some (under "alert" (paragraphs s)))
    (other : (textAt j ["notes"]).or (looseText j "note") = none) : HelpObject.notes j = shown s := by
  have alerts : follow j ["alertSet", "alert"] = some (paragraphs s) := by
    rw [follow_cons, here, Option.bind_some, follow_cons, get_under]
    rfl
  unfold HelpObject.notes
  -- one alert, so nothing is joined: its text, or none and the later attempts
  simp only [alerts, Option.map_some, Option.getD_some, paragraphs, asList, List.filterMap_cons,
    List.filterMap_nil, textOf_under_text]
  cases shown s with
  | none => exact other
  | some t => exact congrArg some List.intercalate_singleton

theorem notes_plain {j : Json} (absent : get j "alertSet" = none) :
    HelpObject.notes j = (textAt j ["notes"]).or (looseText j "note") := by
  unfold HelpObject.notes
  rw [follow_of_none absent]
  rfl

theorem Content.carries_nested (c : Content) : Carries (object c.nested) c := by
  have distinct : Distinct (c.nested.map (·.1)) := of_decide_eq_true rfl
  have apart : Apart (c.nested.map (·.1)) ["name", "commandName", "synopsis", "summary", "notes"] :=
    of_decide_eq_true rfl
  have details := get_object distinct 0 rfl
  have below : Distinct (c.details.map (·.1)) := of_decide_eq_true rfl
  constructor
  case name =>
    have name := textAt_str below 0 rfl
    rw [HelpObject.name, textAmong_cons, textAt_below details, name, textAmong_cons,
      textAt_of_none (get_absent apart 0 rfl), textAmong_cons,
      textAt_of_none (get_absent apart 1 rfl), textAmong_nil]
    simp only [Option.or_none]
  case synopsis =>
    have synopsis := textAt_paragraphs below 1 rfl
    have absent : textAt (object c.nested) ["synopsis"] = none :=
      textAt_of_none (get_absent apart 2 rfl)
    rw [HelpObject.synopsis, textAmong_cons, absent, textAmong_cons, textAt_below details, synopsis,
      textAmong_cons, textAt_of_none (get_absent apart 3 rfl), textAmong_nil, Option.none_or,
      Option.or_none, Option.or_none]
    exact or_looseText distinct (fun _ => absent) (of_decide_eq_true rfl)
  case description =>
    have description := textAt_paragraphs distinct 1 rfl
    have deeper : Apart (c.details.map (·.1)) ["detailedDescription"] := of_decide_eq_true rfl
    rw [HelpObject.description, textAmong_cons, description, textAmong_cons, textAt_below details,
      textAt_of_none (get_absent deeper 0 rfl), textAmong_nil, Option.or_none, Option.or_none]
    exact or_looseText distinct description.trans (of_decide_eq_true rfl)
  case usages =>
    exact usages_objects SyntaxSet.readFrom_nested (collection_under (get_object distinct 2 rfl))
  case parameters =>
    rw [HelpObject.parameters, collection_under (get_object distinct 3 rfl)]
    exact filterMap_objects (fun p => (Parameter.readFrom_nested p).parameter?_eq) c.parameters
  case examples =>
    rw [HelpObject.examples, collection_under (get_object distinct 4 rfl), List.map_map]
    exact congrArg (c.examples.map ·) (funext rawExample_nested)
  case inputs =>
    rw [HelpObject.inputs, collection_under (get_object distinct 5 rfl)]
    exact filterMap_objects typeEntry?_nested c.inputs
  case outputs =>
    rw [HelpObject.outputs, collection_under (get_object distinct 6 rfl)]
    exact filterMap_objects typeEntry?_nested c.outputs
  case notes =>
    have absent : textAt (object c.nested) ["notes"] = none :=
      textAt_of_none (get_absent apart 4 rfl)
    refine notes_alerts (get_object distinct 7 rfl) ?_
    rw [absent]
    exact or_looseText distinct (fun _ => absent) (of_decide_eq_true rfl)
  case links =>
    rw [HelpObject.links, collection_under (get_object distinct 8 rfl)]
    exact filterMap_objects link?_nested c.links

def flatPageNames (links : Bool) : List Text :=
  ["name", "synopsis", "description", "parameterSets", "parameters", "examples", "inputs", "outputs",
   "notes", choose links "relatedLinks" "links"]

theorem distinct_flatPageNames : ∀ links, Distinct (flatPageNames links) := by decide +kernel

theorem apart_flatPageNames : ∀ links, Apart (flatPageNames links)
    ["details", "commandName", "summary", "syntax", "inputTypes", "returnValues", "alertSet",
     choose (!links) "relatedLinks" "links"] := by
  decide +kernel

theorem soleMention_flatPageNames : ∀ links,
    SoleMention (flatPageNames links) "synopsis" "synopsis" ∧
      SoleMention (flatPageNames links) "description" "description" ∧
      SoleMention (flatPageNames links) "note" "notes" := by
  decide +kernel

theorem Content.carries_flat (d : Dialect) (c : Content) : Carries (object (c.flat d)) c := by
  have distinct : Distinct ((c.flat d).map (·.1)) := distinct_flatPageNames d.links
  have apart : Apart ((c.flat d).map (·.1)) _ := apart_flatPageNames d.links
  have sole := soleMention_flatPageNames d.links
  have details := get_absent apart 0 rfl
  constructor
  case name =>
    have name := textAt_str distinct 0 rfl
    rw [HelpObject.name, textAmong_cons, textAt_of_none details, Option.none_or, textAmong_cons, name,
      textAmong_cons, textAt_of_none (get_absent apart 1 rfl), textAmong_nil]
    simp only [Option.or_none]
  case synopsis =>
    have synopsis := textAt_str distinct 1 rfl
    rw [HelpObject.synopsis, textAmong_cons, synopsis, textAmong_cons, textAt_of_none details,
      textAmong_cons, textAt_of_none (get_absent apart 2 rfl), textAmong_nil, Option.none_or,
      Option.or_none, Option.or_none]
    exact or_looseText distinct synopsis.trans sole.1
  case description =>
    have description := textAt_str distinct 2 rfl
    rw [HelpObject.description, textAmong_cons, description, textAmong_cons, textAt_of_none details,
      textAmong_nil, Option.or_none, Option.or_none]
    exact or_looseText distinct description.trans sole.2.1
  case usages =>
    have items := get_object distinct 3 rfl
    have absent := get_absent apart 3 rfl
    exact usages_objects (SyntaxSet.readFrom_flat d)
      (collection_flat_second (follow_of_none absent) absent items)
  case parameters =>
    have items := get_object distinct 4 rfl
    rw [HelpObject.parameters, collection_flat (follow_list items) items]
    exact filterMap_objects (fun p => (Parameter.readFrom_flat d p).parameter?_eq) c.parameters
  case examples =>
    have items := get_object distinct 5 rfl
    rw [HelpObject.examples, collection_flat (follow_list items) items, List.map_map]
    exact congrArg (c.examples.map ·) (funext rawExample_flat)
  case inputs =>
    have absent := get_absent apart 4 rfl
    rw [HelpObject.inputs, collection_flat (follow_of_none absent) (get_object distinct 6 rfl)]
    exact filterMap_objects typeEntry?_flat c.inputs
  case outputs =>
    have absent := get_absent apart 5 rfl
    rw [HelpObject.outputs, collection_flat (follow_of_none absent) (get_object distinct 7 rfl)]
    exact filterMap_objects typeEntry?_flat c.outputs
  case notes =>
    have notes := textAt_str distinct 8 rfl
    rw [notes_plain (get_absent apart 6 rfl), notes]
    exact or_looseText distinct notes.trans sole.2.2
  case links =>
    have items := get_object distinct 9 rfl
    have absent := get_absent apart 7 rfl
    have listed : collection (object (c.flat d)) [["relatedLinks", "navigationLink"]]
        ["relatedLinks", "links"] = c.links.map fun l => object (l.flat d) := by
      cases choice : d.links with
      | true =>
        rw [choice] at items
        exact collection_flat (follow_list items) items
      | false =>
        rw [choice] at items absent
        exact collection_flat_second (follow_of_none absent) absent items
    rw [HelpObject.links, listed]
    exact filterMap_objects (link?_flat d) c.links

/-- Content is read alike from either shape, whatever names the flat one is written with: both give the
page that says it, and they are passed over alike where it has no name. -/
theorem page?_shapes (c : Content) (d : Dialect) :
    (∀ dump, pageOfObject (object c.nested) dump = c.page? dump) ∧
      (∀ dump, pageOfObject (object (c.flat d)) dump = c.page? dump) ∧
      ∀ raw hint, Capture.page? ⟨some (object c.nested), raw, hint⟩ =
        Capture.page? ⟨some (object (c.flat d)), raw, hint⟩ := by
  have nested := c.carries_nested.pageOfObject_eq
  have flat := (c.carries_flat d).pageOfObject_eq
  refine ⟨nested, flat, fun raw hint => ?_⟩
  -- a dump and a hint see no more of the object than its page
  have same : objectPage (some (object c.nested)) raw = objectPage (some (object (c.flat d))) raw :=
    (nested (raw.map Dump.parse)).trans (flat (raw.map Dump.parse)).symm
  rw [page?_eq, page?_eq, same]

end ModuleDocs.Help
