import ModuleDocs.Help.Reader
import ModuleDocs.Proofs.Text.Trim

/-! The sources of a page in their order: an object with a name, a dump, a name to fall back on. A
source that is passed over leaves no mark on the page, and a later one never changes what an
earlier one says. Only the examples are shared: those of a dump replace those of an object. -/
namespace ModuleDocs.Help
open Text

def objectPage (structured : Option Json) (raw : Option Text) : Option Page :=
  match structured with
  | some (.obj members) => pageOfObject (.obj members) (raw.map Dump.parse)
  | _ => none

def dumpPage (raw hint : Option Text) : Option Page :=
  ((raw.map Dump.parse).filter fun d => !d.isEmpty).bind (pageOfDump · hint)

theorem page?_eq (structured : Option Json) (raw nameHint : Option Text) :
    Capture.page? ⟨structured, raw, nameHint⟩ =
      ((objectPage structured raw).or (dumpPage raw ((nameHint.map trim).bind nonEmpty))).or
        (((nameHint.map trim).bind nonEmpty).map fun name => { name }) := rfl

def examplesText (raw : Option Text) : Option Text :=
  (raw.map Dump.parse).bind (·.text? .examples)

theorem examplesFor_congr {raw raw' : Option Text} (same : examplesText raw = examplesText raw')
    (j : Json) : examplesFor j (raw.map Dump.parse) = examplesFor j (raw'.map Dump.parse) := by
  unfold examplesText at same
  rw [examplesFor, examplesFor, same]

theorem objectPage_raw (structured : Option Json) (raw raw' : Option Text) :
    (objectPage structured raw' = none ∧ objectPage structured raw = none) ∨
      ∃ page examples, objectPage structured raw = some page ∧
        objectPage structured raw' = some { page with examples } ∧
        (examplesText raw = examplesText raw' → examples = page.examples) := by
  unfold objectPage
  split
  case h_1 members =>
    unfold pageOfObject
    cases HelpObject.name (.obj members) with
    | none => exact .inl ⟨rfl, rfl⟩
    | some name => exact .inr ⟨_, _, rfl, rfl, fun same => (examplesFor_congr same _).symm⟩
  case h_2 => exact .inl ⟨rfl, rfl⟩

theorem objectPage_isSome {members : List (Text × Json)} {name : Text}
    (named : HelpObject.name (.obj members) = some name) (raw : Option Text) :
    ∃ page, objectPage (some (.obj members)) raw = some page ∧ page.name = name := by
  simp only [objectPage, pageOfObject, named, Option.map_some]
  exact ⟨_, rfl, rfl⟩

theorem pageOfDump_hint (d : Dump) (hint : Text) :
    (pageOfDump d none = none ∧ ∃ page, pageOfDump d (some hint) = some page ∧ page.name = hint) ∨
      (pageOfDump d none).isSome ∧ pageOfDump d (some hint) = pageOfDump d none := by
  simp only [pageOfDump]
  cases (declaredName d).or (words (d.bodyOf .syntaxForms)).head? with
  | none => exact .inl ⟨rfl, _, rfl, rfl⟩
  | some name => exact .inr ⟨rfl, rfl⟩

theorem nonEmpty_trim (hint : Text) :
    nonEmpty (trim hint) = if isBlank hint then none else some (trim hint) := by
  cases blank : isBlank hint with
  | true => rw [trim_eq_nil_iff.mpr blank]; rfl
  | false =>
    have text : (trim hint).isEmpty = false := by
      rw [List.isEmpty_eq_false_iff, ne_eq, trim_eq_nil_iff, blank]
      exact Bool.false_ne_true
    rw [nonEmpty, text]

theorem dumpPage_of_some {raw : Option Text} {page : Page} (found : dumpPage raw none = some page)
    (hint : Option Text) : dumpPage raw hint = some page := by
  obtain ⟨d, sections, found⟩ := Option.bind_eq_some_iff.mp found
  cases hint with
  | none => rw [dumpPage, sections, Option.bind_some, found]
  | some hint =>
    rw [dumpPage, sections, Option.bind_some]
    rcases pageOfDump_hint d hint with ⟨absent, -⟩ | ⟨-, same⟩
    · rw [found] at absent
      contradiction
    · rw [same, found]

theorem name_dumpPage {raw : Option Text} {hint : Text} {page : Page}
    (absent : dumpPage raw none = none) (found : dumpPage raw (some hint) = some page) :
    page.name = hint := by
  obtain ⟨d, sections, found⟩ := Option.bind_eq_some_iff.mp found
  rw [dumpPage, sections, Option.bind_some] at absent
  rcases pageOfDump_hint d hint with ⟨-, own, answer, name⟩ | ⟨some, -⟩
  · rw [found] at answer
    rw [Option.some.inj answer, name]
  · rw [absent] at some
    contradiction

/-- Whatever comes later leaves a page of an earlier source alone. An object with a name gives the
page, but for the examples where a dump has some. A page found without a hint is found with every
hint, and otherwise a hint with text gives the page its name. -/
theorem page?_by_rank (structured : Option Json) :
    (∀ members name, structured = some (.obj members) →
      HelpObject.name (.obj members) = some name → ∀ raw raw' hint hint', ∃ page examples,
        Capture.page? ⟨structured, raw, hint⟩ = some page ∧ page.name = name ∧
          Capture.page? ⟨structured, raw', hint'⟩ = some { page with examples } ∧
          (examplesText raw = examplesText raw' → examples = page.examples)) ∧
      (∀ raw page, Capture.page? ⟨structured, raw, none⟩ = some page →
        ∀ hint, Capture.page? ⟨structured, raw, hint⟩ = some page) ∧
      ∀ raw, Capture.page? ⟨structured, raw, none⟩ = none → ∀ hint,
        (isBlank hint = false →
          ∃ page, Capture.page? ⟨structured, raw, some hint⟩ = some page ∧ page.name = trim hint) ∧
        (isBlank hint = true → Capture.page? ⟨structured, raw, some hint⟩ = none) := by
  refine ⟨?_, ?_, ?_⟩
  · rintro members name rfl named raw raw' hint hint'
    obtain ⟨page, found, own⟩ := objectPage_isSome named raw
    rcases objectPage_raw (some (.obj members)) raw raw' with ⟨-, absent⟩ | ⟨_, examples, first, other, same⟩
    · rw [found] at absent
      contradiction
    · cases found.symm.trans first
      refine ⟨page, examples, ?_, own, ?_, same⟩
      · rw [page?_eq, found, Option.some_or, Option.some_or]
      · rw [page?_eq, other, Option.some_or, Option.some_or]
  · intro raw page found hint
    rw [page?_eq] at found ⊢
    simp only [Option.map_none, Option.bind_none, Option.or_none] at found
    rcases Option.or_eq_some_iff.mp found with object | ⟨object, dump⟩
    · rw [object, Option.some_or, Option.some_or]
    · rw [object, dumpPage_of_some dump, Option.none_or, Option.some_or]
  · intro raw absent hint
    rw [page?_eq] at absent ⊢
    simp only [Option.map_none, Option.bind_none, Option.or_none, Option.or_eq_none_iff] at absent
    obtain ⟨object, dump⟩ := absent
    rw [object, Option.none_or, Option.map_some, Option.bind_some, nonEmpty_trim]
    constructor
    · intro text
      rw [text, if_neg Bool.false_ne_true, Option.map_some]
      cases found : dumpPage raw (some (trim hint)) with
      | none => exact ⟨_, rfl, rfl⟩
      | some page => exact ⟨page, rfl, name_dumpPage dump found⟩
    · intro blank
      rw [blank, if_pos rfl, dump]
      rfl

theorem page?_by_rank_getThing :
    (∃ page, Capture.page? ⟨some (.obj [("name", .str "Get-Thing")]), some "NAME\nGet-Item", some "dir"⟩ =
        some page ∧ page.name = "Get-Thing".toList ∧
        Capture.page? ⟨some (.obj [("name", .str "Get-Thing")]), none, none⟩ = some page) ∧
      Capture.page? ⟨none, some "NAME\nGet-Item", some "dir"⟩ = some { name := "Get-Item" } ∧
      ∃ page, Capture.page? ⟨none, some "NOTES\nSlow.", some " dir "⟩ = some page ∧
        page.name = "dir".toList := by
  have named : HelpObject.name (.obj [("name", .str "Get-Thing")]) = some "Get-Thing".toList := by decide
  have item : Capture.page? ⟨none, some "NAME\nGet-Item", none⟩ = some { name := "Get-Item" } := by
    decide
  have nameless : Capture.page? ⟨none, some "NOTES\nSlow.", none⟩ = none := by decide
  obtain ⟨page, examples, first, name, other, same⟩ :=
    (page?_by_rank (some (.obj [("name", .str "Get-Thing")]))).1 _ _ rfl named
      (some "NAME\nGet-Item") none (some "dir") none
  rw [same (by decide)] at other
  refine ⟨⟨page, first, name, other⟩, (page?_by_rank none).2.1 _ _ item _, ?_⟩
  obtain ⟨page, found, name⟩ := ((page?_by_rank none).2.2 _ nameless " dir ").1 (by decide)
  exact ⟨page, found, name⟩

end ModuleDocs.Help
