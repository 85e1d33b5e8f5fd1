import ModuleDocs.Help.Dump
import ModuleDocs.Proofs.Keyed
import ModuleDocs.Proofs.Text.Lines

/-! Sections written one after another are read back, whatever their order is, and what is read from
any text without carriage returns can be written so. Between the two stands the list of entries: each
header and each line with the section that it belongs to. -/
namespace ModuleDocs.Help
open Text

def sectionAfter (current : Option Section) (line : Text) : Option Section :=
  (Section.ofHeader? line).or (sectionAt current line)

theorem entries_append (current : Option Section) (ls rest : List Text) :
    entries current (ls ++ rest) =
      entries current ls ++ entries (ls.foldl sectionAfter current) rest := by
  induction ls generalizing current with
  | nil => rfl
  | cons line more ih =>
    rw [List.cons_append, entries, entries, List.foldl_cons, sectionAfter]
    cases Section.ofHeader? line with
    | some s => simp only [Option.some_or, ih, List.cons_append]
    | none =>
      rw [Option.none_or]
      cases sectionAt current line with
      | some s => simp only [ih, List.cons_append]
      | none => exact ih none

theorem ofHeader?_header (s : Section) : Section.ofHeader? s.header = some s := by
  cases s <;> decide

theorem entries_header (current : Option Section) (s : Section) (rest : List Text) :
    entries current (s.header :: rest) = (s, none) :: entries (some s) rest := by
  rw [entries, ofHeader?_header]

/-- A line that leaves the section open in which it stands. -/
structure StaysIn (s : Section) (line : Text) : Prop where
  noHeader : Section.ofHeader? line = none
  noBanner : s ≠ .examples → isBanner line = false

instance (s : Section) (line : Text) : Decidable (StaysIn s line) :=
  decidable_of_iff (Section.ofHeader? line = none ∧ (s ≠ .examples → isBanner line = false))
    ⟨fun h => ⟨h.1, h.2⟩, fun h => ⟨h.noHeader, h.noBanner⟩⟩

theorem StaysIn.sectionAt_eq {s : Section} {line : Text} (h : StaysIn s line) :
    sectionAt (some s) line = some s := by
  unfold sectionAt
  rw [if_neg]
  rintro ⟨other, banner⟩
  have plain := h.noBanner fun same => other (congrArg some same)
  rw [plain] at banner
  contradiction

theorem entries_body {s : Section} {ls : List Text} (stays : ∀ l ∈ ls, StaysIn s l)
    (rest : List Text) :
    entries (some s) (ls ++ rest) =
      ls.map (fun l => (s, some l)) ++ entries (some s) rest := by
  induction ls with
  | nil => rfl
  | cons line more ih =>
    have here := stays line List.mem_cons_self
    rw [List.cons_append, entries, here.noHeader, here.sectionAt_eq]
    simp only [ih fun l mem => stays l (List.mem_cons_of_mem line mem), List.map_cons,
      List.cons_append]

theorem staysIn_of_mem_entries {current : Option Section} {ls : List Text} {s : Section}
    {line : Text} (mem : (s, some line) ∈ entries current ls) : line ∈ ls ∧ StaysIn s line := by
  induction ls generalizing current with
  | nil => simp [entries] at mem
  | cons first rest ih =>
    rw [entries] at mem
    cases header : Section.ofHeader? first with
    | some opened =>
      rw [header] at mem
      have later : (s, some line) ∈ entries (some opened) rest := by simpa using mem
      exact (ih later).imp_left (List.mem_cons_of_mem first)
    | none =>
      rw [header] at mem
      cases place : sectionAt current first with
      | none =>
        rw [place] at mem
        exact (ih mem).imp_left (List.mem_cons_of_mem first)
      | some opened =>
        rw [place] at mem
        rcases List.mem_cons.mp mem with here | later
        · cases here
          refine ⟨List.mem_cons_self, header, fun other => ?_⟩
          unfold sectionAt at place
          split at place
          case isTrue => exact absurd (Option.some.inj place).symm other
          case isFalse stayed =>
            rw [← Bool.not_eq_true]
            exact fun banner => stayed ⟨fun same => other (Option.some.inj (place ▸ same)), banner⟩
        · exact (ih later).imp_left (List.mem_cons_of_mem first)

def linesOf (es : List (Section × Option Text)) (s : Section) : List Text :=
  (es.filter fun e => e.1 = s).filterMap (·.2)

theorem linesOf_append (es fs : List (Section × Option Text)) (s : Section) :
    linesOf (es ++ fs) s = linesOf es s ++ linesOf fs s := by
  rw [linesOf, List.filter_append, List.filterMap_append, linesOf, linesOf]

theorem linesOf_cons (s : Section) (line : Text) (es : List (Section × Option Text)) :
    linesOf ((s, some line) :: es) s = line :: linesOf es s := by
  simp [linesOf]

theorem mem_of_mem_linesOf {es : List (Section × Option Text)} {s : Section} {line : Text}
    (mem : line ∈ linesOf es s) : (s, some line) ∈ es := by
  obtain ⟨e, mem, text⟩ := List.mem_filterMap.mp mem
  obtain ⟨mem, key⟩ := List.mem_filter.mp mem
  have here : e = (s, some line) := Prod.ext (by simpa using key) text
  exact here ▸ mem

theorem body?_ofEntries_eq_some {es : List (Section × Option Text)} {s : Section} {body : Text} :
    (Dump.ofEntries es).body? s = some body ↔
      (∃ e ∈ es, e.1 = s) ∧ body = unlines (linesOf es s) := by
  simp only [Dump.ofEntries, Option.ite_none_left_eq_some, Option.some.injEq, List.isEmpty_iff,
    List.filter_eq_nil_iff, decide_eq_true_eq, linesOf]
  grind

theorem body?_ofEntries_eq_none {es : List (Section × Option Text)} {s : Section} :
    (Dump.ofEntries es).body? s = none ↔ ∀ e ∈ es, e.1 ≠ s := by
  simp only [Dump.ofEntries, ite_eq_left_iff, reduceCtorEq, imp_false, Decidable.not_not,
    List.isEmpty_iff, List.filter_eq_nil_iff, decide_eq_true_eq, ne_eq]

theorem body?_ofEntries_append_ne {own : List (Section × Option Text)} {s : Section}
    (other : ∀ e ∈ own, e.1 ≠ s) (es : List (Section × Option Text)) :
    (Dump.ofEntries (own ++ es)).body? s = (Dump.ofEntries es).body? s := by
  have nothing : own.filter (fun e => e.1 = s) = [] := by simpa using other
  simp only [Dump.ofEntries, List.filter_append, nothing, List.nil_append]

theorem body?_ofEntries_block (s : Section) (ls : List Text) {es : List (Section × Option Text)}
    (once : ∀ e ∈ es, e.1 ≠ s) :
    (Dump.ofEntries ((s, none) :: ls.map (fun l => (s, some l)) ++ es)).body? s =
      some (unlines ls) := by
  have nothing : es.filter (fun e => e.1 = s) = [] := by simpa using once
  have block : (ls.map fun l => (s, some l)).filter (fun e => e.1 = s) =
      ls.map fun l => (s, some l) := by simp
  have texts : (ls.map fun l => (s, some l)).filterMap (·.2) = ls := by
    simp [List.filterMap_map]
  simp [Dump.ofEntries, List.filter_append, nothing, block, texts]

def writeLines (ls : List Text) : Text := ls.flatMap (· ++ ['\n'])

/-- The texts that write sections with their bodies: for each its header line and then the lines
whose text is the body. An empty body has no line or one empty line. -/
inductive Written : List (Section × Text) → Text → Prop where
  | nil : Written [] []
  | cons {s : Section} {ls : List Text} {sections : List (Section × Text)} {t : Text}
      (plain : ∀ l ∈ ls, '\n' ∉ l) :
      Written sections t →
        Written ((s, unlines ls) :: sections) (writeLines (s.header :: ls) ++ t)

/-- Bodies that can be told apart when they are written: of different sections, without carriage
returns, and of lines that stay where they are. -/
structure Separable (sections : List (Section × Text)) : Prop where
  distinct : (sections.map (·.1)).Nodup
  noReturn : ∀ e ∈ sections, '\r' ∉ e.2
  stays : ∀ e ∈ sections, ∀ l ∈ splitOn '\n' e.2, StaysIn e.1 l

/-- The sections of the dump are these, with these bodies. -/
structure Dump.Holds (d : Dump) (sections : List (Section × Text)) : Prop where
  distinct : (sections.map (·.1)).Nodup
  bodies : ∀ s, d.body? s = sections.lookup s

theorem lines_writeLines {ls : List Text} (plain : ∀ l ∈ ls, '\n' ∉ l ∧ '\r' ∉ l) (t : Text) :
    lines (writeLines ls ++ t) = ls ++ lines t := by
  induction ls with
  | nil => rfl
  | cons l rest ih =>
    obtain ⟨newline, return_⟩ := plain l List.mem_cons_self
    have tail := ih fun k mem => plain k (List.mem_cons_of_mem l mem)
    have first : writeLines (l :: rest) ++ t = l ++ '\n' :: (writeLines rest ++ t) := by
      simp [writeLines]
    rw [first, lines_append_newline newline, endedLine_eq_self return_, tail, List.cons_append]

theorem exists_written (sections : List (Section × Text)) : ∃ t, Written sections t := by
  induction sections with
  | nil => exact ⟨[], .nil⟩
  | cons e rest ih =>
    obtain ⟨t, written⟩ := ih
    have whole : e = (e.1, unlines (splitOn '\n' e.2)) := by rw [unlines_splitOn]
    rw [whole]
    exact ⟨_, written.cons fun l mem => notMem_of_mem_splitOn mem⟩

theorem header_plain (s : Section) : '\n' ∉ s.header ∧ '\r' ∉ s.header := by
  cases s <;> decide

theorem Separable.tail {e : Section × Text} {sections : List (Section × Text)}
    (h : Separable (e :: sections)) : Separable sections where
  distinct := (List.nodup_cons.mp h.distinct).2
  noReturn f mem := h.noReturn f (List.mem_cons_of_mem e mem)
  stays f mem := h.stays f (List.mem_cons_of_mem e mem)

/-- Reading what was written, with any section open before it: every section opens with its own
header. -/
theorem body?_written {sections : List (Section × Text)} {t : Text} (written : Written sections t)
    (separable : Separable sections) (current : Option Section) (k : Section) :
    (Dump.ofEntries (entries current t.lines)).body? k = sections.lookup k := by
  induction written generalizing current with
  | nil => rfl
  | @cons s ls sections t plain written ih =>
    have returns : ∀ l ∈ ls, '\r' ∉ l := fun l mem inside =>
      separable.noReturn _ List.mem_cons_self (mem_unlines mem inside)
    have stays : ∀ l ∈ ls, StaysIn s l := fun l mem =>
      separable.stays _ List.mem_cons_self l
        ((splitOn_unlines plain (List.ne_nil_of_mem mem)).symm ▸ mem)
    have written_plain : ∀ l ∈ s.header :: ls, '\n' ∉ l ∧ '\r' ∉ l := by
      rintro l (_ | ⟨_, mem⟩)
      · exact header_plain s
      · exact ⟨plain l mem, returns l mem⟩
    have rest := ih separable.tail (some s)
    rw [lines_writeLines written_plain, List.cons_append, entries_header, entries_body stays]
    by_cases same : k = s
    case pos =>
      subst same
      have absent : sections.lookup k = none := by
        have new := (List.nodup_cons.mp separable.distinct).1
        refine List.lookup_eq_none_iff.mpr fun e mem => ?_
        simpa using fun here : k = e.1 => new (List.mem_map.mpr ⟨e, mem, here.symm⟩)
      rw [List.lookup_cons_self, ← List.cons_append]
      exact body?_ofEntries_block k ls (body?_ofEntries_eq_none.mp (rest.trans absent))
    case neg =>
      have other : ∀ e ∈ (s, none) :: ls.map (fun l => (s, some l)), e.1 ≠ k := by
        intro e mem
        have key : e.1 = s := by
          rcases List.mem_cons.mp mem with rfl | mem
          · rfl
          · obtain ⟨l, -, rfl⟩ := List.mem_map.mp mem
            rfl
        exact key ▸ fun here => same here.symm
      rw [← List.cons_append, body?_ofEntries_append_ne other, rest, List.lookup_cons,
        beq_eq_false_iff_ne.mpr same]

theorem holds_written {sections : List (Section × Text)} {t : Text} (written : Written sections t)
    (separable : Separable sections) : (Dump.parse t).Holds sections :=
  ⟨separable.distinct, body?_written written separable none⟩

def Dump.bodies (d : Dump) : List (Section × Text) :=
  Section.all.filterMap fun s => (d.body? s).map (s, ·)

theorem keys_bodies (d : Dump) : d.bodies.map (·.1) = d.sections := by
  unfold Dump.bodies Dump.sections
  rw [List.map_filterMap, ← List.filterMap_eq_filter]
  refine List.filterMap_congr fun s _ => ?_
  cases body : d.body? s <;> simp [Option.guard, body]

theorem holds_bodies (d : Dump) : d.Holds d.bodies where
  distinct := by
    rw [keys_bodies]
    exact List.Sublist.nodup List.filter_sublist (by decide)
  bodies s := by
    have all : Section.all.contains s = true := by cases s <;> decide
    rw [Dump.bodies, Keyed.lookup_filterMap d.body? (by decide), all, if_pos rfl]

/-- The lines of a body stay in its section. -/
theorem stays_body {s : Text} {k : Section} {body : Text}
    (found : (Dump.parse s).body? k = some body) :
    ∃ ls, body = unlines ls ∧ ∀ l ∈ ls, l ∈ s.lines ∧ StaysIn k l := by
  obtain ⟨-, text⟩ := body?_ofEntries_eq_some.mp found
  exact ⟨_, text, fun l mem => staysIn_of_mem_entries (mem_of_mem_linesOf mem)⟩

theorem staysIn_nil (k : Section) : StaysIn k [] := ⟨by decide, fun _ => by decide⟩

theorem separable_parse {s : Text} (plain : '\r' ∉ s) {sections : List (Section × Text)}
    (holds : (Dump.parse s).Holds sections) : Separable sections where
  distinct := holds.distinct
  noReturn e mem := by
    have found := (holds.bodies e.1).trans (Keyed.lookup_of_mem holds.distinct mem)
    obtain ⟨ls, body, stays⟩ := stays_body found
    rw [body]
    exact notMem_unlines (by decide) fun l mem inside =>
      plain (mem_of_mem_lines (stays l mem).1 inside)
  stays e mem l part := by
    have found := (holds.bodies e.1).trans (Keyed.lookup_of_mem holds.distinct mem)
    obtain ⟨ls, body, stays⟩ := stays_body found
    rw [body] at part
    by_cases none : ls = []
    case pos =>
      subst none
      have empty : l = [] := List.mem_singleton.mp part
      exact empty ▸ staysIn_nil e.1
    case neg =>
      have noNewline : ∀ l ∈ ls, '\n' ∉ l := fun l mem =>
        newline_notMem_of_mem_lines (stays l mem).1
      rw [splitOn_unlines noNewline none] at part
      exact (stays l part).2

theorem Dump.Holds.eq {d d' : Dump} {sections : List (Section × Text)} (h : d.Holds sections)
    (h' : d'.Holds sections) : d = d' := by
  have same : d.body? = d'.body? := funext fun s => (h.bodies s).trans (h'.bodies s).symm
  cases d
  cases d'
  exact congrArg Dump.mk same

/-- Separable bodies can be written and are read back as they are, in any order of the sections and
with any choice of lines for empty bodies. Whatever is read from a text without carriage returns is
of this kind, in any order, so to write and read it again gives the same dump. -/
theorem sections_roundTrip :
    (∀ sections, Separable sections → (∃ t, Written sections t) ∧
      ∀ t, Written sections t → (Dump.parse t).Holds sections) ∧
    ∀ s, '\r' ∉ s → (∃ sections, (Dump.parse s).Holds sections) ∧
      ∀ sections, (Dump.parse s).Holds sections → Separable sections ∧
        ∀ t, Written sections t → Dump.parse t = Dump.parse s := by
  constructor
  · intro sections separable
    exact ⟨exists_written sections, fun t written => holds_written written separable⟩
  · intro s plain
    refine ⟨⟨_, holds_bodies (Dump.parse s)⟩, fun sections holds => ?_⟩
    have separable := separable_parse plain holds
    exact ⟨separable, fun t written => (holds_written written separable).eq holds⟩

theorem sections_roundTrip_banner :
    (Dump.parse (writeLines ["EXAMPLES", "--- EXAMPLE 1 ---", "Get-Item .", "", "INPUTS"])).Holds
      [(.examples, unlines ["--- EXAMPLE 1 ---", "Get-Item .", ""]), (.inputs, [])] := by
  refine (sections_roundTrip.1 _ ⟨by decide, by decide, by decide⟩).2 _ ?_
  have inputs : Written [(.inputs, unlines [])] (writeLines ["INPUTS"] ++ []) :=
    .cons (by decide) .nil
  have plain : ∀ l ∈ (["--- EXAMPLE 1 ---", "Get-Item .", ""] : List Text), '\n' ∉ l := by decide
  exact inputs.cons (s := .examples) plain

end ModuleDocs.Help
