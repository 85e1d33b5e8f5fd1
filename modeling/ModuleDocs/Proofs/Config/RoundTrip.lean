import ModuleDocs.Config.Store
import ModuleDocs.Proofs.Text.Utf8
import ModuleDocs.Proofs.Toml.Document
import ModuleDocs.Proofs.Tree.Write

/-! A configuration that is saved and loaded again. Every field comes back as it was but one: an
absent folder to search after the root is not written, and a reader takes its default for it. So the
configuration survives exactly if it has such a folder and its timeouts fit a document. -/
namespace ModuleDocs.Json

variable {α : Type}

theorem lookup_map_value {β : Type} (f : Text → α → β) (members : List (Text × α)) (key : Text) :
    (members.map fun m => (m.1, f m.1 m.2)).lookup key = (members.lookup key).map (f key) := by
  induction members with
  | nil => rfl
  | cons m rest ih =>
    obtain ⟨k, v⟩ := m
    by_cases same : key = k
    case pos =>
      subst same
      rw [List.map_cons, List.lookup_cons_self, List.lookup_cons_self, Option.map_some]
    case neg => rw [List.map_cons, Keyed.lookup_cons_ne same, Keyed.lookup_cons_ne same, ih]

theorem asList?_ofTexts (ts : List Text) : asList? asText? (ofTexts ts) = some ts := by
  rw [asList?, ofTexts, asItems?, Option.bind_some]
  induction ts with
  | nil => rfl
  | cons t rest ih =>
    rw [List.map_cons, List.mapM_cons, ih]
    rfl

theorem asNat?_natCast {n : Nat} (fits : n < 18446744073709551616) :
    asNat? (.num (.int n)) = some n := by
  have bounds : (0 : Int) ≤ n ∧ (n : Int) < 18446744073709551616 := by omega
  rw [asNat?, if_pos bounds, Int.toNat_natCast]

end ModuleDocs.Json

namespace ModuleDocs.Config
open Json Selection

theorem Mode.ofJson?_name (m : Mode) : Mode.ofJson? (.str m.name) = some m := by
  cases m <;> rfl

theorem names_given (name : String) (t : Option Text) :
    ((given name t).map (·.1)).Sublist [name.toList] := by
  cases t with
  | none => exact List.nil_sublist _
  | some t => exact List.Sublist.refl _

theorem nodup_members (c : Config) :
    (c.members.map (·.1) ++ ["remote".toList, "help".toList]).Nodup := by
  have names : (c.members.map (·.1) ++ ["remote".toList, "help".toList]).Sublist
      (["mode".toList, "show_duplicates".toList, "include_local".toList] ++
        ["secondary_dir".toList] ++ ["doc_folders".toList, "script_folders".toList] ++
        ["introduction".toList] ++ ["remote".toList, "help".toList]) := by
    unfold members
    simp only [List.map_append]
    exact (((List.Sublist.refl _).append (names_given _ _)).append (.refl _)).append
      (names_given _ _) |>.append (.refl _)
  exact names.nodup (by decide)

theorem nodup_remote (r : Remote) : (r.members.map (·.1)).Nodup := by
  have names : (r.members.map (·.1)).Sublist
      (["enabled".toList] ++ ["repository".toList] ++ ["branch".toList] ++
        ["api_base".toList, "timeout_secs".toList]) := by
    unfold Remote.members
    simp only [List.map_append]
    exact (((List.Sublist.refl _).append (names_given _ _)).append (names_given _ _)).append
      (.refl _)
  exact names.nodup (by decide)

theorem nodup_help (h : Help) : (h.members.map (·.1)).Nodup := by
  have names : h.members.map (·.1) = ["program".toList, "args".toList, "timeout_secs".toList] := rfl
  rw [names]
  decide

theorem names_memberObject (ms : List (Text × Toml.Value)) :
    (Toml.memberObject ms).map (·.1) = ms.map (·.1) := by
  simp [Toml.memberObject]

theorem fieldOr?_table {α : Type} {ms : List (Text × Toml.Value)} (names : (ms.map (·.1)).Nodup)
    (name : String) (absent : α) (read : Json → Option α) :
    fieldOr? (Keyed.ofList (Toml.memberObject ms)) name absent read =
      ((ms.lookup name.toList).map fun v => read v.toJson).getD (some absent) := by
  rw [fieldOr?, Keyed.lookup_ofList (by rwa [names_memberObject]), Toml.memberObject,
    lookup_map_value fun _ => Toml.Value.toJson]
  cases ms.lookup name.toList <;> rfl

theorem textsRead (ts : List Text) : asList? asText? (Toml.Value.texts ts).toJson = some ts :=
  asList?_ofTexts ts

theorem countRead {n : Nat} (fits : n < 18446744073709551616) :
    asNat? (Toml.Value.count n).toJson = some n :=
  asNat?_natCast fits

theorem Help.ofJson?_table (h : Help) (fits : h.timeout < 18446744073709551616) :
    Help.ofJson? (ofMembers (Toml.memberObject h.members)) = some h := by
  have program : h.members.lookup "program".toList = some (.text h.program) := rfl
  have args : h.members.lookup "args".toList = some (.texts h.args) := rfl
  have timeout : h.members.lookup "timeout_secs".toList = some (.count h.timeout) := rfl
  unfold Help.ofJson? ofMembers
  simp only [members?, Option.bind_eq_bind, Option.bind_some, fieldOr?_table (nodup_help h),
    program, args, timeout, Option.map_some, Option.getD_some, textsRead, countRead fits]
  rfl

theorem optional?_table (t : Option Text) :
    ((t.map Toml.Value.text).map fun v => asOption? asText? v.toJson).getD (some none) =
      some t := by
  cases t <;> rfl

theorem Remote.ofJson?_table (r : Remote) (fits : r.timeout < 18446744073709551616) :
    Remote.ofJson? (ofMembers (Toml.memberObject r.members)) = some r := by
  have enabled : r.members.lookup "enabled".toList = some (.flag r.enabled) := rfl
  have repository : r.members.lookup "repository".toList = r.repository.map .text := by
    unfold members
    cases r.repository <;> cases r.branch <;> rfl
  have branch : r.members.lookup "branch".toList = r.branch.map .text := by
    unfold members
    cases r.repository <;> cases r.branch <;> rfl
  have apiBase : r.members.lookup "api_base".toList = some (.text r.apiBase) := by
    unfold members
    cases r.repository <;> cases r.branch <;> rfl
  have timeout : r.members.lookup "timeout_secs".toList = some (.count r.timeout) := by
    unfold members
    cases r.repository <;> cases r.branch <;> rfl
  unfold Remote.ofJson? ofMembers
  simp only [members?, Option.bind_eq_bind, Option.bind_some, optional?,
    fieldOr?_table (nodup_remote r), enabled, repository, branch, apiBase, timeout,
    optional?_table, Option.map_some, Option.getD_some, countRead fits]
  rfl

def documentMembers (c : Config) : List (Text × Json) :=
  Toml.memberObject c.members ++
    [("remote".toList, ofMembers (Toml.memberObject c.remote.members)),
      ("help".toList, ofMembers (Toml.memberObject c.help.members))]

theorem nodup_documentMembers (c : Config) : ((documentMembers c).map (·.1)).Nodup := by
  rw [documentMembers, List.map_append, names_memberObject]
  exact nodup_members c

theorem parse?_write? {c : Config} {s : Text} (written : c.write? = some s) :
    Toml.parse? s = some (.obj (Keyed.ofList (documentMembers c))) := by
  rw [Toml.parse?_write? written (nodup_members c)]
  · rfl
  · intro t mem
    rw [List.mem_cons, List.mem_singleton] at mem
    rcases mem with rfl | rfl
    · exact nodup_remote c.remote
    · exact nodup_help c.help

theorem fieldOr?_document (c : Config) {α : Type} (name : String) (absent : α)
    (read : Json → Option α) :
    fieldOr? ((Keyed.ofList (documentMembers c)).map fun m => (m.1, ofDocument m.1 m.2)) name absent
        read =
      (((documentMembers c).lookup name.toList).map fun j => read (ofDocument name.toList j)).getD
        (some absent) := by
  rw [fieldOr?, lookup_map_value, Keyed.lookup_ofList (nodup_documentMembers c)]
  cases (documentMembers c).lookup name.toList <;> rfl

theorem fieldOr?_remote (c : Config) (fits : c.remote.timeout < 18446744073709551616) :
    fieldOr? ((Keyed.ofList (documentMembers c)).map fun m => (m.1, ofDocument m.1 m.2)) "remote" {}
      Remote.ofJson? = some c.remote := by
  have table : (documentMembers c).lookup "remote".toList =
      some (ofMembers (Toml.memberObject c.remote.members)) := by
    unfold documentMembers members
    cases c.secondary <;> cases c.introduction <;> rfl
  rw [fieldOr?_document, table, Option.map_some, Option.getD_some]
  exact Remote.ofJson?_table c.remote fits

theorem fieldOr?_help (c : Config) (fits : c.help.timeout < 18446744073709551616) :
    fieldOr? ((Keyed.ofList (documentMembers c)).map fun m => (m.1, ofDocument m.1 m.2)) "help" {}
      Help.ofJson? = some c.help := by
  have table : (documentMembers c).lookup "help".toList =
      some (ofMembers (Toml.memberObject c.help.members)) := by
    unfold documentMembers members
    cases c.secondary <;> cases c.introduction <;> rfl
  rw [fieldOr?_document, table, Option.map_some, Option.getD_some]
  exact Help.ofJson?_table c.help fits

theorem ofJson?_document (c : Config) (remote : c.remote.timeout < 18446744073709551616)
    (help : c.help.timeout < 18446744073709551616) :
    ofJson? (.obj ((Keyed.ofList (documentMembers c)).map fun m => (m.1, ofDocument m.1 m.2))) =
      some { c with secondary := c.secondary.or ({} : Config).secondary } := by
  have mode : (documentMembers c).lookup "mode".toList = some (.str c.mode.name) := rfl
  have showDuplicates : (documentMembers c).lookup "show_duplicates".toList =
      some (.bool c.showDuplicates) := rfl
  have includeLocal : (documentMembers c).lookup "include_local".toList =
      some (.bool c.includeLocal) := rfl
  have secondary : (documentMembers c).lookup "secondary_dir".toList = c.secondary.map .str := by
    unfold documentMembers members
    cases c.secondary <;> cases c.introduction <;> rfl
  have docFolders : (documentMembers c).lookup "doc_folders".toList =
      some (ofTexts c.docFolders) := by
    unfold documentMembers members
    cases c.secondary <;> rfl
  have scriptFolders : (documentMembers c).lookup "script_folders".toList =
      some (ofTexts c.scriptFolders) := by
    unfold documentMembers members
    cases c.secondary <;> rfl
  have introduction : (documentMembers c).lookup "introduction".toList =
      c.introduction.map .str := by
    unfold documentMembers members
    cases c.secondary <;> cases c.introduction <;> rfl
  have modeRead : Mode.ofJson? (ofDocument "mode".toList (.str c.mode.name)) = some c.mode :=
    Mode.ofJson?_name c.mode
  have docFoldersRead : asList? asText? (ofDocument "doc_folders".toList (ofTexts c.docFolders)) =
      some c.docFolders := asList?_ofTexts c.docFolders
  have scriptFoldersRead :
      asList? asText? (ofDocument "script_folders".toList (ofTexts c.scriptFolders)) =
        some c.scriptFolders := asList?_ofTexts c.scriptFolders
  unfold ofJson?
  simp only [members?, Option.bind_eq_bind, Option.bind_some, fieldOr?_remote c remote,
    fieldOr?_help c help, fieldOr?_document, mode, showDuplicates, includeLocal, secondary,
    docFolders, scriptFolders, introduction, modeRead, docFoldersRead, scriptFoldersRead,
    Option.map_some, Option.getD_some]
  cases c.secondary <;> cases c.introduction <;> rfl

theorem fits_given {name : String} {t : Option Text} {m : Text × Toml.Value}
    (mem : m ∈ given name t) : m.2.fits := by
  cases t with
  | none => cases mem
  | some t =>
    obtain rfl := List.mem_singleton.mp mem
    trivial

theorem fits_members (c : Config) : ∀ m ∈ c.members, m.2.fits := by
  intro m mem
  unfold members at mem
  simp only [List.mem_append, List.mem_cons, List.not_mem_nil, or_false] at mem
  rcases mem with (((rfl | rfl | rfl) | mem) | rfl | rfl) | mem
  case inl.inl.inr => exact fits_given mem
  case inr => exact fits_given mem
  all_goals trivial

theorem fits_remote (r : Remote) :
    (∀ m ∈ r.members, m.2.fits) ↔ r.timeout < 9223372036854775808 := by
  constructor
  · intro all
    exact all ("timeout_secs".toList, .count r.timeout) (by simp [Remote.members])
  · intro fits m mem
    unfold Remote.members at mem
    simp only [List.mem_append, List.mem_cons, List.not_mem_nil, or_false] at mem
    rcases mem with ((rfl | mem) | mem) | rfl | rfl
    · trivial
    · exact fits_given mem
    · exact fits_given mem
    · trivial
    · exact fits

theorem fits_help (h : Help) :
    (∀ m ∈ h.members, m.2.fits) ↔ h.timeout < 9223372036854775808 := by
  constructor
  · intro all
    exact all ("timeout_secs".toList, .count h.timeout) (by simp [Help.members])
  · intro fits m mem
    unfold Help.members at mem
    simp only [List.mem_cons, List.not_mem_nil, or_false] at mem
    rcases mem with rfl | rfl | rfl
    · trivial
    · trivial
    · exact fits

theorem write?_isSome (c : Config) : c.write?.isSome ↔
    c.remote.timeout < 9223372036854775808 ∧ c.help.timeout < 9223372036854775808 := by
  rw [write?, Toml.write?_isSome, List.forall_mem_cons, List.forall_mem_singleton, fits_remote,
    fits_help]
  exact and_iff_right (fits_members c)

/-- What was written is read with the default in place of an absent folder. -/
theorem read?_write? {c : Config} {s : Text} (written : c.write? = some s) :
    read? s = some { c with secondary := c.secondary.or ({} : Config).secondary } := by
  obtain ⟨remote, help⟩ := c.write?_isSome.mp (Option.isSome_of_eq_some written)
  rw [read?, parse?_write? written]
  exact ofJson?_document c (by omega) (by omega)

/-- The configuration file of a project can be written in a tree, whatever is in it. -/
def Storable (t : Tree) (root : Text) : Prop :=
  ∃ made, t.makeFolder? root folderName = some made ∧
    (made.writeFile? (folderPath root) fileName []).isSome

theorem name_fileName : Path.Name fileName := by
  constructor <;> decide

theorem save_eq_ok {c : Config} {t t' : Tree} {root : Text} :
    c.save t root = .ok t' ↔ ∃ made s, t.makeFolder? root folderName = some made ∧
      c.write? = some s ∧ made.writeFile? (folderPath root) fileName (Utf8.encode s) = some t' := by
  constructor
  · intro saved
    unfold save at saved
    split at saved
    case h_1 => cases saved
    case h_2 made folder =>
      split at saved
      case h_1 => cases saved
      case h_2 s written =>
        split at saved
        case h_1 t' file =>
          obtain rfl := Except.ok.inj saved
          exact ⟨made, s, folder, written, file⟩
        case h_2 => cases saved
  · rintro ⟨made, s, folder, written, file⟩
    simp only [save, folder, written, file]

theorem save_succeeds {c : Config} {t : Tree} {root : Text} :
    (∃ t', c.save t root = .ok t') ↔ Storable t root ∧
      c.remote.timeout < 9223372036854775808 ∧ c.help.timeout < 9223372036854775808 := by
  rw [← write?_isSome]
  constructor
  · rintro ⟨t', saved⟩
    obtain ⟨made, s, folder, written, file⟩ := save_eq_ok.mp saved
    refine ⟨⟨made, folder, ?_⟩, Option.isSome_of_eq_some written⟩
    rw [Tree.isSome_writeFile? made _ _ [] (Utf8.encode s)]
    exact Option.isSome_of_eq_some file
  · rintro ⟨⟨made, folder, file⟩, written⟩
    obtain ⟨s, written⟩ := Option.isSome_iff_exists.mp written
    rw [Tree.isSome_writeFile? made _ _ [] (Utf8.encode s)] at file
    obtain ⟨t', file⟩ := Option.isSome_iff_exists.mp file
    exact ⟨t', save_eq_ok.mpr ⟨made, s, folder, written, file⟩⟩

theorem load_of_text? {t : Tree} {root s : Text} {c : Config}
    (text : t.text? (filePath root) = some s) (read : read? s = some c) :
    load t root = .ok c := by
  obtain ⟨bytes, found, -⟩ := Option.bind_eq_some_iff.mp text
  obtain ⟨place, found, -⟩ := Option.bind_eq_some_iff.mp found
  have there : ¬ (t.place? (filePath root)).isNone = true := by rw [found]; exact Bool.noConfusion
  unfold load
  simp only [if_neg there, text, read]

theorem load_save {c : Config} {t t' : Tree} {root : Text} (saved : c.save t root = .ok t') :
    load t' root = .ok { c with secondary := c.secondary.or ({} : Config).secondary } := by
  obtain ⟨made, s, -, written, file⟩ := save_eq_ok.mp saved
  have bytes := Tree.bytes?_writeFile? name_fileName file
  apply load_of_text? (s := s) _ (read?_write? written)
  rw [Tree.text?, filePath, bytes, Option.bind_some, Utf8.decode?_encode]

theorem or_default_eq (c : Config) :
    { c with secondary := c.secondary.or ({} : Config).secondary } = c ↔ c.secondary.isSome := by
  obtain ⟨mode, showDuplicates, includeLocal, secondary, docFolders, scriptFolders, introduction,
    remote, help⟩ := c
  cases secondary <;> simp

/-- A configuration survives exactly if its file can be written, there is a folder to search after
the root, and its timeouts fit a document. -/
theorem survives_iff (c : Config) (t : Tree) (root : Text) :
    (∃ t', c.save t root = .ok t' ∧ load t' root = .ok c) ↔
      Storable t root ∧ c.secondary.isSome ∧
        c.remote.timeout < 9223372036854775808 ∧ c.help.timeout < 9223372036854775808 := by
  constructor
  · rintro ⟨t', saved, loaded⟩
    obtain ⟨storable, fits⟩ := save_succeeds.mp ⟨t', saved⟩
    rw [load_save saved] at loaded
    exact ⟨storable, (or_default_eq c).mp (Except.ok.inj loaded), fits⟩
  · rintro ⟨storable, present, fits⟩
    obtain ⟨t', saved⟩ := save_succeeds.mpr ⟨storable, fits⟩
    refine ⟨t', saved, ?_⟩
    rw [load_save saved, (or_default_eq c).mpr present]

/-- A cleared folder comes back as the default one, though the project is an empty folder in which
any file can be written. -/
theorem cleared_secondary_returns :
    let t : Tree := ⟨"/p", []⟩
    let cleared : Config := { secondary := none }
    ({} : Config).set "secondary_dir" "" = .ok cleared ∧ Storable t "/p" ∧
    (∃ t', cleared.save t "/p" = .ok t' ∧ load t' "/p" = .ok {}) ∧
    cleared.get? "secondary_dir" = some "".toList ∧
    ({} : Config).get? "secondary_dir" = some "docs".toList := by
  intro t cleared
  have storable : Storable t "/p" := ⟨_, rfl, by decide +kernel⟩
  obtain ⟨t', saved⟩ := save_succeeds.mpr ⟨storable, (by decide : cleared.remote.timeout < _),
    (by decide : cleared.help.timeout < _)⟩
  exact ⟨rfl, storable, ⟨t', saved, load_save saved⟩, rfl, rfl⟩

end ModuleDocs.Config
