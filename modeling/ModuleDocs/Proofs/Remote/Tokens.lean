import ModuleDocs.Proofs.Remote.Hosts
import ModuleDocs.Proofs.Toml.Document

/-! Hosts and their letter case while a token store and its file change. Main statements: what the host
of a loaded entry answers after any further steps, which is never the token of the entry where the host
has a capital letter; and that without a file written by hand every entry answers to every spelling of
its host. -/
namespace ModuleDocs.Remote
open Text

theorem TokenStore.hostsOfJson?_texts {hosts : List (Text × Text)} (ordered : Keyed.Ordered hosts) :
    hostsOfJson? (.obj (hosts.map fun m => (m.1, .str m.2))) = some hosts := by
  have texts (hosts : List (Text × Text)) : (hosts.map fun m => (m.1, Json.str m.2)).mapM
      (fun m => (Json.asText? m.2).map fun t => (m.1, t)) = some hosts := by
    induction hosts with
    | nil => rfl
    | cons m rest ih =>
      rw [List.map_cons, List.mapM_cons, ih]
      rfl
  rw [hostsOfJson?, texts, Option.map_some, ordered.ofList_eq]

theorem TokenStore.read?_write? {s : TokenStore} (ordered : Keyed.Ordered s.hosts) {file : Text}
    (written : s.write? = some file) : read? file = some s := by
  have names : ((s.hosts.map fun m => (m.1, Toml.Value.text m.2)).map (·.1)).Nodup := by
    rw [List.map_map]
    exact ordered.nodup
  have members : Toml.memberObject (s.hosts.map fun m => (m.1, Toml.Value.text m.2)) =
      s.hosts.map fun m => (m.1, Json.str m.2) := by
    rw [Toml.memberObject, List.map_map]
    rfl
  have ordered' : Keyed.Ordered (s.hosts.map fun m => (m.1, Json.str m.2)) :=
    List.pairwise_map.mpr ordered
  have parsed : Toml.parse? file =
      some (.obj [("hosts".toList, .obj (s.hosts.map fun m => (m.1, Json.str m.2)))]) := by
    rw [Toml.parse?_write? written (by simp) (List.forall_mem_singleton.mpr names), Toml.document,
      List.map_singleton, members, Json.ofMembers, Json.ofMembers, ordered'.ofList_eq]
    rfl
  rw [read?, parsed, Option.bind_some, ofJson?, Json.members?, Option.bind_eq_bind, Option.bind_some,
    Json.fieldOr?, List.lookup_cons_self]
  simp only [hostsOfJson?_texts ordered]
  rfl

structure Session where
  store : TokenStore := {}
  file : Option Text := none

inductive Step where
  | set (host token : Text)
  | save
  | load
  | edit (text : Text)

namespace Session

def taken? (s : Session) : Step → Option TokenStore
  | .load => s.file.elim (some {}) TokenStore.read?
  | _ => none

/-- A step that fails changes nothing. -/
def step (s : Session) (t : Step) : Session :=
  match t with
  | .set host token => { s with store := s.store.set host token }
  | .save => { s with file := s.store.write?.or s.file }
  | .load => { s with store := (s.taken? .load).getD s.store }
  | .edit text => { s with file := some text }

theorem load_eq_step (t : Tree) (folder : Text) :
    TokenStore.load t folder =
      (step ⟨{}, t.text? (Path.join folder "modoc/tokens.toml".toList)⟩ .load).store := by
  rw [TokenStore.load, step, taken?]
  cases t.text? (Path.join folder "modoc/tokens.toml".toList) <;> rfl

def Keeps : Session → List Step → Prop
  | _, [] => True
  | s, t :: rest => s.taken? t = none ∧ Keeps (s.step t) rest

end Session

def Step.sets? (key : Text) : Step → Option Text
  | .set host token => if lowercase host = key then some token else none
  | _ => none

def lastSet? (key : Text) : List Step → Option Text
  | [] => none
  | t :: rest => (lastSet? key rest).or (t.sets? key)

namespace Session

theorem lookup_step {s : Session} {t : Step} (kept : s.taken? t = none) (key : Text) :
    (s.step t).store.hosts.lookup key = (t.sets? key).or (s.store.hosts.lookup key) := by
  cases t with
  | set host token =>
    rw [Step.sets?, step, TokenStore.lookup_set]
    split <;> rfl
  | save => rfl
  | load => rw [step, kept]; rfl
  | edit text => rfl

theorem lookup_foldl_step {s : Session} {steps : List Step} (kept : s.Keeps steps) (key : Text) :
    (steps.foldl step s).store.hosts.lookup key =
      (lastSet? key steps).or (s.store.hosts.lookup key) := by
  induction steps generalizing s with
  | nil => rfl
  | cons t rest ih =>
    obtain ⟨first, kept⟩ := kept
    rw [List.foldl_cons, ih kept, lookup_step first, lastSet?, Option.or_assoc]

end Session

/-- After a file was loaded and more steps were taken, the host of an entry of the file, if no other
one in it has the same spelling but for letter case, answers in every spelling with the token set for
it last. If none was set since, it answers with the token of the entry where the entry has the host in
lower case, and not at all where it has not. -/
theorem get?_after_load {s : Session} {file : Text} (handed : s.file = some file)
    {loaded : TokenStore} (valid : TokenStore.read? file = some loaded) {steps : List Step}
    (kept : (s.step .load).Keeps steps) {key token : Text}
    (entry : loaded.hosts.lookup key = some token)
    (sole : ∀ e ∈ loaded.hosts, lowercase e.1 = lowercase key → e.1 = key) :
    let store := (steps.foldl Session.step (s.step .load)).store
    (∀ host, lowercase host = lowercase key → store.get? host =
      (lastSet? (lowercase key) steps).or (if lowercase key = key then some token else none)) ∧
    (lastSet? (lowercase key) steps = none →
      ((∀ host, lowercase host = lowercase key → store.get? host = some token) ↔
        lowercase key = key)) := by
  intro store
  have taken : (s.step .load).store = loaded := by
    simp only [Session.step, Session.taken?, handed, Option.elim_some, valid, Option.getD_some]
  -- A host in lower case is spelled like the key, so the file has it only if it is the key itself.
  have found : loaded.hosts.lookup (lowercase key) =
      if lowercase key = key then some token else none := by
    split
    case isTrue lower => rw [lower, entry]
    case isFalse mixed =>
      refine Option.eq_none_iff_forall_not_mem.mpr fun other there => ?_
      exact mixed (sole _ (Keyed.mem_of_lookup there) (lowercase_lowercase key))
  have answers : ∀ host, lowercase host = lowercase key → store.get? host =
      (lastSet? (lowercase key) steps).or (if lowercase key = key then some token else none) := by
    intro host spelled
    rw [TokenStore.get?, spelled, Session.lookup_foldl_step kept, taken, found]
  refine ⟨answers, fun unset => ?_⟩
  rw [unset, Option.none_or] at answers
  constructor
  · intro all
    have own := answers key rfl
    rw [all key rfl] at own
    split at own
    case isTrue lower => exact lower
    case isFalse => contradiction
  · intro lower host spelled
    rw [answers host spelled, if_pos lower]

theorem get?_after_load_lower :
    let s : Session := ⟨{}, some "[hosts]\n\"ghe.example\" = \"a\"\n\"github.com\" = \"b\"\n".toList⟩
    let steps := [Step.set "GHE.example" "c", .save]
    let store := (steps.foldl Session.step (s.step .load)).store
    (s.step .load).Keeps steps ∧ lastSet? "github.com" steps = none ∧
    ∀ host, lowercase host = lowercase "github.com" → store.get? host = some "b".toList := by
  intro s steps store
  have unset : lastSet? (lowercase "github.com") steps = none := by decide +kernel
  have valid : TokenStore.read? "[hosts]\n\"ghe.example\" = \"a\"\n\"github.com\" = \"b\"\n".toList =
      some ⟨[("ghe.example".toList, "a".toList), ("github.com".toList, "b".toList)]⟩ := by
    decide +kernel
  have kept : (s.step .load).Keeps steps := ⟨rfl, rfl, trivial⟩
  refine ⟨kept, by decide +kernel, ?_⟩
  exact ((get?_after_load rfl valid kept rfl (by decide +kernel)).2 unset).mpr (by decide +kernel)

/-- An entry whose host has capitals answers to no spelling, not even to its own. -/
theorem get?_capitals :
    let s : Session := ⟨{}, some "[hosts]\n\"GitHub.com\" = \"abc\"\n"⟩
    let store := (s.step .load).store
    store.hosts = [("GitHub.com".toList, "abc".toList)] ∧
    lowercase "github.com" = lowercase "GitHub.com" ∧
    store.get? "github.com" = none ∧ store.get? "GitHub.com" = none := by
  decide +kernel

/-- Hosts as setting tokens leaves them: in lower case and in order. -/
structure TokenStore.Kept (s : TokenStore) : Prop where
  ordered : Keyed.Ordered s.hosts
  lower : ∀ e ∈ s.hosts, lowercase e.1 = e.1

theorem TokenStore.Kept.set {s : TokenStore} (kept : s.Kept) (host token : Text) :
    (s.set host token).Kept where
  ordered := Keyed.ordered_put kept.ordered _ _
  lower e mem := by
    rcases Keyed.mem_of_mem_put mem with rfl | mem
    · exact lowercase_lowercase host
    · exact kept.lower e mem

theorem TokenStore.Kept.get? {s : TokenStore} (kept : s.Kept) {e : Text × Text} (mem : e ∈ s.hosts)
    {host : Text} (spelled : lowercase host = lowercase e.1) : s.get? host = some e.2 := by
  rw [TokenStore.get?, spelled, kept.lower e mem]
  exact Keyed.lookup_of_mem kept.ordered.nodup mem

structure Session.Kept (s : Session) : Prop where
  store : s.store.Kept
  file : ∀ text, s.file = some text → ∃ saved, TokenStore.read? text = some saved ∧ saved.Kept

theorem Session.Kept.step {s : Session} (kept : s.Kept) {t : Step} (own : ∀ text, t ≠ .edit text) :
    (s.step t).Kept := by
  cases t with
  | set host token => exact ⟨kept.store.set host token, kept.file⟩
  | save =>
    refine ⟨kept.store, fun text file => ?_⟩
    rcases Option.or_eq_some_iff.mp file with written | ⟨-, before⟩
    · exact ⟨s.store, TokenStore.read?_write? kept.store.ordered written, kept.store⟩
    · exact kept.file text before
  | load =>
    refine ⟨?_, kept.file⟩
    rw [Session.step, Session.taken?]
    cases file : s.file with
    | none => exact ⟨.nil, fun _ mem => absurd mem List.not_mem_nil⟩
    | some text =>
      obtain ⟨saved, read, kept⟩ := kept.file text file
      rw [Option.elim_some, read]
      exact kept
  | edit text => exact absurd rfl (own text)

theorem Session.Kept.foldl_step {s : Session} (kept : s.Kept) {steps : List Step}
    (own : ∀ text, Step.edit text ∉ steps) : (steps.foldl Session.step s).Kept := by
  induction steps generalizing s with
  | nil => exact kept
  | cons t rest ih =>
    simp only [List.mem_cons, not_or] at own
    exact ih (kept.step fun text => (own text).1 ∘ Eq.symm) fun text => (own text).2

theorem get?_without_edit {steps : List Step} (own : ∀ text, Step.edit text ∉ steps)
    {e : Text × Text} (mem : e ∈ (steps.foldl Session.step {}).store.hosts) {host : Text}
    (spelled : lowercase host = lowercase e.1) :
    (steps.foldl Session.step {}).store.get? host = some e.2 := by
  have start : ({} : Session).Kept :=
    ⟨⟨.nil, fun _ mem => absurd mem List.not_mem_nil⟩, fun _ file => nomatch file⟩
  exact (start.foldl_step own).store.get? mem spelled

end ModuleDocs.Remote
