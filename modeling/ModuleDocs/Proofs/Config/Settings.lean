import ModuleDocs.Config.Basic
import ModuleDocs.Proofs.Text.Digits

/-! Values of a configuration by key. Each key has a field of its own, whose values have one of five
forms, and a setting is a text read in the form of the key and put into its field. So what is set is shown,
no other field changes, and what is shown can be set again. -/
namespace ModuleDocs.Config
open Selection Text

inductive Form where
  | mode
  | flag
  | optional
  | text
  | seconds

namespace Form

abbrev Value : Form → Type
  | mode => Mode
  | flag => Bool
  | optional => Option Text
  | text => Text
  | seconds => Nat

def read? : (f : Form) → Text → Option f.Value
  | mode, s => mode? s
  | flag, s => flag? s
  | optional, s => some (present? s)
  | text, s => some s
  | seconds, s => seconds? s

def shown : (f : Form) → f.Value → Text
  | mode, m => m.name
  | flag, b => flagText b
  | optional, t => t.getD []
  | text, t => t
  | seconds, n => Text.ofNat n

/-- The text that a value is shown as once it was read: a mode in lower case, a number in plain digits, any
other text as it is. -/
def canonical : Form → Text → Text
  | mode, s => lowerAscii s
  | seconds, s => plainDigits ((stripPrefix? s ['+']).getD s)
  | _, s => s

def Settled : (f : Form) → f.Value → Prop
  | mode, _ => True
  | flag, _ => True
  | optional, t => ∀ s ∈ t, Solid s
  | text, t => trim t = t
  | seconds, n => n < 18446744073709551616

theorem mode?_eq_some {s : Text} {m : Mode} (read : mode? s = some m) : m.name = lowerAscii s := by
  have named := List.find?_some read
  exact beq_iff_eq.mp named

theorem flag?_eq_some {s : Text} {b : Bool} (read : flag? s = some b) : flagText b = s := by
  unfold flag? at read
  split at read
  case isTrue same => cases read; exact same.symm
  case isFalse =>
    split at read
    case isTrue same => cases read; exact same.symm
    case isFalse => contradiction

theorem present?_getD (s : Text) : (present? s).getD [] = s := by
  unfold present?
  split
  case isTrue empty => exact (List.isEmpty_iff.mp empty).symm
  case isFalse => rfl

theorem seconds?_eq_some {s : Text} {n : Nat} (read : seconds? s = some n) :
    (∀ c ∈ (stripPrefix? s ['+']).getD s, c.isDigit = true) ∧
      n = numberIn 10 ((stripPrefix? s ['+']).getD s) ∧ n < 18446744073709551616 := by
  unfold seconds? at read
  simp only [Option.ite_none_right_eq_some, Option.some.injEq, List.all_eq_true] at read
  obtain ⟨⟨-, digits, bound⟩, rfl⟩ := read
  exact ⟨digits, rfl, bound⟩

theorem shown_of_read? {f : Form} {s : Text} {v : f.Value} (read : f.read? s = some v) :
    f.shown v = f.canonical s := by
  cases f with
  | mode => exact mode?_eq_some read
  | flag => exact flag?_eq_some read
  | optional =>
    obtain rfl : present? s = v := Option.some.inj read
    exact present?_getD s
  | text => exact (Option.some.inj read).symm
  | seconds =>
    obtain ⟨digits, number, -⟩ := seconds?_eq_some read
    change Text.ofNat v = _
    rw [number, ofNat_numberIn digits]
    rfl

theorem settled_of_read? {f : Form} {s : Text} {v : f.Value} (read : f.read? (trim s) = some v) :
    f.Settled v := by
  cases f with
  | mode => trivial
  | flag => trivial
  | optional =>
    obtain rfl : present? (trim s) = v := Option.some.inj read
    intro t mem
    unfold present? at mem
    split at mem
    case isTrue => contradiction
    case isFalse nonempty =>
      obtain rfl := Option.some.inj mem
      exact solid_trim (by simpa using nonempty)
  | text =>
    obtain rfl : trim s = v := Option.some.inj read
    exact trim_trim s
  | seconds => exact (seconds?_eq_some read).2.2

theorem seconds?_ofNat {n : Nat} (fits : n < 18446744073709551616) : seconds? (Text.ofNat n) = some n := by
  have digits : ∀ c ∈ Text.ofNat n, c.isDigit = true := fun _ => isDigit_of_mem_ofNat
  obtain ⟨c, rest, begins⟩ := List.exists_cons_of_ne_nil (ofNat_ne_nil n)
  have unsigned : stripPrefix? (Text.ofNat n) ['+'] = none := by
    have digit := digits c (begins ▸ List.mem_cons_self)
    have other : ('+' == c) = false := by
      rw [beq_eq_false_iff_ne]
      rintro rfl
      contradiction
    rw [begins, stripPrefix?, List.isPrefixOf?, other]
    rfl
  have all : (Text.ofNat n).all Char.isDigit = true := List.all_eq_true.mpr digits
  simp only [seconds?, unsigned, Option.getD_none, numberIn_ofNat]
  rw [if_pos ⟨ofNat_ne_nil n, all, fits⟩]

theorem read?_shown {f : Form} {v : f.Value} (settled : f.Settled v) :
    f.read? (trim (f.shown v)) = some v := by
  cases f with
  | mode => cases v <;> rfl
  | flag => cases v <;> rfl
  | optional =>
    cases v with
    | none => rfl
    | some t =>
      have solid : Solid t := settled t rfl
      change some (present? (trim t)) = some (some t)
      rw [solid.trim_eq, present?, if_neg (by simpa using solid.nonempty)]
  | text => exact congrArg some settled
  | seconds =>
    change seconds? (trim (Text.ofNat v)) = some v
    rw [(solid_ofNat v).trim_eq, seconds?_ofNat settled]

end Form

abbrev Key.form : Key → Form
  | mode => .mode
  | showDuplicates | includeLocal | remoteEnabled => .flag
  | secondary | introduction | remoteRepository | remoteBranch => .optional
  | remoteApiBase | helpProgram => .text
  | remoteTimeout | helpTimeout => .seconds

def field (c : Config) : (k : Key) → k.form.Value
  | .mode => c.mode
  | .showDuplicates => c.showDuplicates
  | .includeLocal => c.includeLocal
  | .secondary => c.secondary
  | .introduction => c.introduction
  | .remoteEnabled => c.remote.enabled
  | .remoteRepository => c.remote.repository
  | .remoteBranch => c.remote.branch
  | .remoteApiBase => c.remote.apiBase
  | .remoteTimeout => c.remote.timeout
  | .helpProgram => c.help.program
  | .helpTimeout => c.help.timeout

def withField (c : Config) : (k : Key) → k.form.Value → Config
  | .mode, v => { c with mode := v }
  | .showDuplicates, v => { c with showDuplicates := v }
  | .includeLocal, v => { c with includeLocal := v }
  | .secondary, v => { c with secondary := v }
  | .introduction, v => { c with introduction := v }
  | .remoteEnabled, v => { c with remote.enabled := v }
  | .remoteRepository, v => { c with remote.repository := v }
  | .remoteBranch, v => { c with remote.branch := v }
  | .remoteApiBase, v => { c with remote.apiBase := v }
  | .remoteTimeout, v => { c with remote.timeout := v }
  | .helpProgram, v => { c with help.program := v }
  | .helpTimeout, v => { c with help.timeout := v }

def unkeyed (c : Config) : List Text × List Text × List Text :=
  (c.docFolders, c.scriptFolders, c.help.args)

section

variable (c : Config) (k : Key)

theorem get_eq_shown : c.get k = k.form.shown (c.field k) := by
  cases k <;> rfl

theorem put?_eq_map (s : Text) : c.put? s k = (k.form.read? s).map (c.withField k) := by
  cases k <;> rfl

theorem field_withField_self (v : k.form.Value) : (c.withField k v).field k = v := by
  cases k <;> rfl

theorem withField_field : c.withField k (c.field k) = c := by
  cases k <;> rfl

theorem unkeyed_withField (v : k.form.Value) : (c.withField k v).unkeyed = c.unkeyed := by
  cases k <;> rfl

variable {k} in
theorem field_withField_of_ne {j : Key} (other : j ≠ k) (v : k.form.Value) :
    (c.withField k v).field j = c.field j := by
  cases k <;> cases j <;> first | rfl | contradiction

end

theorem Key.ofName?_name (k : Key) : Key.ofName? k.name = some k := by
  cases k <;> decide

theorem Key.ofName?_eq_some {name : Text} {k : Key} (found : Key.ofName? name = some k) :
    name = k.name := by
  have named := List.find?_some found
  exact (beq_iff_eq.mp named).symm

/-- A setting that succeeds puts a value of the form of its key into the field of the key. -/
theorem set_eq_ok {c c' : Config} {name value : Text} (done : c.set name value = .ok c') :
    ∃ (k : Key) (v : k.form.Value), name = k.name ∧ k.form.read? (trim value) = some v ∧
      c' = c.withField k v := by
  unfold set at done
  split at done
  case h_1 => contradiction
  case h_2 k found =>
    rw [put?_eq_map] at done
    cases read : k.form.read? (trim value) with
    | none =>
      rw [read] at done
      contradiction
    | some v =>
      rw [read] at done
      exact ⟨k, v, Key.ofName?_eq_some found, read, (Except.ok.inj done).symm⟩

theorem set_of_read? {c : Config} {k : Key} {value : Text} {v : k.form.Value}
    (read : k.form.read? (trim value) = some v) : c.set k.name value = .ok (c.withField k v) := by
  simp only [set, Key.ofName?_name, put?_eq_map, read, Option.map_some]

/-- What the default configuration becomes by settings that succeed. -/
inductive Reachable : Config → Prop where
  | default : Reachable {}
  | set {c c' : Config} {name value : Text} :
      Reachable c → c.set name value = .ok c' → Reachable c'

def Settled (c : Config) : Prop := ∀ k : Key, k.form.Settled (c.field k)

theorem settled_default : Settled {} := by
  intro k
  cases k with
  | mode | showDuplicates | includeLocal | remoteEnabled => trivial
  | secondary =>
    intro t given
    obtain rfl := Option.some.inj given
    exact ⟨by decide, by decide, by decide⟩
  | introduction | remoteRepository | remoteBranch => exact fun _ given => nomatch given
  | remoteApiBase | helpProgram => rfl
  | remoteTimeout => exact (by decide : 15 < 18446744073709551616)
  | helpTimeout => exact (by decide : 30 < 18446744073709551616)

theorem Settled.set {c c' : Config} (settled : c.Settled) {name value : Text}
    (done : c.set name value = .ok c') : c'.Settled := by
  obtain ⟨k, v, -, read, rfl⟩ := set_eq_ok done
  intro j
  by_cases same : j = k
  case pos =>
    subst same
    rw [field_withField_self]
    exact Form.settled_of_read? read
  case neg =>
    rw [field_withField_of_ne c same]
    exact settled j

theorem Reachable.settled {c : Config} (reached : Reachable c) : c.Settled := by
  induction reached with
  | default => exact settled_default
  | set _ done ih => exact ih.set done

theorem Settled.set_get {c : Config} (settled : c.Settled) (k : Key) :
    c.set k.name (c.get k) = .ok c := by
  rw [get_eq_shown, set_of_read? (Form.read?_shown (settled k)), withField_field]

/-- A setting that changes a configuration in place; one that fails keeps what it changed before. -/
abbrev Setting := ExceptT SetError (StateM Config)

def Setting.parsed {α : Type} (read : Text → Option α) (value : Text) (k : Key) : Setting α :=
  match read value with
  | some a => pure a
  | none => throw (misfit value k)

/-- Reads the value in the form of the key, and puts it where it belongs. -/
def setInPlace (name value : Text) : Setting Unit := do
  let value := trim value
  match Key.ofName? name with
  | none => throw (.unknownKey name)
  | some k =>
    let flag := Setting.parsed flag? value k
    let seconds := Setting.parsed seconds? value k
    match k with
    | .mode => do
      let m ← Setting.parsed mode? value k
      modify fun c => { c with mode := m }
    | .showDuplicates => do
      let b ← flag
      modify fun c => { c with showDuplicates := b }
    | .includeLocal => do
      let b ← flag
      modify fun c => { c with includeLocal := b }
    | .secondary => modify fun c => { c with secondary := present? value }
    | .introduction => modify fun c => { c with introduction := present? value }
    | .remoteEnabled => do
      let b ← flag
      modify fun c => { c with remote.enabled := b }
    | .remoteRepository => modify fun c => { c with remote.repository := present? value }
    | .remoteBranch => modify fun c => { c with remote.branch := present? value }
    | .remoteApiBase => modify fun c => { c with remote.apiBase := value }
    | .remoteTimeout => do
      let n ← seconds
      modify fun c => { c with remote.timeout := n }
    | .helpProgram => modify fun c => { c with help.program := value }
    | .helpTimeout => do
      let n ← seconds
      modify fun c => { c with help.timeout := n }

theorem run_setInPlace (c : Config) (name value : Text) :
    (setInPlace name value).run.run c =
      match c.set name value with
      | .ok c' => (.ok (), c')
      | .error e => (.error e, c) := by
  unfold setInPlace set Setting.parsed
  cases Key.ofName? name with
  | none => rfl
  | some k =>
    cases k with
    | mode => dsimp only [put?]; cases mode? (trim value) <;> rfl
    | showDuplicates | includeLocal | remoteEnabled =>
      dsimp only [put?]
      cases flag? (trim value) <;> rfl
    | remoteTimeout | helpTimeout =>
      dsimp only [put?]
      cases seconds? (trim value) <;> rfl
    | secondary | introduction | remoteRepository | remoteBranch | remoteApiBase | helpProgram => rfl

/-- Settings obey the laws of a lens, and are made as a whole or not at all. A setting in place that fails
leaves the configuration as it was. One that succeeds shows the canonical text of the trimmed value under
its key, and changes neither the field of another key nor a field without one. And whatever settings made
of the default configuration takes back what it shows under any key, unchanged. -/
theorem set_lens :
    (∀ (c : Config) (name value : Text), (setInPlace name value).run.run c =
      match c.set name value with
      | .ok c' => (.ok (), c')
      | .error e => (.error e, c)) ∧
    (∀ (c c' : Config) (name value : Text), c.set name value = .ok c' →
      ∃ k : Key, name = k.name ∧ c'.get? name = some (k.form.canonical (trim value)) ∧
        (∀ j, j ≠ k → c'.field j = c.field j) ∧ c'.unkeyed = c.unkeyed) ∧
    ∀ c, Reachable c → ∀ k : Key, ∃ t, c.get? k.name = some t ∧ c.set k.name t = .ok c := by
  refine ⟨run_setInPlace, fun c c' name value done => ?_, fun c reached k => ?_⟩
  · obtain ⟨k, v, rfl, read, rfl⟩ := set_eq_ok done
    refine ⟨k, rfl, ?_, fun j other => field_withField_of_ne c other v, unkeyed_withField c k v⟩
    rw [get?, Key.ofName?_name, Option.map_some, get_eq_shown, field_withField_self,
      Form.shown_of_read? read]
  · refine ⟨c.get k, ?_, reached.settled.set_get k⟩
    rw [get?, Key.ofName?_name, Option.map_some]

theorem set_lens_zeros :
    let c : Config := { remote := { timeout := 7 } }
    ({} : Config).set "remote.timeout_secs" " +007\n" = .ok c ∧
    (∃ k : Key, "remote.timeout_secs".toList = k.name ∧
      c.get? "remote.timeout_secs" = some (k.form.canonical (trim " +007\n")) ∧
      (∀ j, j ≠ k → c.field j = ({} : Config).field j) ∧ c.unkeyed = ({} : Config).unkeyed) ∧
    c.get? "remote.timeout_secs" = some "7".toList ∧
    Reachable c ∧ ∀ k : Key, ∃ t, c.get? k.name = some t ∧ c.set k.name t = .ok c := by
  intro c
  have done : ({} : Config).set "remote.timeout_secs" " +007\n" = .ok c := by decide
  have reached : Reachable c := .set .default done
  exact ⟨done, set_lens.2.1 {} c _ _ done, by decide, reached, set_lens.2.2 c reached⟩

end ModuleDocs.Config
