import ModuleDocs.Proofs.Keyed
import ModuleDocs.Proofs.Toml.Value

namespace ModuleDocs.Toml

theorem mark_of_isBareKeyChar {c : Char} (bare : isBareKeyChar c = true) : Mark c := by
  have other (d : Char) (notBare : isBareKeyChar d = false) : c ≠ d := by
    rintro rfl
    rw [bare] at notBare
    contradiction
  have blank : isBlank c = false := by simp [isBlank, other ' ' (by decide), other '\t' (by decide)]
  exact ⟨blank, other '#' (by decide), other '\n' (by decide), other '\r' (by decide)⟩

theorem writeKey_begins (k rest : Text) :
    ∃ c tail, writeKey k ++ rest = c :: tail ∧ Mark c ∧ c ≠ '[' ∧ c ≠ '\ufeff' := by
  unfold writeKey
  split
  case isTrue bare =>
    rw [Bool.and_eq_true, Bool.not_eq_true', List.isEmpty_eq_false_iff] at bare
    obtain ⟨c, tail, rfl⟩ := List.exists_cons_of_ne_nil bare.1
    have letter : isBareKeyChar c = true := List.all_eq_true.mp bare.2 c List.mem_cons_self
    refine ⟨c, tail ++ rest, rfl, mark_of_isBareKeyChar letter, ?_, ?_⟩
    all_goals
      rintro rfl
      exact absurd letter (by decide)
  case isFalse =>
    split
    · exact ⟨'\'', _, rfl, by constructor <;> decide, by decide, by decide⟩
    · exact ⟨'"', _, rfl, by constructor <;> decide, by decide, by decide⟩

theorem keyPart?_writeKey (k : Text) {d : Char} (stop : isBareKeyChar d = false) (rest : Text) :
    keyPart? (writeKey k ++ d :: rest) = some (k, d :: rest) := by
  unfold writeKey
  split
  case isTrue bare =>
    rw [Bool.and_eq_true, Bool.not_eq_true', List.isEmpty_eq_false_iff] at bare
    have letters : ∀ c ∈ k, isBareKeyChar c = true := List.all_eq_true.mp bare.2
    have word := takeWhile_append_cons letters stop rest
    have nonempty : k.isEmpty = false := List.isEmpty_eq_false_iff.mpr bare.1
    have quoted (q : Char) (notBare : isBareKeyChar q = false) (tail : Text) :
        k ++ d :: rest ≠ q :: tail := by
      intro begins
      obtain ⟨c, more, rfl⟩ := List.exists_cons_of_ne_nil bare.1
      rw [List.cons_append, List.cons.injEq] at begins
      have letter := letters c List.mem_cons_self
      rw [begins.1, notBare] at letter
      contradiction
    rw [keyPart?]
    · simp [word, nonempty]
    · exact quoted '"' (by decide)
    · exact quoted '\'' (by decide)
  case isFalse =>
    cases form : formOf k
    case literal =>
      simp only [List.cons_append, List.nil_append, List.append_assoc]
      rw [keyPart?]
      exact line?_literal form (d :: rest)
    all_goals
      simp only [List.cons_append, List.nil_append, List.append_assoc]
      rw [keyPart?]
      exact line?_escaped k (d :: rest)

theorem key?_writeKey (depth : Nat) (k : Text) {d e : Char} {rest after : Text}
    (stop : isBareKeyChar d = false) (next : skipBlanks (d :: rest) = e :: after)
    (point : e ≠ '.') :
    key? (depth + 1) (writeKey k ++ d :: rest) = some ([k], e :: after) := by
  obtain ⟨c, tail, begins, mark, -, -⟩ := writeKey_begins k (d :: rest)
  have part := keyPart?_writeKey k stop rest
  rw [begins] at part ⊢
  rw [key?, skipBlanks_mark mark, part]
  simp only [Option.bind_eq_bind, Option.bind_some, next]
  split
  case h_1 _ begins => exact absurd (List.cons.inj begins).1 point
  case h_2 => rfl

theorem quote_notBlank (t : Text) : ∃ c tail, quote t = c :: tail ∧ isBlank c = false := by
  obtain ⟨q, tail, begins, quotes⟩ := quote_eq_cons t
  refine ⟨q, tail, begins, ?_⟩
  rcases quotes with rfl | rfl <;> decide

theorem writeValue?_begins {v : Value} {s : Text} (written : writeValue? v = some s) :
    ∃ c tail, s = c :: tail ∧ isBlank c = false := by
  cases v with
  | text t =>
    obtain rfl := Option.some.inj written
    exact quote_notBlank t
  | texts ts =>
    obtain rfl := Option.some.inj written
    match ts with
    | [] => exact ⟨'[', _, rfl, by decide⟩
    | [t] => exact ⟨'[', _, rfl, by decide⟩
    | t :: u :: more => exact ⟨'[', _, rfl, by decide⟩
  | flag b =>
    obtain rfl := Option.some.inj written
    cases b with
    | true => exact ⟨'t', _, rfl, by decide⟩
    | false => exact ⟨'f', _, rfl, by decide⟩
  | count n =>
    obtain ⟨-, rfl⟩ := writeInteger?_natCast written
    obtain ⟨c, tail, begins⟩ := List.exists_cons_of_ne_nil (Text.ofNat_ne_nil n)
    have digit : c.isDigit = true := Text.isDigit_of_mem_ofNat (begins ▸ List.mem_cons_self)
    refine ⟨c, tail, begins, ?_⟩
    unfold isBlank
    rw [Bool.or_eq_false_iff]
    constructor
    all_goals
      rw [beq_eq_false_iff_ne]
      rintro rfl
      exact absurd digit (by decide)

theorem skipBlanks_notBlank {c : Char} (notBlank : isBlank c = false) (rest : Text) :
    skipBlanks (c :: rest) = c :: rest := by
  rw [skipBlanks, List.dropWhile_cons, notBlank]
  rfl

theorem pair?_memberLine {v : Value} {s : Text} (k : Text) (written : writeValue? v = some s)
    (rest : Text) : pair? (value? maxDepth) (memberLine k s ++ '\n' :: rest) =
      some (([k], v.toJson), '\n' :: rest) := by
  obtain ⟨c, tail, begins, notBlank⟩ := writeValue?_begins written
  have value := value?_writeValue 78 written rest
  have blanks : skipBlanks (' ' :: (s ++ '\n' :: rest)) = s ++ '\n' :: rest := by
    rw [begins]
    exact skipBlanks_notBlank notBlank _
  have line : memberLine k s ++ '\n' :: rest =
      writeKey k ++ ' ' :: '=' :: ' ' :: (s ++ '\n' :: rest) := by simp [memberLine]
  have key : key? 79 (writeKey k ++ ' ' :: '=' :: ' ' :: (s ++ '\n' :: rest)) =
      some ([k], '=' :: ' ' :: (s ++ '\n' :: rest)) :=
    key?_writeKey 78 k (by decide) rfl (by decide)
  rw [line, pair?, show maxDepth = 79 from rfl, key]
  simp [expect?, blanks, value]

theorem memberLine_begins (k s rest : Text) :
    ∃ c tail, memberLine k s ++ rest = c :: tail ∧ Mark c ∧ c ≠ '[' ∧ c ≠ '\ufeff' := by
  have begins := writeKey_begins k (" = ".toList ++ s ++ rest)
  simpa only [memberLine, List.append_assoc] using begins

theorem finishLine?_newline (rest : Text) : finishLine? ('\n' :: rest) = some rest := by
  have blanks : skipBlanks ('\n' :: rest) = '\n' :: rest := rfl
  simp [finishLine?, blanks, skipComment?_cons, lineEnd?]

theorem statements?_newline (fuel : Nat) (p : Progress) (rest : Text) :
    statements? (fuel + 1) p ('\n' :: rest) = statements? (fuel + 1) p rest := by
  rw [statements?, statements?, List.length_cons, skipLines?_newline]

theorem statements?_nil (fuel : Nat) (p : Progress) : statements? (fuel + 1) p [] = some p.root :=
  rfl

theorem statements?_of_statement? {fuel : Nat} {p next : Progress} {c : Char} {tail rest : Text}
    (mark : Mark c) (taken : statement? p (c :: tail) = some (next, '\n' :: rest)) :
    statements? (fuel + 1) p (c :: tail) = statements? fuel next rest := by
  rw [statements?, skipLines?_mark mark]
  simp [taken, finishLine?_newline]

theorem statements?_memberLine {fuel : Nat} {p : Progress} {k s : Text} {v : Value}
    {root : Members} (written : writeValue? v = some s)
    (inserted : update .implied (insertValue [k] v.toJson) p.path .stated p.root = some root)
    (rest : Text) : statements? (fuel + 1) p (memberLine k s ++ '\n' :: rest) =
      statements? fuel ⟨root, p.path⟩ rest := by
  have pair := pair?_memberLine k written rest
  obtain ⟨c, tail, begins, mark, notHeader, -⟩ := memberLine_begins k s ('\n' :: rest)
  rw [begins] at pair ⊢
  apply statements?_of_statement? mark
  rw [statement?]
  · simp [pair, inserted]
  · exact fun _ same => notHeader (List.cons.inj same).1
  · exact fun _ same => notHeader (List.cons.inj same).1

theorem statements?_header {fuel : Nat} {p : Progress} {name : Text} {root : Members}
    (opened : openTable [name] p.root = some root) (rest : Text) :
    statements? (fuel + 1) p (header name ++ '\n' :: rest) =
      statements? fuel ⟨root, [name]⟩ rest := by
  have mark : Mark '[' := by constructor <;> decide
  obtain ⟨c, tail, begins, -, notHeader, -⟩ := writeKey_begins name (']' :: '\n' :: rest)
  have key : key? 79 (writeKey name ++ ']' :: '\n' :: rest) = some ([name], ']' :: '\n' :: rest) :=
    key?_writeKey 78 name (by decide) rfl (by decide)
  have line : header name ++ '\n' :: rest = '[' :: (writeKey name ++ ']' :: '\n' :: rest) := by
    simp [header]
  rw [line]
  apply statements?_of_statement? mark
  rw [begins] at key ⊢
  rw [statement?]
  · rw [show maxDepth = 79 from rfl, key]
    simp [expect?, opened]
  · exact fun _ same => notHeader (List.cons.inj same).1

def addValues (t : Members) (ms : List (Text × Value)) : Members :=
  ms.foldl (fun t m => Keyed.put m.1 (.value m.2.toJson) t) t

def addTables (root : Members) (tables : List (Text × List (Text × Value))) : Members :=
  tables.foldl (fun root t => Keyed.put t.1 (.table .stated (addValues [] t.2)) root) root

/-- The open table of a document: a new value goes into it and changes nothing else. -/
structure Takes (place : Members → Progress) : Prop where
  insert : ∀ t k j, t.lookup k = none →
    update .implied (insertValue [k] j) (place t).path .stated (place t).root =
      some (place (Keyed.put k (.value j) t)).root
  path : ∀ t t', (place t).path = (place t').path

theorem insertValue_new {t : Members} {k : Text} (new : t.lookup k = none) (j : Json) :
    insertValue [k] j .stated t = some (Keyed.put k (.value j) t) := by
  simp [insertValue, update, new]

theorem takes_root : Takes fun t => ⟨t, []⟩ where
  insert _ _ j new := insertValue_new new j
  path _ _ := rfl

theorem takes_table (root : Members) (name : Text) :
    Takes fun t => ⟨Keyed.put name (.table .stated t) root, [name]⟩ where
  insert _ _ j new := by
    simp only [update, Keyed.lookup_put_self]
    simp [insertValue_new new j, Keyed.put_put]
  path _ _ := rfl

theorem openTable_new {root : Members} {name : Text} (new : root.lookup name = none) :
    openTable [name] root = some (Keyed.put name (.table .stated []) root) := by
  simp [openTable, update, new]

theorem writeMembers?_cons {k : Text} {v : Value} {ms : List (Text × Value)} {s : Text}
    (written : writeMembers? ((k, v) :: ms) = some s) :
    ∃ value rest, writeValue? v = some value ∧ writeMembers? ms = some rest ∧
      s = memberLine k value ++ '\n' :: rest := by
  obtain ⟨lines, mapped, rfl⟩ := Option.map_eq_some_iff.mp written
  rw [List.mapM_cons] at mapped
  simp only [Option.bind_eq_bind, Option.bind_eq_some_iff, Option.map_eq_some_iff] at mapped
  obtain ⟨line, ⟨value, valueWritten, rfl⟩, more, moreWritten, same⟩ := mapped
  obtain rfl := Option.some.inj same
  refine ⟨value, more.flatten, valueWritten, ?_, ?_⟩
  · rw [writeMembers?, moreWritten, Option.map_some]
  · simp

theorem statements?_members {place : Members → Progress} (takes : Takes place)
    {ms : List (Text × Value)} {s : Text} (written : writeMembers? ms = some s)
    (names : (ms.map (·.1)).Nodup) {t : Members} (new : ∀ m ∈ ms, t.lookup m.1 = none) {fuel : Nat}
    {rest : Text} (enough : (s ++ rest).length < fuel) :
    ∃ fuel', rest.length < fuel' ∧
      statements? fuel (place t) (s ++ rest) = statements? fuel' (place (addValues t ms)) rest := by
  induction ms generalizing s t fuel with
  | nil =>
    obtain rfl := Option.some.inj written
    exact ⟨fuel, enough, rfl⟩
  | cons m more ih =>
    obtain ⟨k, v⟩ := m
    obtain ⟨value, lines, valueWritten, linesWritten, rfl⟩ := writeMembers?_cons written
    rw [List.map_cons, List.nodup_cons] at names
    have inserted := takes.insert t k v.toJson (new _ List.mem_cons_self)
    have later : ∀ m ∈ more, (Keyed.put k (.value v.toJson) t).lookup m.1 = none := by
      intro m mem
      have different : m.1 ≠ k := fun same => names.1 (List.mem_map.mpr ⟨m, mem, same⟩)
      rw [Keyed.lookup_put_ne different]
      exact new m (List.mem_cons_of_mem _ mem)
    obtain ⟨fuel, rfl⟩ : ∃ n, fuel = n + 1 := Nat.exists_eq_succ_of_ne_zero (by omega)
    have shorter : (lines ++ rest).length < fuel := by
      simp only [List.length_append, List.length_cons] at enough ⊢
      omega
    obtain ⟨left, still, read⟩ := ih linesWritten names.2 later shorter
    refine ⟨left, still, ?_⟩
    rw [List.append_assoc, List.cons_append, statements?_memberLine valueWritten inserted,
      takes.path t (Keyed.put k (.value v.toJson) t)]
    exact read

theorem statements?_table {p : Progress} {name : Text} {ms : List (Text × Value)} {s : Text}
    (written : writeTable? (name, ms) = some s) (new : p.root.lookup name = none)
    (names : (ms.map (·.1)).Nodup) {fuel : Nat} {rest : Text}
    (enough : (s ++ rest).length < fuel) :
    ∃ fuel' path, rest.length < fuel' ∧ statements? fuel p (s ++ rest) =
      statements? fuel' ⟨Keyed.put name (.table .stated (addValues [] ms)) p.root, path⟩ rest := by
  obtain ⟨lines, linesWritten, rfl⟩ := Option.map_eq_some_iff.mp written
  obtain ⟨fuel, rfl⟩ : ∃ n, fuel = n + 1 := Nat.exists_eq_succ_of_ne_zero (by omega)
  have shorter : (lines ++ rest).length < fuel := by
    simp only [List.length_append, List.length_cons] at enough ⊢
    omega
  obtain ⟨left, still, read⟩ := statements?_members (takes_table p.root name) linesWritten names
    (t := []) (fun _ _ => rfl) shorter
  refine ⟨left, [name], still, ?_⟩
  rw [List.append_assoc, List.cons_append, statements?_header (openTable_new new)]
  exact read

theorem statements?_tables {tables : List (Text × List (Text × Value))} {texts : List Text}
    (written : tables.mapM writeTable? = some texts) (names : (tables.map (·.1)).Nodup)
    (inner : ∀ t ∈ tables, (t.2.map (·.1)).Nodup) {p : Progress}
    (new : ∀ t ∈ tables, p.root.lookup t.1 = none) {fuel : Nat}
    (positive : 0 < fuel) (enough : (texts.flatMap ('\n' :: ·)).length ≤ fuel) :
    statements? fuel p (texts.flatMap ('\n' :: ·)) = some (addTables p.root tables) := by
  induction tables generalizing texts p fuel with
  | nil =>
    obtain rfl := Option.some.inj written
    obtain ⟨fuel, rfl⟩ := Nat.exists_eq_add_of_lt positive
    rw [Nat.zero_add]
    exact statements?_nil fuel p
  | cons t more ih =>
    obtain ⟨name, ms⟩ := t
    rw [List.mapM_cons] at written
    simp only [Option.bind_eq_bind, Option.bind_eq_some_iff] at written
    obtain ⟨s, tableWritten, rest, moreWritten, same⟩ := written
    obtain rfl := Option.some.inj same
    rw [List.map_cons, List.nodup_cons] at names
    rw [List.flatMap_cons, List.cons_append] at enough ⊢
    obtain ⟨fuel, rfl⟩ : ∃ n, fuel = n + 1 := Nat.exists_eq_succ_of_ne_zero (by omega)
    rw [statements?_newline]
    rw [List.length_cons] at enough
    obtain ⟨left, path, still, read⟩ := statements?_table tableWritten
      (new _ List.mem_cons_self) (inner _ List.mem_cons_self) (Nat.lt_of_succ_le enough)
    rw [read]
    refine ih moreWritten names.2 (fun t mem => inner t (List.mem_cons_of_mem _ mem)) ?_
      (Nat.zero_lt_of_lt still) (Nat.le_of_lt still)
    intro t mem
    have different : t.1 ≠ name := fun same => names.1 (List.mem_map.mpr ⟨t, mem, same⟩)
    rw [Keyed.lookup_put_ne different]
    exact new t (List.mem_cons_of_mem _ mem)

def memberObject (ms : List (Text × Value)) : List (Text × Json) :=
  ms.map fun m => (m.1, m.2.toJson)

def document (root : List (Text × Value)) (tables : List (Text × List (Text × Value))) : Json :=
  Json.ofMembers (memberObject root ++ tables.map fun t => (t.1, Json.ofMembers (memberObject t.2)))

theorem membersJson_put (k : Text) (n : Node) (ms : Members) :
    Node.membersJson (Keyed.put k n ms) = Keyed.put k n.toJson (Node.membersJson ms) := by
  induction ms with
  | nil => rfl
  | cons m rest ih =>
    obtain ⟨other, node⟩ := m
    rw [Keyed.put, Node.membersJson, Keyed.put]
    split
    case isTrue => rfl
    case isFalse =>
      split
      case isTrue => rfl
      case isFalse => rw [Node.membersJson, ih]

theorem membersJson_addValues (t : Members) (ms : List (Text × Value)) :
    Node.membersJson (addValues t ms) =
      (memberObject ms).foldl (fun ms m => Keyed.put m.1 m.2 ms) (Node.membersJson t) := by
  unfold addValues memberObject
  induction ms generalizing t with
  | nil => rfl
  | cons m rest ih =>
    rw [List.foldl_cons, ih, membersJson_put]
    rfl

theorem membersJson_addTables (root : Members) (tables : List (Text × List (Text × Value))) :
    Node.membersJson (addTables root tables) =
      (tables.map fun t => (t.1, Json.ofMembers (memberObject t.2))).foldl
        (fun ms m => Keyed.put m.1 m.2 ms) (Node.membersJson root) := by
  unfold addTables
  induction tables generalizing root with
  | nil => rfl
  | cons t rest ih =>
    have object : Node.toJson (.table .stated (addValues [] t.2)) =
        Json.ofMembers (memberObject t.2) := by
      rw [Node.toJson, membersJson_addValues]
      rfl
    rw [List.foldl_cons, ih, membersJson_put, object]
    rfl

theorem lookup_addValues {k : Text} {ms : List (Text × Value)} (absent : k ∉ ms.map (·.1))
    (t : Members) : (addValues t ms).lookup k = t.lookup k := by
  unfold addValues
  induction ms generalizing t with
  | nil => rfl
  | cons m rest ih =>
    rw [List.map_cons, List.mem_cons, not_or] at absent
    rw [List.foldl_cons, ih absent.2, Keyed.lookup_put_ne absent.1]

theorem intercalate_cons (s : Text) (rest : List Text) :
    List.intercalate ['\n'] (s :: rest) = s ++ rest.flatMap ('\n' :: ·) := by
  induction rest generalizing s with
  | nil => simp
  | cons next rest ih =>
    rw [List.intercalate_cons_cons, ih]
    simp

theorem statements?_intercalate (fuel : Nat) (p : Progress) (texts : List Text) :
    statements? (fuel + 1) p (List.intercalate ['\n'] texts) =
      statements? (fuel + 1) p (texts.flatMap ('\n' :: ·)) := by
  cases texts with
  | nil => rfl
  | cons s rest => rw [intercalate_cons, List.flatMap_cons, List.cons_append, statements?_newline]

theorem length_flatMap_le (texts : List Text) :
    (texts.flatMap ('\n' :: ·)).length ≤ (List.intercalate ['\n'] texts).length + 1 := by
  cases texts with
  | nil => exact Nat.zero_le _
  | cons s rest =>
    apply Nat.le_of_eq
    rw [intercalate_cons, List.flatMap_cons, List.cons_append, List.length_cons]

theorem dropByteOrderMark_cons {c : Char} (other : c ≠ '\ufeff') (rest : Text) :
    dropByteOrderMark (c :: rest) = c :: rest := by
  rw [dropByteOrderMark]
  exact fun _ same => other (List.cons.inj same).1

theorem writeMembers?_begins {m : Text × Value} {ms : List (Text × Value)} {s : Text}
    (written : writeMembers? (m :: ms) = some s) (rest : Text) :
    s ≠ [] ∧ dropByteOrderMark (s ++ rest) = s ++ rest := by
  obtain ⟨k, v⟩ := m
  obtain ⟨value, lines, -, -, rfl⟩ := writeMembers?_cons written
  refine ⟨by simp, ?_⟩
  obtain ⟨c, tail, begins, -, -, other⟩ := memberLine_begins k value ('\n' :: lines ++ rest)
  rw [List.append_assoc, begins, dropByteOrderMark_cons other]

theorem intercalate_begins {tables : List (Text × List (Text × Value))} {texts : List Text}
    (written : tables.mapM writeTable? = some texts) :
    dropByteOrderMark (List.intercalate ['\n'] texts) = List.intercalate ['\n'] texts := by
  cases tables with
  | nil =>
    obtain rfl := Option.some.inj written
    rfl
  | cons t more =>
    rw [List.mapM_cons] at written
    simp only [Option.bind_eq_bind, Option.bind_eq_some_iff] at written
    obtain ⟨s, tableWritten, rest, -, same⟩ := written
    obtain rfl := Option.some.inj same
    obtain ⟨lines, -, rfl⟩ := Option.map_eq_some_iff.mp tableWritten
    rw [intercalate_cons]
    exact dropByteOrderMark_cons (by decide) _

theorem parse?_eq {s : Text} (start : dropByteOrderMark s = s)
    {root : List (Text × Value)} {tables : List (Text × List (Text × Value))}
    (read : statements? (s.length + 1) ⟨[], []⟩ s = some (addTables (addValues [] root) tables)) :
    parse? s = some (document root tables) := by
  rw [parse?, start, read, Option.map_some, membersJson_addTables, membersJson_addValues, document,
    Json.ofMembers, Keyed.ofList, List.foldl_append]
  rfl

/-- What is written for a document with names of its own for all members is read as the object of
that document. -/
theorem parse?_write? {root : List (Text × Value)} {tables : List (Text × List (Text × Value))}
    {s : Text} (written : write? root tables = some s)
    (names : (root.map (·.1) ++ tables.map (·.1)).Nodup)
    (inner : ∀ t ∈ tables, (t.2.map (·.1)).Nodup) : parse? s = some (document root tables) := by
  simp only [write?, Option.bind_eq_bind, Option.bind_eq_some_iff] at written
  obtain ⟨first, rootWritten, texts, tablesWritten, same⟩ := written
  obtain rfl := Option.some.inj same
  obtain ⟨rootNames, tableNames, apart⟩ := List.nodup_append.mp names
  cases root with
  | nil =>
    obtain rfl := Option.some.inj rootWritten
    apply parse?_eq (intercalate_begins tablesWritten)
    rw [statements?_intercalate]
    exact statements?_tables tablesWritten tableNames inner (fun _ _ => rfl) (Nat.zero_lt_succ _)
      (length_flatMap_le texts)
  | cons m more =>
    have begins := writeMembers?_begins rootWritten (texts.flatMap ('\n' :: ·))
    have nonempty : ¬ first.isEmpty = true := by simpa using begins.1
    rw [if_neg nonempty, intercalate_cons]
    apply parse?_eq begins.2
    obtain ⟨left, still, read⟩ := statements?_members takes_root rootWritten rootNames
      (t := []) (fun _ _ => rfl) (Nat.lt_succ_self _)
    rw [read]
    refine statements?_tables tablesWritten tableNames inner ?_ (Nat.zero_lt_of_lt still)
      (Nat.le_of_lt still)
    intro t mem
    have absent : t.1 ∉ (m :: more).map (·.1) := fun inRoot =>
      apart _ inRoot _ (List.mem_map_of_mem mem) rfl
    exact lookup_addValues absent []

def Value.fits : Value → Prop
  | .count n => n < 9223372036854775808
  | _ => True

theorem writeValue?_isSome (v : Value) : (writeValue? v).isSome ↔ v.fits := by
  cases v with
  | text t => exact ⟨fun _ => trivial, fun _ => rfl⟩
  | texts ts => exact ⟨fun _ => trivial, fun _ => rfl⟩
  | flag b => exact ⟨fun _ => trivial, fun _ => rfl⟩
  | count n =>
    constructor
    · intro written
      obtain ⟨s, written⟩ := Option.isSome_iff_exists.mp written
      exact (writeInteger?_natCast written).1
    · intro fits
      exact Option.isSome_of_eq_some (writeInteger?_of_lt fits)

theorem isSome_mapM {α β : Type} (f : α → Option β) (xs : List α) :
    (xs.mapM f).isSome ↔ ∀ x ∈ xs, (f x).isSome := by
  induction xs with
  | nil => simp
  | cons x rest ih =>
    rw [List.mapM_cons, List.forall_mem_cons, ← ih]
    cases f x <;> cases rest.mapM f <;> simp

theorem writeMembers?_isSome (ms : List (Text × Value)) :
    (writeMembers? ms).isSome ↔ ∀ m ∈ ms, m.2.fits := by
  rw [writeMembers?, Option.isSome_map, isSome_mapM]
  simp only [Option.isSome_map, writeValue?_isSome]

theorem write?_isSome (root : List (Text × Value)) (tables : List (Text × List (Text × Value))) :
    (write? root tables).isSome ↔
      (∀ m ∈ root, m.2.fits) ∧ ∀ t ∈ tables, ∀ m ∈ t.2, m.2.fits := by
  rw [← writeMembers?_isSome]
  have all := isSome_mapM writeTable? tables
  simp only [writeTable?, Option.isSome_map, writeMembers?_isSome] at all
  rw [← all, write?]
  cases writeMembers? root <;> cases tables.mapM writeTable? <;> simp

end ModuleDocs.Toml
