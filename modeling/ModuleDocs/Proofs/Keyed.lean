import ModuleDocs.Keyed

namespace ModuleDocs.Keyed

variable {κ α : Type} [BEq κ] [LawfulBEq κ]

theorem lookup_cons_ne {key other : κ} (different : other ≠ key) (value : α)
    (rest : List (κ × α)) : ((key, value) :: rest).lookup other = rest.lookup other := by
  have unequal : (other == key) = false := beq_eq_false_iff_ne.mpr different
  rw [List.lookup_cons, unequal]

theorem mem_of_lookup {key : κ} {entries : List (κ × α)} {v : α}
    (found : entries.lookup key = some v) : (key, v) ∈ entries := by
  obtain ⟨front, back, split, -⟩ := List.lookup_eq_some_iff.mp found
  rw [split]
  exact List.mem_append_right _ List.mem_cons_self

theorem lookup_of_mem {entries : List (κ × α)} (keys : (entries.map (·.1)).Nodup) {e : κ × α}
    (mem : e ∈ entries) : entries.lookup e.1 = some e.2 := by
  induction entries with
  | nil => contradiction
  | cons first rest ih =>
    obtain ⟨new, keys⟩ := List.nodup_cons.mp keys
    rcases List.mem_cons.mp mem with rfl | mem
    · exact List.lookup_cons_self
    · have other : e.1 ≠ first.1 := fun same => new (List.mem_map.mpr ⟨e, mem, same⟩)
      rw [lookup_cons_ne other, ih keys mem]

theorem lookup_filterMap (f : κ → Option α) {keys : List κ}
    (distinct : keys.Nodup) (k : κ) :
    (keys.filterMap fun key => (f key).map (key, ·)).lookup k =
      if keys.contains k then f k else none := by
  induction keys with
  | nil => rfl
  | cons key rest ih =>
    obtain ⟨new, distinct⟩ := List.nodup_cons.mp distinct
    have tail := ih distinct
    by_cases same : k = key
    case pos =>
      subst same
      have absent : rest.contains k = false := by simpa using new
      rw [absent] at tail
      cases value : f k with
      | none => simpa [List.filterMap_cons, value] using tail
      | some v => simp [value]
    case neg =>
      have other : (k == key) = false := beq_eq_false_iff_ne.mpr same
      cases value : f key with
      | none => simpa [List.filterMap_cons, List.contains_cons, value, other] using tail
      | some v =>
        simpa [List.filterMap_cons, List.contains_cons, value, other, List.lookup_cons] using tail

variable [DecidableEq κ] [LT κ] [DecidableLT κ]

theorem lookup_put_self (key : κ) (value : α) (entries : List (κ × α)) :
    (put key value entries).lookup key = some value := by
  induction entries with
  | nil => exact List.lookup_cons_self
  | cons e rest ih =>
    obtain ⟨k, v⟩ := e
    rw [put]
    split
    case isTrue => exact List.lookup_cons_self
    case isFalse different =>
      split
      case isTrue => exact List.lookup_cons_self
      case isFalse => rw [lookup_cons_ne different, ih]

theorem lookup_put_ne {key other : κ} (different : other ≠ key) (value : α)
    (entries : List (κ × α)) :
    (put key value entries).lookup other = entries.lookup other := by
  induction entries with
  | nil => exact lookup_cons_ne different value []
  | cons e rest ih =>
    obtain ⟨k, v⟩ := e
    rw [put]
    split
    case isTrue same =>
      subst same
      rw [lookup_cons_ne different, lookup_cons_ne different]
    case isFalse =>
      split
      case isTrue => rw [lookup_cons_ne different]
      case isFalse => rw [List.lookup_cons, List.lookup_cons, ih]

omit [BEq κ] [LawfulBEq κ] in
theorem put_put (key : κ) (early late : α) (entries : List (κ × α)) :
    put key late (put key early entries) = put key late entries := by
  induction entries with
  | nil => simp [put]
  | cons e rest ih =>
    obtain ⟨k, v⟩ := e
    by_cases same : key = k
    case pos => simp [put, same]
    case neg =>
      by_cases before : key < k
      case pos => simp [put, same, before]
      case neg => simp [put, same, before, ih]

omit [BEq κ] [LawfulBEq κ] in
theorem any_put (p : κ → Bool) (key : κ) (value : α) (entries : List (κ × α)) :
    (put key value entries).any (fun e => p e.1) = (p key || entries.any fun e => p e.1) := by
  induction entries with
  | nil => rfl
  | cons e rest ih =>
    obtain ⟨k, v⟩ := e
    by_cases same : key = k
    case pos => simp [put, same]
    case neg =>
      by_cases before : key < k
      case pos => simp [put, same, before]
      case neg => simp [put, same, before, ih, Bool.or_left_comm]

omit [BEq κ] [LawfulBEq κ] in
theorem mem_of_mem_put {key : κ} {value : α} {entries : List (κ × α)} {e : κ × α}
    (mem : e ∈ put key value entries) : e = (key, value) ∨ e ∈ entries := by
  induction entries with
  | nil => exact .inl (List.mem_singleton.mp mem)
  | cons first rest ih =>
    obtain ⟨k, v⟩ := first
    rw [put] at mem
    split at mem
    case isTrue =>
      rcases List.mem_cons.mp mem with here | later
      · exact .inl here
      · exact .inr (List.mem_cons_of_mem _ later)
    case isFalse =>
      split at mem
      case isTrue => exact List.mem_cons.mp mem
      case isFalse =>
        rcases List.mem_cons.mp mem with rfl | later
        · exact .inr List.mem_cons_self
        · exact (ih later).imp_right (List.mem_cons_of_mem _)

omit [BEq κ] [LawfulBEq κ] in
theorem mem_of_mem_ofList {entries : List (κ × α)} {e : κ × α} (mem : e ∈ ofList entries) :
    e ∈ entries := by
  have fold (es found : List (κ × α)) (mem : e ∈ es.foldl (fun found e => put e.1 e.2 found) found) :
      e ∈ found ∨ e ∈ es := by
    induction es generalizing found with
    | nil => exact .inl mem
    | cons first rest ih =>
      rcases ih _ mem with early | later
      · rcases mem_of_mem_put early with rfl | early
        · exact .inr List.mem_cons_self
        · exact .inl early
      · exact .inr (List.mem_cons_of_mem _ later)
  exact (fold entries [] mem).resolve_left List.not_mem_nil

theorem lookup_ofList {entries : List (κ × α)} (keys : (entries.map (·.1)).Nodup)
    (key : κ) : (ofList entries).lookup key = entries.lookup key := by
  have fold (found : List (κ × α)) (new : ∀ e ∈ entries, found.lookup e.1 = none) :
      (entries.foldl (fun found e => put e.1 e.2 found) found).lookup key =
        (entries.lookup key).or (found.lookup key) := by
    induction entries generalizing found with
    | nil => rfl
    | cons e rest ih =>
      obtain ⟨k, v⟩ := e
      rw [List.map_cons, List.nodup_cons] at keys
      have fresh : ∀ e ∈ rest, e.1 ≠ k := fun e mem same =>
        keys.1 (List.mem_map.mpr ⟨e, mem, same⟩)
      have later : ∀ e ∈ rest, (put k v found).lookup e.1 = none := by
        intro e mem
        rw [lookup_put_ne (fresh e mem)]
        exact new e (List.mem_cons_of_mem _ mem)
      rw [List.foldl_cons, ih keys.2 _ later]
      by_cases same : key = k
      case pos =>
        subst same
        have absent : rest.lookup key = none :=
          List.lookup_eq_none_iff.mpr fun e mem => by simpa using (fresh e mem).symm
        rw [lookup_put_self, List.lookup_cons_self, absent]
        rfl
      case neg => rw [lookup_put_ne same, lookup_cons_ne same]
  rw [ofList, fold [] fun _ _ => rfl]
  exact Option.or_none

/-- The keys ascend, so each of them stands once. -/
def Ordered (entries : List (κ × α)) : Prop := entries.Pairwise fun e e' => e.1 < e'.1

section
variable [Std.Asymm fun k k' : κ => k < k']

omit [BEq κ] [LawfulBEq κ] [DecidableEq κ] [DecidableLT κ] in
theorem Ordered.nodup {entries : List (κ × α)} (ordered : Ordered entries) :
    (entries.map (·.1)).Nodup := by
  refine List.pairwise_map.mpr (ordered.imp ?_)
  rintro ⟨k, v⟩ ⟨k', v'⟩ before rfl
  have not_before : ¬ k < k := Std.Asymm.asymm _ _ before
  exact not_before before

omit [BEq κ] [LawfulBEq κ] in
theorem put_behind {key : κ} {entries : List (κ × α)} (behind : ∀ e ∈ entries, e.1 < key)
    (value : α) : put key value entries = entries ++ [(key, value)] := by
  induction entries with
  | nil => rfl
  | cons e rest ih =>
    obtain ⟨k, v⟩ := e
    obtain ⟨first, behind⟩ := List.forall_mem_cons.mp behind
    have not_before : ¬ key < k := Std.Asymm.asymm _ _ first
    have different : key ≠ k := by
      rintro rfl
      exact not_before first
    rw [put, if_neg different, if_neg not_before, ih behind]
    rfl

omit [BEq κ] [LawfulBEq κ] in
theorem Ordered.ofList_eq {entries : List (κ × α)} (ordered : Ordered entries) :
    ofList entries = entries := by
  have fold (found entries : List (κ × α)) (ordered : Ordered (found ++ entries)) :
      entries.foldl (fun found e => put e.1 e.2 found) found = found ++ entries := by
    induction entries generalizing found with
    | nil => rw [List.foldl_nil, List.append_nil]
    | cons e rest ih =>
      have behind : ∀ e' ∈ found, e'.1 < e.1 := fun e' mem =>
        (List.pairwise_append.mp ordered).2.2 e' mem e List.mem_cons_self
      rw [List.append_cons] at ordered ⊢
      rw [List.foldl_cons, put_behind behind, ih _ ordered]
  exact fold [] entries ordered

end

variable [Trans (fun k k' : κ => k < k') (fun k k' : κ => k < k') (fun k k' : κ => k < k')]
  [Std.Asymm fun k k' : κ => k < k'] [Std.Trichotomous fun k k' : κ => k < k']

omit [BEq κ] [LawfulBEq κ] [Std.Asymm fun k k' : κ => k < k'] in
theorem ordered_put {entries : List (κ × α)} (ordered : Ordered entries) (key : κ) (value : α) :
    Ordered (put key value entries) := by
  induction entries with
  | nil => exact List.pairwise_singleton _ _
  | cons e rest ih =>
    obtain ⟨k, v⟩ := e
    obtain ⟨first, ordered⟩ := List.pairwise_cons.mp ordered
    rw [put]
    split
    case isTrue same => exact List.pairwise_cons.mpr ⟨fun e mem => same ▸ first e mem, ordered⟩
    case isFalse different =>
      split
      case isTrue before =>
        refine List.pairwise_cons.mpr ⟨fun e mem => ?_, List.pairwise_cons.mpr ⟨first, ordered⟩⟩
        rcases List.mem_cons.mp mem with rfl | mem
        · exact before
        · exact Trans.trans before (first e mem)
      case isFalse not_before =>
        refine List.pairwise_cons.mpr ⟨fun e mem => ?_, ih ordered⟩
        rcases mem_of_mem_put mem with rfl | mem
        · exact Decidable.not_not.mp fun not_behind =>
            different (Std.Trichotomous.trichotomous key k not_before not_behind)
        · exact first e mem

end ModuleDocs.Keyed
