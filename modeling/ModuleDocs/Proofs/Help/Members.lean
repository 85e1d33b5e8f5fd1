import Mathlib.Data.List.Pairwise
import ModuleDocs.Proofs.Help.NodeText
import ModuleDocs.Proofs.Text.Matching

namespace ModuleDocs.Help
open Text HelpObject

abbrev Members := List (Text × Option Json)

def Members.given (fields : Members) : List (Text × Json) :=
  fields.filterMap fun f => f.2.map (f.1, ·)

def object (fields : Members) : Json := .ofMembers fields.given

/-- No two names are equal up to the case of ASCII letters. -/
def Distinct (names : List Text) : Prop := names.Pairwise fun a b => sameName a b = false

instance (names : List Text) : Decidable (Distinct names) :=
  inferInstanceAs (Decidable (names.Pairwise fun a b => sameName a b = false))

def Apart (names keys : List Text) : Prop := ∀ key ∈ keys, ∀ k ∈ names, sameName k key = false

instance (names keys : List Text) : Decidable (Apart names keys) :=
  inferInstanceAs (Decidable (∀ key ∈ keys, ∀ k ∈ names, sameName k key = false))

def SoleMention (names : List Text) (word key : Text) : Prop :=
  ∀ k ∈ names, (lowerAscii k).contains word = true → k = key

instance (names : List Text) (word key : Text) : Decidable (SoleMention names word key) :=
  inferInstanceAs (Decidable (∀ k ∈ names, (lowerAscii k).contains word = true → k = key))

def choose (first : Bool) (a b : Text) : Text := if first then a else b

def under (key : Text) (j : Json) : Json := object [(key, some j)]

theorem follow_nil (j : Json) : follow j [] = some j := rfl

theorem follow_cons (j : Json) (key : Text) (keys : List Text) :
    follow j (key :: keys) = (get j key).bind (follow · keys) := rfl

theorem textAmong_cons (j : Json) (keys : List Text) (chains : List (List Text)) :
    textAmong j (keys :: chains) = (textAt j keys).or (textAmong j chains) := by
  rw [textAmong, List.findSome?_cons]
  cases textAt j keys <;> rfl

theorem textAmong_nil (j : Json) : textAmong j [] = none := rfl

section

variable {j : Json} {a b key : Text} {keys : List Text}

theorem follow_of_none (absent : get j key = none) : follow j (key :: keys) = none := by
  rw [follow_cons, absent]
  rfl

theorem textAt_of_none (absent : get j key = none) : textAt j (key :: keys) = none := by
  rw [textAt, follow_of_none absent]
  rfl

theorem textAt_of_get {v : Option Json} (here : get j key = v) : textAt j [key] = v.bind textOf := by
  rw [textAt, follow_cons, here]
  cases v <;> rfl

theorem textAt_below {inner : Json} (here : get j key = some inner) :
    textAt j (key :: keys) = textAt inner keys := by
  rw [textAt, follow_cons, here]
  rfl

theorem flagAt_of_none (absent : get j key = none) : flagAt j [key] = none := by
  rw [flagAt, follow_of_none absent]

theorem or_choose {β : Type} (read : Text → Option β) (first : Bool) {o : Option β}
    (here : read (choose first a b) = o) (other : read (choose (!first) a b) = none) :
    (read a).or (read b) = o := by
  cases first with
  | true =>
    have nothing : read b = none := other
    rw [nothing, Option.or_none]
    exact here
  | false =>
    have nothing : read a = none := other
    rw [nothing, Option.none_or]
    exact here

theorem textAmong_choose (first : Bool) {t : Option Text} (here : textAt j [choose first a b] = t)
    (absent : get j (choose (!first) a b) = none) : textAmong j [[a], [b]] = t := by
  rw [textAmong_cons, textAmong_cons, textAmong_nil, Option.or_none]
  exact or_choose (fun k => textAt j [k]) first here (textAt_of_none absent)

theorem flagAt_choose (first : Bool) {o : Option Bool} (here : flagAt j [choose first a b] = o)
    (absent : get j (choose (!first) a b) = none) : (flagAt j [a]).or (flagAt j [b]) = o :=
  or_choose (fun k => flagAt j [k]) first here (flagAt_of_none absent)

end

section

variable {fields : Members}

theorem mem_given {key : Text} {j : Json} :
    (key, j) ∈ fields.given ↔ (key, some j) ∈ fields := by
  simp only [Members.given, List.mem_filterMap, Option.map_eq_some_iff]
  constructor
  · rintro ⟨⟨k, v⟩, mem, j', rfl, same⟩
    cases same
    exact mem
  · exact fun mem => ⟨_, mem, j, rfl, rfl⟩

theorem get_eq_none {key : Text} (absent : ∀ k j, (k, some j) ∈ fields → sameName k key = false) :
    get (object fields) key = none := by
  have other : ∀ m ∈ Keyed.ofList fields.given, sameName m.1 key = false := fun m mem =>
    absent m.1 m.2 (mem_given.mp (Keyed.mem_of_mem_ofList mem))
  change findMember (Keyed.ofList fields.given) key = none
  rw [findMember, Option.or_eq_none_iff, List.lookup_eq_none_iff, Option.map_eq_none_iff,
    List.find?_eq_none]
  refine ⟨fun m mem => ?_, fun m mem => by simp [other m mem]⟩
  rw [bne_iff_ne]
  intro same
  have unequal := other m mem
  rw [← same, sameName_refl] at unequal
  contradiction

theorem get_absent {keys : List Text} (apart : Apart (fields.map (·.1)) keys) (i : Nat) {key : Text}
    (here : keys[i]? = some key) : get (object fields) key = none :=
  get_eq_none fun k _ mem =>
    apart key (List.mem_of_getElem? here) k (List.mem_map.mpr ⟨_, mem, rfl⟩)

variable (distinct : Distinct (fields.map (·.1)))
include distinct

theorem nodup_given : (fields.given.map (·.1)).Nodup := by
  rw [List.Nodup, List.pairwise_map]
  refine List.Pairwise.filterMap _ ?_ (List.pairwise_map.mp distinct)
  rintro f g other m here n there same
  obtain ⟨j, -, rfl⟩ := Option.map_eq_some_iff.mp here
  obtain ⟨k, -, rfl⟩ := Option.map_eq_some_iff.mp there
  change f.1 = g.1 at same
  rw [same, sameName_refl] at other
  contradiction

theorem get_object (i : Nat) {key : Text} {v : Option Json} (here : fields[i]? = some (key, v)) :
    get (object fields) key = v := by
  have mem : (key, v) ∈ fields := List.mem_of_getElem? here
  cases v with
  | some j =>
    have found : (Keyed.ofList fields.given).lookup key = some j := by
      rw [Keyed.lookup_ofList (nodup_given distinct)]
      exact Keyed.lookup_of_mem (nodup_given distinct) (mem_given.mpr mem)
    change findMember (Keyed.ofList fields.given) key = some j
    rw [findMember, found, Option.some_or]
  | none =>
    -- a member left out: no other of the same name, in any case, may stand in for it
    have symmetric : Std.Symm fun f g : Text × Option Json => sameName f.1 g.1 = false :=
      ⟨fun f g other => by rwa [sameName_comm]⟩
    exact get_eq_none fun k j other => (List.pairwise_map.mp distinct).forall other mem (by simp)

theorem looseText_object {word key : Text}
    (only : SoleMention (fields.map (·.1)) word key)
    (blank : textAt (object fields) [key] = none) : looseText (object fields) word = none := by
  change ((Keyed.ofList fields.given).filter fun m => (lowerAscii m.1).contains word).findSome?
    (fun m => textOf m.2) = none
  rw [List.findSome?_eq_none_iff]
  intro m mem
  obtain ⟨mem, mentioned⟩ := List.mem_filter.mp mem
  have given := mem_given.mp (Keyed.mem_of_mem_ofList mem)
  obtain ⟨i, here⟩ := List.mem_iff_getElem?.mp given
  have named : m.1 = key := only m.1 (List.mem_map.mpr ⟨_, given, rfl⟩) mentioned
  rwa [← named, textAt_of_get (get_object distinct i here), Option.bind_some] at blank

theorem or_looseText {word key : Text} {t : Option Text}
    (blank : t = none → textAt (object fields) [key] = none)
    (only : SoleMention (fields.map (·.1)) word key) : t.or (looseText (object fields) word) = t := by
  cases t with
  | none => exact looseText_object distinct only (blank rfl)
  | some s => rfl

end

theorem labelOf_object (fields : Members) (chains : List (List Text)) :
    labelOf (object fields) chains = textAmong (object fields) chains := rfl

theorem get_under (key : Text) (j : Json) : get (under key j) key = some j := by
  have alone : Distinct ([(key, some j)].map (·.1)) := List.pairwise_singleton _ key
  exact get_object alone 0 rfl

theorem textAt_under {j inner : Json} {a b : Text} (here : get j a = some (under b inner)) :
    textAt j [a, b] = textOf inner := by
  rw [textAt_below here, textAt_of_get (get_under b inner), Option.bind_some]

section

variable {j : Json} {a b key : Text} {items : List Json} {keys : List Text}

theorem follow_list (here : get j a = some (.arr items)) : follow j [a, b] = none := by
  rw [follow_cons, here]
  rfl

theorem collection_under (here : get j a = some (under b (.arr items))) :
    collection j [[a, b]] keys = items := by
  have found : follow j [a, b] = some (.arr items) := by
    rw [follow_cons, here, Option.bind_some, follow_cons, get_under]
    rfl
  rw [collection, List.findSome?_cons, found]
  rfl

theorem collection_flat (unwrapped : follow j [a, b] = none) (here : get j key = some (.arr items)) :
    collection j [[a, b]] (key :: keys) = items := by
  rw [collection, List.findSome?_cons, unwrapped, List.findSome?_cons, here]
  rfl

theorem collection_flat_second {other : Text} (unwrapped : follow j [a, b] = none)
    (absent : get j other = none) (here : get j key = some (.arr items)) :
    collection j [[a, b]] (other :: key :: keys) = items := by
  rw [collection, List.findSome?_cons, unwrapped, List.findSome?_cons, absent, List.findSome?_cons, here]
  rfl

theorem collection_choose (first : Bool) (here : get j (choose first a b) = some (.arr items))
    (absent : get j (choose (!first) a b) = none) : collection j [[a], [b]] [] = items := by
  have found : [[a], [b]].findSome? (follow j) = some (.arr items) := by
    rw [List.findSome?_cons, List.findSome?_cons]
    cases first with
    | true => rw [follow_cons, show get j a = _ from here, Option.bind_some, follow_nil]
    | false =>
      rw [follow_of_none (show get j a = none from absent), follow_cons,
        show get j b = _ from here, Option.bind_some, follow_nil]
  rw [collection, found]
  rfl

end

end ModuleDocs.Help
