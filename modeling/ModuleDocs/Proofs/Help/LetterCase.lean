import ModuleDocs.Proofs.Help.Unseen

namespace ModuleDocs.Help
open Text HelpObject

/-- The second node is the first with the case of ASCII letters changed in the names of members, at any
depth, and the members of each object put in any order afterwards. -/
inductive Recased : Json → Json → Prop
  | same (j : Json) : Recased j j
  | list {xs ys : List Json} (length : xs.length = ys.length)
      (items : ∀ p ∈ xs.zip ys, Recased p.1 p.2) : Recased (.arr xs) (.arr ys)
  | object {ms rs ns : List (Text × Json)}
      (names : ms.map (fun m => lowerAscii m.1) = rs.map (fun r => lowerAscii r.1))
      (members : ∀ p ∈ ms.zip rs, Recased p.1.2 p.2.2) (order : rs.Perm ns) :
      Recased (.obj ms) (.obj ns)

/-- No object in the node has two members with one name, up to the case of ASCII letters. -/
inductive Unambiguous : Json → Prop
  | leaf {j : Json} (noList : ∀ items, j ≠ .arr items) (noObject : ∀ members, j ≠ .obj members) :
      Unambiguous j
  | list {items : List Json} (each : ∀ j ∈ items, Unambiguous j) : Unambiguous (.arr items)
  | object {members : List (Text × Json)} (names : Distinct (members.map (·.1)))
      (each : ∀ m ∈ members, Unambiguous m.2) : Unambiguous (.obj members)

def MentionedOnce (names : List Text) (word : Text) : Prop :=
  names.countP (fun name => (lowerAscii name).contains word) ≤ 1

instance (names : List Text) (word : Text) : Decidable (MentionedOnce names word) :=
  inferInstanceAs (Decidable (_ ≤ 1))

theorem distinct_iff {members : List (Text × Json)} :
    Distinct (members.map (·.1)) ↔ (members.map fun m => lowerAscii m.1).Nodup := by
  rw [Distinct, List.Nodup, List.pairwise_map, List.pairwise_map]
  simp only [sameName, beq_eq_false_iff_ne]

theorem mentionedOnce_iff {members : List (Text × Json)} {word : Text} :
    MentionedOnce (members.map (·.1)) word ↔
      (members.map fun m => lowerAscii m.1).countP (fun name => name.contains word) ≤ 1 := by
  rw [MentionedOnce, List.countP_map, List.countP_map]
  rfl

theorem eq_of_perm_short {α : Type} {l l' : List α} (short : l.length ≤ 1) (order : l.Perm l') :
    l = l' := by
  cases l with
  | nil => exact order.nil_eq
  | cons a rest =>
    have alone : rest = [] := List.eq_nil_of_length_eq_zero (by simpa using short)
    rw [alone] at order ⊢
    exact order.singleton_eq

theorem named_short {members : List (Text × Json)} (distinct : Distinct (members.map (·.1))) (key : Text) :
    (members.filter fun m => sameName m.1 key).length ≤ 1 := by
  have named : ∀ m ∈ members.filter (fun m => sameName m.1 key), lowerAscii m.1 = lowerAscii key :=
    fun m mem => sameName_iff.mp (List.mem_filter.mp mem).2
  have nodup : ((members.filter fun m => sameName m.1 key).map fun m => lowerAscii m.1).Nodup :=
    (distinct_iff.mp distinct).sublist (List.filter_sublist.map _)
  generalize members.filter (fun m => sameName m.1 key) = found at named nodup
  match found with
  | [] => exact Nat.zero_le 1
  | [_] => exact Nat.le_refl 1
  | a :: b :: rest =>
    rw [List.forall_mem_cons, List.forall_mem_cons] at named
    rw [List.map_cons, List.map_cons, List.nodup_cons, named.1, named.2.1] at nodup
    exact absurd List.mem_cons_self nodup.1

theorem findMember_eq_find? {members : List (Text × Json)} (distinct : Distinct (members.map (·.1)))
    (key : Text) :
    findMember members key = (members.find? fun m => sameName m.1 key).map (·.2) := by
  rw [findMember]
  cases found : members.lookup key with
  | none => rfl
  | some v =>
    have mem : (key, v) ∈ members.filter fun m => sameName m.1 key :=
      List.mem_filter.mpr ⟨Keyed.mem_of_lookup found, sameName_refl key⟩
    have only : [(key, v)] = members.filter fun m => sameName m.1 key :=
      (List.singleton_sublist.mpr mem).eq_of_length_le (named_short distinct key)
    rw [← List.head?_filter, ← only]
    rfl

theorem findMember_perm {rs ns : List (Text × Json)} (distinct : Distinct (rs.map (·.1)))
    (order : rs.Perm ns) (key : Text) : findMember rs key = findMember ns key := by
  have distinct' : Distinct (ns.map (·.1)) :=
    distinct_iff.mpr ((order.map _).nodup_iff.mp (distinct_iff.mp distinct))
  have found : rs.filter (fun m => sameName m.1 key) = ns.filter fun m => sameName m.1 key :=
    eq_of_perm_short (named_short distinct key) (order.filter _)
  rw [findMember_eq_find? distinct, findMember_eq_find? distinct', ← List.head?_filter, found,
    List.head?_filter]

theorem looseText_perm {rs ns : List (Text × Json)} {word : Text}
    (once : MentionedOnce (rs.map (·.1)) word) (order : rs.Perm ns) :
    looseText (.obj rs) word = looseText (.obj ns) word := by
  have short : (rs.filter fun m => (lowerAscii m.1).contains word).length ≤ 1 := by
    rwa [MentionedOnce, List.countP_map, List.countP_eq_length_filter] at once
  rw [looseText, looseText, eq_of_perm_short short (order.filter _)]

theorem rel_findMember_recased {S : Json → Json → Prop} {ms rs ns : List (Text × Json)}
    (distinct : Distinct (ms.map (·.1)))
    (names : ms.map (fun m => lowerAscii m.1) = rs.map (fun r => lowerAscii r.1))
    (members : ∀ p ∈ ms.zip rs, S p.1.2 p.2.2) (order : rs.Perm ns) (key : Text) :
    Option.Rel S (findMember ms key) (findMember ns key) := by
  have distinct' : Distinct (rs.map (·.1)) := by rwa [distinct_iff, ← names, ← distinct_iff]
  have inPlace := forall₂_members (S := fun _ => S) names members
  rw [← findMember_perm distinct' order, findMember_eq_find? distinct, findMember_eq_find? distinct']
  exact rel_find? inPlace fun _ _ _ _ related => related

theorem Unambiguous.of_mem_list {items : List Json} (h : Unambiguous (.arr items)) :
    ∀ j ∈ items, Unambiguous j := by
  cases h with
  | leaf noList => exact absurd rfl (noList items)
  | list each => exact each

theorem Unambiguous.members {members : List (Text × Json)} (h : Unambiguous (.obj members)) :
    Distinct (members.map (·.1)) ∧ ∀ m ∈ members, Unambiguous m.2 := by
  cases h with
  | leaf noList noObject => exact absurd rfl (noObject members)
  | object names each => exact ⟨names, each⟩

namespace Recased

variable {j k : Json}

theorem text (h : Recased j k) (unambiguous : Unambiguous j) : textOf j = textOf k := by
  induction h with
  | same => rfl
  | list length items ih =>
    have each := unambiguous.of_mem_list
    exact sameText_list (List.forall₂_iff_zip.mpr
      ⟨length, fun mem => ih _ mem (each _ (List.of_mem_zip mem).1)⟩)
  | object names members order ih =>
    obtain ⟨distinct, each⟩ := unambiguous.members
    exact sameText_object (rel_findMember_recased distinct names
      (fun p mem => ih p mem (each _ (List.of_mem_zip mem).1)) order)

def Related (_ : Place) (j k : Json) : Prop := Recased j k ∧ Unambiguous j

theorem step_self (place : Place) (unambiguous : Unambiguous j) : Step Related place j j := by
  cases unambiguous with
  | leaf noList noObject => exact .leaf noList noObject
  | list each => exact .list (List.forall₂_same.mpr fun x mem => ⟨.same x, each x mem⟩)
  | object distinct each =>
    refine .object fun key => ?_
    cases found : findMember _ key with
    | none => exact .none
    | some v =>
      obtain ⟨name, mem⟩ := mem_of_findMember found
      exact .some ⟨.same v, each _ mem⟩

theorem step {place : Place} (h : Related place j k) : Step Related place j k := by
  obtain ⟨recased, unambiguous⟩ := h
  cases recased with
  | same => exact step_self place unambiguous
  | list length items =>
    have each := unambiguous.of_mem_list
    exact .list (List.forall₂_iff_zip.mpr
      ⟨length, fun mem => ⟨items _ mem, each _ (List.of_mem_zip mem).1⟩⟩)
  | object names members order =>
    obtain ⟨distinct, each⟩ := unambiguous.members
    exact .object (rel_findMember_recased distinct names
      (fun p mem => ⟨members p mem, each _ (List.of_mem_zip mem).1⟩) order)

theorem items {place : Place} (h : Related place j k) :
    List.Forall₂ (Related place) (asList j) (asList k) := by
  cases step h with
  | list items => exact items
  | object => exact .cons h .nil
  | leaf noList =>
    cases j with
    | arr items => exact absurd rfl (noList items)
    | null => exact .nil
    | bool | num | str | obj => exact .cons h .nil

theorem unseen : Unseen Related := ⟨fun h => h.1.text h.2, fun _ => step, items⟩

theorem looseText {ms ns : List (Text × Json)} (h : Recased (.obj ms) (.obj ns))
    (unambiguous : Unambiguous (.obj ms)) {word : Text} (once : MentionedOnce (ms.map (·.1)) word) :
    HelpObject.looseText (.obj ms) word = HelpObject.looseText (.obj ns) word := by
  cases h with
  | same => rfl
  | object names members order =>
    obtain ⟨-, each⟩ := unambiguous.members
    have texts := forall₂_members (S := fun _ => SameText) names
      fun p mem => (members p mem).text (each _ (List.of_mem_zip mem).1)
    rw [mentionedOnce_iff, names, ← mentionedOnce_iff] at once
    rw [looseText_congr texts, looseText_perm once order]

end Recased

/-- The page of an object, beside any dump and any hint, does not depend on the case of member names and on
the order that goes with it: no object may have one name twice up to case, and a word that is looked for
may be mentioned by one name of the page at most. -/
theorem page?_recased {ms ns : List (Text × Json)} (recased : Recased (.obj ms) (.obj ns))
    (unambiguous : Unambiguous (.obj ms))
    (once : ∀ word ∈ looseWords, MentionedOnce (ms.map (·.1)) word) (raw hint : Option Text) :
    Capture.page? ⟨some (.obj ms), raw, hint⟩ = Capture.page? ⟨some (.obj ns), raw, hint⟩ :=
  Recased.unseen.page?_eq_page? ⟨recased, unambiguous⟩
    (fun word mem => recased.looseText unambiguous (once word mem)) raw hint

def capitalMembers : List (Text × Json) :=
  [("Name", .str "Get-Item"),
   ("parameters", .arr [.obj [("NAME", .str "Path"), ("type", .str "String")]])]

def smallMembers : List (Text × Json) :=
  [("PARAMETERS", .arr [.obj [("Type", .str "String"), ("name", .str "Path")]]),
   ("name", .str "Get-Item")]

theorem recased_smallMembers : Recased (.obj capitalMembers) (.obj smallMembers) := by
  have parameter : Recased (.obj [("NAME", .str "Path"), ("type", .str "String")])
      (.obj [("Type", .str "String"), ("name", .str "Path")]) := by
    have order : List.Perm [("name".toList, Json.str "Path"), ("Type".toList, Json.str "String")]
        [("Type", .str "String"), ("name", .str "Path")] := .swap _ _ _
    refine .object (by decide) ?_ order
    exact List.forall_mem_cons.mpr ⟨.same _, List.forall_mem_cons.mpr ⟨.same _, nofun⟩⟩
  refine .object (by decide) ?_ (.swap _ _ _)
  refine List.forall_mem_cons.mpr ⟨.same _, List.forall_mem_cons.mpr ⟨.list rfl ?_, nofun⟩⟩
  exact List.forall_mem_cons.mpr ⟨parameter, nofun⟩

theorem unambiguous_capitalMembers : Unambiguous (.obj capitalMembers) := by
  have leaf (s : Text) : Unambiguous (.str s) := .leaf nofun nofun
  have parameter : Unambiguous (.obj [("NAME", .str "Path"), ("type", .str "String")]) :=
    .object (by decide) (List.forall_mem_cons.mpr ⟨leaf _, List.forall_mem_cons.mpr ⟨leaf _, nofun⟩⟩)
  refine .object (by decide) (List.forall_mem_cons.mpr ⟨leaf _, List.forall_mem_cons.mpr ⟨?_, nofun⟩⟩)
  exact .list (List.forall_mem_cons.mpr ⟨parameter, nofun⟩)

theorem page?_recased_getItem :
    Recased (.obj capitalMembers) (.obj smallMembers) ∧ Unambiguous (.obj capitalMembers) ∧
      (∀ word ∈ looseWords, MentionedOnce (capitalMembers.map (·.1)) word) ∧
      Capture.page? ⟨some (.obj capitalMembers), none, none⟩ =
        Capture.page? ⟨some (.obj smallMembers), none, none⟩ ∧
      (Capture.page? ⟨some (.obj smallMembers), none, none⟩).map (·.parameters) =
        some [{ name := "Path", typeName := "String" }] := by
  have once : ∀ word ∈ looseWords, MentionedOnce (capitalMembers.map (·.1)) word := by decide
  exact ⟨recased_smallMembers, unambiguous_capitalMembers, once,
    page?_recased recased_smallMembers unambiguous_capitalMembers once none none, by decide +kernel⟩

end ModuleDocs.Help
