import ModuleDocs.Proofs.Help.Unseen

namespace ModuleDocs.Help
open Text HelpObject

/-- The second node is the first with some of its collections of one, at any depth, written as their item.
The item is neither a list nor null. -/
inductive Collapsed : Place → Json → Json → Prop
  | same (place : Place) (j : Json) : Collapsed place j j
  | list {place : Place} {xs ys : List Json} (length : xs.length = ys.length)
      (items : ∀ p ∈ xs.zip ys, Collapsed place.item p.1 p.2) : Collapsed place (.arr xs) (.arr ys)
  | object {place : Place} {ms ns : List (Text × Json)} (names : ms.map (·.1) = ns.map (·.1))
      (members : ∀ p ∈ ms.zip ns, Collapsed (place.member p.1.1) p.1.2 p.2.2) :
      Collapsed place (.obj ms) (.obj ns)
  | lone {place : Place} {x y : Json} (noList : ∀ items, x ≠ .arr items) (noNull : x ≠ .null)
      (inner : Collapsed place x y) : Collapsed (.collection place) (.arr [x]) y

theorem rel_or {α : Type} {S : α → α → Prop} {o o' p p' : Option α} (first : Option.Rel S o o')
    (second : Option.Rel S p p') : Option.Rel S (o.or p) (o'.or p') := by
  cases first with
  | none => exact second
  | some here => exact .some here

theorem rel_findMember {S : Text → Json → Json → Prop} {ms ns : List (Text × Json)}
    (members : List.Forall₂ (fun m n => m.1 = n.1 ∧ S m.1 m.2 n.2) ms ns) {T : Json → Json → Prop}
    {key : Text} (found : ∀ name v w, sameName name key = true → S name v w → T v w) :
    Option.Rel T (findMember ms key) (findMember ns key) := by
  refine rel_or ?_ (rel_find? (members.imp fun _ _ here => ⟨congrArg lowerAscii here.1, here.2⟩) found)
  induction members with
  | nil => exact .none
  | @cons m n _ _ here _ ih =>
    rw [List.lookup_cons, List.lookup_cons, ← here.1]
    cases named : key == m.1 with
    | true =>
      have same : sameName m.1 key = true := by
        rw [beq_iff_eq.mp named]
        exact sameName_refl m.1
      exact .some (found _ _ _ same here.2)
    | false => exact ih

namespace Collapsed

variable {place : Place} {j k : Json}

theorem text (h : Collapsed place j k) : textOf j = textOf k := by
  induction h with
  | same => rfl
  | list length items ih =>
    exact sameText_list (List.forall₂_iff_zip.mpr ⟨length, fun mem => ih _ mem⟩)
  | object names members ih =>
    have texts := forall₂_members (f := fun name => name) (S := fun _ => SameText) names ih
    exact sameText_object fun key => rel_findMember texts fun _ _ _ _ same => same
  | lone noList noNull inner ih => rw [textOf_lone, ih]

theorem step (apart : place.isCollection = false) (h : Collapsed place j k) : Step Collapsed place j k := by
  cases h with
  | same =>
    cases j with
    | arr items => exact .list (List.forall₂_same.mpr fun x _ => same _ x)
    | obj members => exact .object fun key => rel_self (same _) (findMember members key)
    | null | bool | num | str => exact .leaf nofun nofun
  | list length items => exact .list (List.forall₂_iff_zip.mpr ⟨length, fun mem => items _ mem⟩)
  | object names members =>
    exact .object fun key => rel_findMember
      (forall₂_members (f := fun name => name) (S := fun name => Collapsed (place.member name)) names members)
      fun name v w found related => Place.member_congr found place ▸ related
  | lone => nomatch apart

theorem items (h : Collapsed (.collection place) j k) :
    List.Forall₂ (Collapsed place) (asList j) (asList k) := by
  cases h with
  | same => exact List.forall₂_same.mpr fun x _ => same place x
  | list length items => exact List.forall₂_iff_zip.mpr ⟨length, fun mem => items _ mem⟩
  | object names members => exact .cons (.object names members) .nil
  | lone noList noNull inner =>
    -- an item that is no list was changed inside only, so that it still counts as one
    cases inner with
    | list => exact absurd rfl (noList _)
    | lone => exact absurd rfl (noList _)
    | object names members => exact .cons (.object names members) .nil
    | same =>
      cases k with
      | arr items => exact absurd rfl (noList items)
      | null => exact absurd rfl noNull
      | bool | num | str | obj => exact .cons (same place _) .nil

theorem unseen : Unseen Collapsed := ⟨text, step, items⟩

theorem looseText {ms ns : List (Text × Json)} (h : Collapsed place (.obj ms) (.obj ns)) (word : Text) :
    HelpObject.looseText (.obj ms) word = HelpObject.looseText (.obj ns) word := by
  refine looseText_congr ?_ word
  cases h with
  | same => exact List.forall₂_same.mpr fun m _ => ⟨rfl, rfl⟩
  | object names members =>
    have texts := forall₂_members (f := fun name => name) (S := fun _ => SameText) names
      fun p mem => (members p mem).text
    exact texts.imp fun _ _ here => ⟨congrArg lowerAscii here.1, here.2⟩

end Collapsed

/-- A collection of one may be written as its item, at any of its places: the page is the same, beside any
dump and any hint. A list of one has the text of its item wherever it stands. -/
theorem page?_collapsed :
    (∀ ms ns, Collapsed .page (.obj ms) (.obj ns) → ∀ raw hint : Option Text,
      Capture.page? ⟨some (.obj ms), raw, hint⟩ = Capture.page? ⟨some (.obj ns), raw, hint⟩) ∧
    ∀ x, textOf (.arr [x]) = textOf x :=
  ⟨fun _ _ h raw hint => Collapsed.unseen.page?_eq_page? h (fun word _ => h.looseText word) raw hint,
    textOf_lone⟩

def listedMembers : List (Text × Json) :=
  [("name", .str "Get-Item"),
   ("parameters", .obj [("parameter", .arr
     [.obj [("aliases", .arr [.str "FullName"]), ("name", .str "Path")]])])]

def loneMembers : List (Text × Json) :=
  [("name", .str "Get-Item"),
   ("parameters", .obj [("parameter",
     .obj [("aliases", .str "FullName"), ("name", .str "Path")])])]

theorem collapsed_loneMembers : Collapsed .page (.obj listedMembers) (.obj loneMembers) := by
  have aliases : Collapsed (.collection .plain) (.arr [.str "FullName"]) (.str "FullName") :=
    .lone nofun nofun (.same _ _)
  have parameter : Collapsed .parameter
      (.obj [("aliases", .arr [.str "FullName"]), ("name", .str "Path")])
      (.obj [("aliases", .str "FullName"), ("name", .str "Path")]) :=
    .object rfl (List.forall_mem_cons.mpr ⟨aliases, List.forall_mem_cons.mpr ⟨.same _ _, nofun⟩⟩)
  refine .object rfl (List.forall_mem_cons.mpr ⟨.same _ _, List.forall_mem_cons.mpr ⟨?_, nofun⟩⟩)
  exact .object rfl (List.forall_mem_cons.mpr ⟨.lone nofun nofun parameter, nofun⟩)

theorem page?_collapsed_getItem :
    Collapsed .page (.obj listedMembers) (.obj loneMembers) ∧
      Capture.page? ⟨some (.obj listedMembers), none, none⟩ =
        Capture.page? ⟨some (.obj loneMembers), none, none⟩ ∧
      (Capture.page? ⟨some (.obj loneMembers), none, none⟩).map (·.parameters) =
        some [{ name := "Path", aliases := ["FullName"] }] ∧
      textOf (.arr [.str "FullName"]) = textOf (.str "FullName") :=
  ⟨collapsed_loneMembers, page?_collapsed.1 _ _ collapsed_loneMembers none none, by decide +kernel,
    page?_collapsed.2 _⟩

end ModuleDocs.Help
