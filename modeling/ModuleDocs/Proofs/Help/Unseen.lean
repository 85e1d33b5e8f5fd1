import Mathlib.Data.List.Forall2
import ModuleDocs.Proofs.Help.Members
import ModuleDocs.Proofs.Help.Sources

/-! Differences between two objects that no reader sees. A node is read by where it stands: by its text, by
its members, item by item, or, where it is a collection, by the items it stands for. Main statement: nodes
that agree in all this, place by place, give one page, if they also agree in the texts that are looked
for by a word alone. -/
namespace ModuleDocs.Help
open Text HelpObject

/-- Where a node stands. A holder has collections under some names, or is itself the list of the items. -/
inductive Place where
  | page
  | holder (names : List Text) (item : Place)
  | collection (item : Place)
  | plain
  deriving DecidableEq

namespace Place

def parameter : Place := holder ["aliases"] plain

def usage : Place := holder ["parameter", "parameters"] parameter

def pageMembers : List (Text × Place) :=
  [("parameters", holder ["parameter"] parameter), ("syntax", holder ["syntaxItem"] usage),
   ("parameterSets", holder [] usage), ("examples", holder ["example"] plain),
   ("inputTypes", holder ["inputType"] plain), ("returnValues", holder ["returnValue"] plain),
   ("relatedLinks", holder ["navigationLink"] plain), ("alertSet", holder ["alert"] plain)]

def member : Place → Text → Place
  | page, key => ((pageMembers.find? fun m => sameName m.1 key).map (·.2)).getD plain
  | holder names item, key => if names.any (sameName key) then collection item else plain
  | collection item, key => item.member key
  | plain, _ => plain

def item : Place → Place
  | page | plain => plain
  | holder _ item | collection item => item

def isCollection : Place → Bool
  | collection _ => true
  | _ => false

def along (place : Place) (keys : List Text) : Place := keys.foldl member place

def clear : Place → List Text → Bool
  | _, [] => true
  | place, key :: keys => !place.isCollection && (place.member key).clear keys

theorem member_congr {key other : Text} (same : sameName key other = true) (place : Place) :
    place.member key = place.member other := by
  have alike (name : Text) : sameName name key = sameName name other := by
    rw [Bool.eq_iff_iff, sameName_iff, sameName_iff, sameName_iff.mp same]
  induction place with
  | page =>
    have alike : (fun m : Text × Place => sameName m.1 key) = fun m => sameName m.1 other :=
      funext fun m => alike m.1
    rw [member, member, alike]
  | holder names item =>
    have flipped : sameName key = sameName other := funext fun name => by
      rw [sameName_comm, alike, sameName_comm]
    rw [member, member, flipped]
  | collection item ih => exact ih
  | plain => rfl

-- collections below a page stand inside the items of others, and their names may be in any case
example : page.along ["Syntax", "syntaxItem", "parameter", "ALIASES"] = collection plain := by decide

end Place

theorem textsOf_eq (items : List Json) : textsOf items = items.filterMap textOf := by
  induction items with
  | nil => rfl
  | cons j rest ih =>
    rw [textsOf, ih, List.filterMap_cons]
    cases textOf j <;> rfl

theorem memberTexts_eq (members : List (Text × Json)) :
    memberTexts members = members.map fun m => (m.1, textOf m.2) := by
  induction members with
  | nil => rfl
  | cons m rest ih =>
    rw [memberTexts, ih]
    rfl

theorem findMember_map {α β : Type} (f : α → β) (members : List (Text × α)) (key : Text) :
    findMember (members.map fun m => (m.1, f m.2)) key = (findMember members key).map f := by
  have exact : (members.map fun m => (m.1, f m.2)).lookup key = (members.lookup key).map f := by
    induction members with
    | nil => rfl
    | cons m rest ih =>
      rw [List.map_cons, List.lookup_cons, List.lookup_cons, ih]
      split <;> rfl
  rw [findMember, findMember, exact, List.find?_map, Option.map_map]
  cases members.lookup key with
  | some v => rfl
  | none =>
    simp only [Option.map_none, Option.none_or, Option.map_map]
    rfl

theorem textOf_object (members : List (Text × Json)) :
    textOf (.obj members) = wrapperKeys.findSome? fun key => (findMember members key).bind textOf := by
  rw [textOf, memberTexts_eq]
  simp only [findMember_map]
  congr 1
  funext key
  cases findMember members key <;> rfl

theorem textOf_lone (j : Json) : textOf (.arr [j]) = textOf j := by
  rw [textOf, textsOf_eq, List.filterMap_cons, List.filterMap_nil]
  cases text : textOf j with
  | none => rfl
  | some t =>
    rw [List.intercalate_singleton, nonEmpty, if_neg]
    rw [List.isEmpty_iff]
    exact (solid_textOf j text).nonempty

def SameText (j k : Json) : Prop := textOf j = textOf k

theorem rel_self {α : Type} {S : α → α → Prop} (same : ∀ a, S a a) (o : Option α) : Option.Rel S o o := by
  cases o with
  | none => exact .none
  | some a => exact .some (same a)

theorem filterMap_congr_forall₂ {α β : Type} {R : α → α → Prop} {f : α → Option β}
    (same : ∀ a b, R a b → f a = f b) {as bs : List α} (related : List.Forall₂ R as bs) :
    as.filterMap f = bs.filterMap f := by
  have each (a b : α) (here : R a b) : Option.Rel (· = ·) (f a) (f b) :=
    same a b here ▸ rel_self (fun _ => rfl) (f a)
  have mapped : List.Forall₂ (· = ·) (as.filterMap f) (bs.filterMap f) :=
    List.rel_filterMap each related
  rwa [List.forall₂_eq_eq_eq] at mapped

theorem sameText_list {xs ys : List Json} (items : List.Forall₂ SameText xs ys) :
    SameText (.arr xs) (.arr ys) := by
  rw [SameText, textOf, textOf, textsOf_eq, textsOf_eq,
    filterMap_congr_forall₂ (fun _ _ same => same) items]

theorem map_congr_forall₂ {α β : Type} {R : α → α → Prop} {f : α → β}
    (same : ∀ a b, R a b → f a = f b) {as bs : List α} (related : List.Forall₂ R as bs) :
    as.map f = bs.map f := by
  have mapped : List.Forall₂ (· = ·) (as.map f) (bs.map f) := List.rel_map same related
  rwa [List.forall₂_eq_eq_eq] at mapped

theorem mapIdx_congr_forall₂ {α β : Type} {R : α → α → Prop} {f : Nat → α → β}
    (same : ∀ i a b, R a b → f i a = f i b) {as bs : List α} (related : List.Forall₂ R as bs) :
    as.mapIdx f = bs.mapIdx f := by
  induction related generalizing f with
  | nil => rfl
  | cons here _ ih =>
    rw [List.mapIdx_cons, List.mapIdx_cons, same 0 _ _ here, ih fun i => same (i + 1)]

theorem bind_congr_rel {α β : Type} {R : α → α → Prop} {f : α → Option β}
    (same : ∀ a b, R a b → f a = f b) {o p : Option α} (related : Option.Rel R o p) :
    o.bind f = p.bind f := by
  cases related with
  | none => rfl
  | some here => exact same _ _ here

theorem sameText_object {ms ns : List (Text × Json)}
    (members : ∀ key, Option.Rel SameText (findMember ms key) (findMember ns key)) :
    SameText (.obj ms) (.obj ns) := by
  have each (key : Text) : (findMember ms key).bind textOf = (findMember ns key).bind textOf :=
    bind_congr_rel (fun _ _ same => same) (members key)
  rw [SameText, textOf_object, textOf_object]
  simp only [each]

theorem forall₂_members {α : Type} {f : Text → α} {S : Text → Json → Json → Prop}
    {ms ns : List (Text × Json)} (names : ms.map (fun m => f m.1) = ns.map (fun n => f n.1))
    (members : ∀ p ∈ ms.zip ns, S p.1.1 p.1.2 p.2.2) :
    List.Forall₂ (fun m n => f m.1 = f n.1 ∧ S m.1 m.2 n.2) ms ns := by
  induction ms generalizing ns with
  | nil =>
    cases ns with
    | nil => exact .nil
    | cons n ns => nomatch names
  | cons m ms ih =>
    cases ns with
    | nil => nomatch names
    | cons n ns =>
      rw [List.zip_cons_cons, List.forall_mem_cons] at members
      obtain ⟨here, later⟩ := List.cons.inj names
      exact .cons ⟨here, members.1⟩ (ih later members.2)

theorem rel_find? {S : Text → Json → Json → Prop} {ms ns : List (Text × Json)}
    (members : List.Forall₂ (fun m n => lowerAscii m.1 = lowerAscii n.1 ∧ S m.1 m.2 n.2) ms ns)
    {T : Json → Json → Prop} {key : Text}
    (found : ∀ name v w, sameName name key = true → S name v w → T v w) :
    Option.Rel T ((ms.find? fun m => sameName m.1 key).map (·.2))
      ((ns.find? fun n => sameName n.1 key).map (·.2)) := by
  induction members with
  | nil => exact .none
  | @cons m n _ _ here _ ih =>
    have alike : sameName n.1 key = sameName m.1 key := by rw [sameName, sameName, here.1]
    rw [List.find?_cons, List.find?_cons, alike]
    cases named : sameName m.1 key with
    | true => exact .some (found _ _ _ named here.2)
    | false => exact ih

theorem looseText_congr {ms ns : List (Text × Json)}
    (members : List.Forall₂ (fun m n => lowerAscii m.1 = lowerAscii n.1 ∧ SameText m.2 n.2) ms ns)
    (word : Text) : looseText (.obj ms) word = looseText (.obj ns) word := by
  rw [looseText, looseText]
  induction members with
  | nil => rfl
  | @cons m n _ _ here _ ih =>
    rw [List.filter_cons, List.filter_cons, here.1]
    split
    · rw [List.findSome?_cons, List.findSome?_cons, here.2, ih]
    · exact ih

theorem flagAt_eq (j : Json) (keys : List Text) : flagAt j keys = (textAt j keys).bind flagOf := by
  rw [flagAt, textAt]
  cases follow j keys with
  | none => rfl
  | some found =>
    cases found with
    | bool b => cases b <;> decide
    | null | num | str | arr | obj => rfl

theorem aliases_eq (j : Json) :
    aliases j = ((((get j "aliases").map asList).getD []).filterMap textOf).flatMap aliasesOf := by
  have single (t : Option Text) : (t.map aliasesOf).getD [] = t.toList.flatMap aliasesOf := by
    cases t <;> simp
  rw [aliases]
  cases get j "aliases" with
  | none => rfl
  | some found =>
    cases found with
    | arr items => rfl
    | null => rfl
    | bool | num | str | obj =>
      dsimp only
      rw [single, Option.map_some, Option.getD_some, asList, List.filterMap_eq_flatMap_toList,
        List.flatMap_singleton]
      all_goals nofun

def items? : Json → Option (List Json)
  | .arr items => some items
  | _ => none

theorem collection_eq (j : Json) (nested : List (List Text)) (flat : List Text) :
    collection j nested flat = ((nested.findSome? (follow j)).map asList).getD
      ((flat.findSome? fun key => (get j key).bind items?).getD []) := by
  rw [collection]
  cases nested.findSome? (follow j) with
  | some found => rfl
  | none =>
    induction flat with
    | nil => rfl
    | cons key rest ih =>
      rw [List.findSome?_cons, List.findSome?_cons]
      cases get j key with
      | none => exact ih
      | some found =>
        cases found with
        | arr items => rfl
        | null | bool | num | str | obj => exact ih

/-- Two nodes that are not told apart by what they are: they are one node without parts, two lists, or two
objects, whose parts are related at their places. -/
inductive Step (R : Place → Json → Json → Prop) (place : Place) : Json → Json → Prop
  | leaf {j : Json} (noList : ∀ items, j ≠ .arr items) (noObject : ∀ members, j ≠ .obj members) :
      Step R place j j
  | list {xs ys : List Json} (items : List.Forall₂ (R place.item) xs ys) :
      Step R place (.arr xs) (.arr ys)
  | object {ms ns : List (Text × Json)}
      (members : ∀ key, Option.Rel (R (place.member key)) (findMember ms key) (findMember ns key)) :
      Step R place (.obj ms) (.obj ns)

theorem Step.items? {R : Place → Json → Json → Prop} {place : Place} {j k : Json}
    (h : Step R place j k) : Option.Rel (List.Forall₂ (R place.item)) (Help.items? j) (Help.items? k) := by
  cases h with
  | list items => exact .some items
  | object => exact .none
  | leaf noList =>
    cases j with
    | arr items => exact absurd rfl (noList items)
    | null | bool | num | str | obj => exact .none

def looseWords : List Text := ["synopsis", "description", "note"]

/-- What the relation lets differ is read nowhere: neither in texts nor in the parts of a node, nor, at
the place of a collection, in the items that it stands for. -/
structure Unseen (R : Place → Json → Json → Prop) : Prop where
  text : ∀ {place j k}, R place j k → textOf j = textOf k
  step : ∀ {place j k}, place.isCollection = false → R place j k → Step R place j k
  items : ∀ {place j k}, R (.collection place) j k → List.Forall₂ (R place) (asList j) (asList k)

theorem rel_findSome? {α β : Type} {S : β → β → Prop} {f g : α → Option β} {keys : List α}
    (each : ∀ key ∈ keys, Option.Rel S (f key) (g key)) :
    Option.Rel S (keys.findSome? f) (keys.findSome? g) := by
  induction keys with
  | nil => exact .none
  | cons key rest ih =>
    rw [List.forall_mem_cons] at each
    rw [List.findSome?_cons, List.findSome?_cons]
    generalize f key = a, g key = b at each
    obtain ⟨here, later⟩ := each
    cases here with
    | none => exact ih later
    | some related => exact .some related

theorem rel_getD {α : Type} {S : α → α → Prop} {o p : Option α} {a b : α} (related : Option.Rel S o p)
    (otherwise : S a b) : S (o.getD a) (p.getD b) := by
  cases related with
  | none => exact otherwise
  | some here => exact here

namespace Unseen

variable {R : Place → Json → Json → Prop} (h : Unseen R) {place : Place} {j k : Json}
include h

theorem get (apart : place.isCollection = false) (related : R place j k) (key : Text) :
    Option.Rel (R (place.member key)) (HelpObject.get j key) (HelpObject.get k key) := by
  cases h.step apart related with
  | leaf noList noObject =>
    cases j with
    | obj members => exact absurd rfl (noObject members)
    | null | bool | num | str | arr => exact .none
  | list => exact .none
  | object members => exact members key

theorem follow {keys : List Text} (clear : place.clear keys = true) (related : R place j k) :
    Option.Rel (R (place.along keys)) (HelpObject.follow j keys) (HelpObject.follow k keys) := by
  induction keys generalizing place j k with
  | nil => exact .some related
  | cons key keys ih =>
    rw [Place.clear, Bool.and_eq_true, Bool.not_eq_true'] at clear
    rw [follow_cons, follow_cons]
    have first := h.get clear.1 related key
    generalize HelpObject.get j key = a, HelpObject.get k key = b at first
    cases first with
    | none => exact .none
    | some found => exact ih clear.2 found

theorem textAt {keys : List Text} (clear : place.clear keys = true) (related : R place j k) :
    HelpObject.textAt j keys = HelpObject.textAt k keys :=
  bind_congr_rel (fun _ _ found => h.text found) (h.follow clear related)

theorem textAmong {chains : List (List Text)} (clear : chains.all place.clear = true)
    (related : R place j k) : HelpObject.textAmong j chains = HelpObject.textAmong k chains := by
  induction chains with
  | nil => rfl
  | cons keys chains ih =>
    rw [List.all_cons, Bool.and_eq_true] at clear
    rw [textAmong_cons, textAmong_cons, h.textAt clear.1 related, ih clear.2]

theorem flagAt {keys : List Text} (clear : place.clear keys = true) (related : R place j k) :
    HelpObject.flagAt j keys = HelpObject.flagAt k keys := by
  rw [flagAt_eq, flagAt_eq, h.textAt clear related]

theorem labelOf {chains : List (List Text)} (apart : place.isCollection = false)
    (clear : chains.all place.clear = true) (related : R place j k) :
    HelpObject.labelOf j chains = HelpObject.labelOf k chains := by
  have found := h.textAmong clear related
  cases h.step apart related with
  | leaf => rfl
  | list => exact found
  | object => exact found

theorem itemsOf {a b : Option Json} (related : Option.Rel (R (.collection place)) a b) :
    List.Forall₂ (R place) ((a.map asList).getD []) ((b.map asList).getD []) := by
  cases related with
  | none => exact .nil
  | some found => exact h.items found

theorem collection (item : Place) (nested : List (List Text)) (flat : List Text)
    (deep : ∀ keys ∈ nested, place.clear keys = true ∧ place.along keys = .collection item)
    (wide : ∀ key ∈ flat, place.isCollection = false ∧ (place.member key).isCollection = false ∧
      (place.member key).item = item) (related : R place j k) :
    List.Forall₂ (R item) (HelpObject.collection j nested flat) (HelpObject.collection k nested flat) := by
  have first : Option.Rel (List.Forall₂ (R item)) ((nested.findSome? (HelpObject.follow j)).map asList)
      ((nested.findSome? (HelpObject.follow k)).map asList) := by
    have found : Option.Rel (R (.collection item)) (nested.findSome? (HelpObject.follow j))
        (nested.findSome? (HelpObject.follow k)) := rel_findSome? fun keys mem => by
      obtain ⟨clear, ends⟩ := deep keys mem
      exact ends ▸ h.follow clear related
    generalize nested.findSome? (HelpObject.follow j) = a,
      nested.findSome? (HelpObject.follow k) = b at found
    cases found with
    | none => exact .none
    | some found => exact .some (h.items found)
  have second : Option.Rel (List.Forall₂ (R item))
      (flat.findSome? fun key => (HelpObject.get j key).bind items?)
      (flat.findSome? fun key => (HelpObject.get k key).bind items?) := rel_findSome? fun key mem => by
    obtain ⟨apart, below, ends⟩ := wide key mem
    have found := h.get apart related key
    generalize HelpObject.get j key = a, HelpObject.get k key = b at found
    cases found with
    | none => exact .none
    | some found => exact ends ▸ (h.step below found).items?
  rw [collection_eq, collection_eq]
  exact rel_getD first (rel_getD second .nil)

theorem aliases (related : R .parameter j k) : HelpObject.aliases j = HelpObject.aliases k := by
  have found : Option.Rel (R (.collection .plain)) (HelpObject.get j "aliases")
      (HelpObject.get k "aliases") := h.get rfl related "aliases"
  rw [aliases_eq, aliases_eq, filterMap_congr_forall₂ (fun _ _ found => h.text found) (h.itemsOf found)]

theorem parameter? (related : R .parameter j k) :
    HelpObject.parameter? j = HelpObject.parameter? k := by
  have text (key : Text) : HelpObject.textAt j [key] = HelpObject.textAt k [key] :=
    h.textAt rfl related
  have flag (key : Text) : HelpObject.flagAt j [key] = HelpObject.flagAt k [key] :=
    h.flagAt rfl related
  have type : HelpObject.typeName j = HelpObject.typeName k :=
    congrArg (Option.getD · []) (h.textAmong (by decide) related)
  have pipelineInput : HelpObject.textAmong j [["pipelineInput"], ["acceptPipelineInput"]] =
      HelpObject.textAmong k [["pipelineInput"], ["acceptPipelineInput"]] := h.textAmong rfl related
  simp only [HelpObject.parameter?, text, flag, type, pipelineInput, h.aliases related]

theorem parameters (related : R .page j k) : HelpObject.parameters j = HelpObject.parameters k := by
  have items := h.collection .parameter [["parameters", "parameter"]] ["parameters"] (by decide)
    (by decide) related
  exact filterMap_congr_forall₂ (fun _ _ found => h.parameter? found) items

theorem usages (related : R .page j k) (catalogue : List Parameter) :
    HelpObject.usages j catalogue = HelpObject.usages k catalogue := by
  have items := h.collection .usage [["syntax", "syntaxItem"]] ["syntax", "parameterSets"] (by decide)
    (by decide) related
  unfold HelpObject.usages
  dsimp only
  rw [items.length_eq]
  refine mapIdx_congr_forall₂ (fun i a b found => ?_) items
  have name : HelpObject.textAmong a [["parameterSetName"], ["setName"]] =
      HelpObject.textAmong b [["parameterSetName"], ["setName"]] := h.textAmong rfl found
  have own := h.collection .parameter [["parameter"], ["parameters"]] [] (by decide) (by decide) found
  rw [name, filterMap_congr_forall₂ (fun _ _ found => h.parameter? found) own]

theorem rawExample (related : R .plain j k) : HelpObject.rawExample j = HelpObject.rawExample k := by
  have text (key : Text) : HelpObject.textAt j [key] = HelpObject.textAt k [key] :=
    h.textAt rfl related
  simp only [HelpObject.rawExample, text]

theorem examples (related : R .page j k) : HelpObject.examples j = HelpObject.examples k := by
  have items := h.collection .plain [["examples", "example"]] ["examples"] (by decide) (by decide)
    related
  exact map_congr_forall₂ (fun _ _ found => h.rawExample found) items

theorem typeEntry? (related : R .plain j k) : HelpObject.typeEntry? j = HelpObject.typeEntry? k := by
  have label : HelpObject.labelOf j [["type", "name"], ["name"]] =
      HelpObject.labelOf k [["type", "name"], ["name"]] := h.labelOf rfl rfl related
  have description : HelpObject.textAt j ["description"] = HelpObject.textAt k ["description"] :=
    h.textAt rfl related
  rw [HelpObject.typeEntry?, HelpObject.typeEntry?, label, description]

theorem inputs (related : R .page j k) : HelpObject.inputs j = HelpObject.inputs k := by
  have items := h.collection .plain [["inputTypes", "inputType"]] ["inputs"] (by decide) (by decide)
    related
  exact filterMap_congr_forall₂ (fun _ _ found => h.typeEntry? found) items

theorem outputs (related : R .page j k) : HelpObject.outputs j = HelpObject.outputs k := by
  have items := h.collection .plain [["returnValues", "returnValue"]] ["outputs"] (by decide)
    (by decide) related
  exact filterMap_congr_forall₂ (fun _ _ found => h.typeEntry? found) items

theorem link? (related : R .plain j k) : HelpObject.link? j = HelpObject.link? k := by
  have label : HelpObject.labelOf j [["linkText"], ["text"]] =
      HelpObject.labelOf k [["linkText"], ["text"]] := h.labelOf rfl rfl related
  have uri : HelpObject.textAmong j [["uri"], ["url"]] = HelpObject.textAmong k [["uri"], ["url"]] :=
    h.textAmong rfl related
  rw [HelpObject.link?, HelpObject.link?, label, uri]

theorem links (related : R .page j k) : HelpObject.links j = HelpObject.links k := by
  have items := h.collection .plain [["relatedLinks", "navigationLink"]] ["relatedLinks", "links"]
    (by decide) (by decide) related
  exact filterMap_congr_forall₂ (fun _ _ found => h.link? found) items

theorem notes (related : R .page j k) (loose : looseText j "note" = looseText k "note") :
    HelpObject.notes j = HelpObject.notes k := by
  have plain : HelpObject.textAt j ["notes"] = HelpObject.textAt k ["notes"] := h.textAt rfl related
  have clear : Place.page.clear ["alertSet", "alert"] = true := by decide
  have found : Option.Rel (R (.collection .plain)) (HelpObject.follow j ["alertSet", "alert"])
      (HelpObject.follow k ["alertSet", "alert"]) := h.follow clear related
  have texts : (((HelpObject.follow j ["alertSet", "alert"]).map asList).getD []).filterMap textOf =
      (((HelpObject.follow k ["alertSet", "alert"]).map asList).getD []).filterMap textOf :=
    filterMap_congr_forall₂ (fun _ _ found => h.text found) (h.itemsOf found)
  unfold HelpObject.notes
  dsimp only
  rw [texts, plain, loose]

theorem synopsis (related : R .page j k) (loose : looseText j "synopsis" = looseText k "synopsis") :
    HelpObject.synopsis j = HelpObject.synopsis k := by
  have text : HelpObject.textAmong j [["synopsis"], ["details", "description"], ["summary"]] =
      HelpObject.textAmong k [["synopsis"], ["details", "description"], ["summary"]] :=
    h.textAmong (by decide) related
  rw [HelpObject.synopsis, HelpObject.synopsis, text, loose]

theorem description (related : R .page j k)
    (loose : looseText j "description" = looseText k "description") :
    HelpObject.description j = HelpObject.description k := by
  have text : HelpObject.textAmong j [["description"], ["details", "detailedDescription"]] =
      HelpObject.textAmong k [["description"], ["details", "detailedDescription"]] :=
    h.textAmong (by decide) related
  rw [HelpObject.description, HelpObject.description, text, loose]

theorem name (related : R .page j k) : HelpObject.name j = HelpObject.name k :=
  h.textAmong (by decide) related

theorem pageOfObject (related : R .page j k)
    (loose : ∀ word ∈ looseWords, looseText j word = looseText k word) (dump : Option Dump) :
    Help.pageOfObject j dump = Help.pageOfObject k dump := by
  simp only [looseWords, List.forall_mem_cons] at loose
  obtain ⟨synopsis, description, note, -⟩ := loose
  simp only [Help.pageOfObject, examplesFor, h.name related, h.parameters related,
    h.synopsis related synopsis, h.description related description, h.usages related,
    h.examples related, h.inputs related, h.outputs related, h.notes related note, h.links related]

/-- Two objects that differ in nothing that is read give one page, beside any dump and any hint. -/
theorem page?_eq_page? {ms ns : List (Text × Json)} (related : R .page (.obj ms) (.obj ns))
    (loose : ∀ word ∈ looseWords, looseText (.obj ms) word = looseText (.obj ns) word)
    (raw hint : Option Text) :
    Capture.page? ⟨some (.obj ms), raw, hint⟩ = Capture.page? ⟨some (.obj ns), raw, hint⟩ := by
  have same : objectPage (some (.obj ms)) raw = objectPage (some (.obj ns)) raw :=
    h.pageOfObject related loose (raw.map Dump.parse)
  rw [page?_eq, page?_eq, same]

end Unseen

end ModuleDocs.Help
