import ModuleDocs.Document.Item

namespace ModuleDocs.Selection
open Text Document

inductive Mode where
  | preferLocal
  | preferRemote
  | both
  deriving DecidableEq, Repr

namespace Mode

def all : List Mode := [preferLocal, preferRemote, both]

def name : Mode → Text
  | preferLocal => "prefer-local"
  | preferRemote => "prefer-remote"
  | both => "all"

def ofName? (name : Text) : Option Mode := all.find? (fun m => m.name == name)

end Mode

/-- For each kind, whether the caller wants it; none where nothing was said. -/
abbrev Flags := Kind → Option Bool

def Flags.unsaid : Flags := fun _ => none

def Flags.set (flags : Flags) (k : Kind) (wanted : Bool) : Flags :=
  fun k' => if k' = k then some wanted else flags k'

def Flags.anyRequested (flags : Flags) : Bool := Kind.all.any (fun k => flags k == some true)

structure Request where
  mode : Mode := .preferLocal
  showDuplicates : Bool := false
  /-- Local documents are wanted even where a remote is available. -/
  includeLocal : Bool := true
  remoteAvailable : Bool := false
  fetchRemote : Bool := false
  flags : Flags := Flags.unsaid
  introduction : Option Text := none
  supplemental : List Item := []

def Request.introductionItem (r : Request) : Option Item :=
  (r.introduction.filter (fun t => !isBlank t)).map fun t =>
    Item.ofKind .introduction t [] [] .localFile

structure Note where
  key : Text
  message : Text
  deriving DecidableEq, Repr

def Note.about (k : Kind) (event message : Text) : Note := ⟨k.name ++ ':' :: event, message⟩

def Note.display (n : Note) : Text := '[' :: n.key ++ "] ".toList ++ n.message

structure Result where
  items : List Item := []
  usedRemote : Bool := false
  notes : List Note := []
  missing : List Kind := []
  deriving DecidableEq, Repr

def Result.itemsOf (r : Result) (k : Kind) : List Item := r.items.filter (fun i => i.kind == some k)

/-- Adds an item found later for a kind that is missing, after the standard items and before all
others. The answer says whether the item was taken. -/
def Result.insertBackfill (r : Result) (i : Item) : Bool × Result :=
  match i.kind with
  | none => (false, r)
  | some k =>
    if i.hasContent && r.missing.contains k then
      let isStandard (j : Item) : Bool := j.role == .standard
      (true,
        { items := r.items.takeWhile isStandard ++ i :: r.items.dropWhile isStandard
          usedRemote := r.usedRemote || i.source == .remote
          notes := r.notes ++
            [.about k "backfilled" (k.name ++ " not found earlier, backfilled from ".toList ++ i.path)]
          missing := r.missing.filter (· != k) })
    else (false, r)

end ModuleDocs.Selection
