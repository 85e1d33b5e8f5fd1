import ModuleDocs.Selection.Request
import ModuleDocs.Text.Difference

/-! The choice between local and remote documents, a pure function of the request and of what was
found. Each kind is decided by itself: identical copies within a source collapse, each source offers
its first document, and the mode merges the two offers. -/
namespace ModuleDocs.Selection
open Text Document

structure Decision where
  items : List Item
  notes : List Note

/-- The kinds to resolve, in the order of presentation: those asked for by name, or else the
standard ones and those for which something was found, without the ones refused. -/
def requestedKinds (r : Request) (locals remotes : Candidates) : List Kind :=
  if r.flags.anyRequested then Kind.all.filter (fun k => r.flags k == some true)
  else
    let found (k : Kind) : Bool := !(locals k).isEmpty || !(remotes k).isEmpty
    (Kind.all.filter (fun k => r.flags k != some false)).filter fun k =>
      match k with
      | .introduction => r.introductionItem.isSome || found k
      | .upgrade => found k
      | _ => true

/-- Keeps the first of several items with the same content. `seen` holds the keys before. -/
def dropCopies (seen : List Text) : List Item → List Item
  | [] => []
  | i :: rest =>
    if seen.contains i.contentKey then dropCopies seen rest
    else i :: dropCopies (i.contentKey :: seen) rest

def eligible (r : Request) (k : Kind) (source : Source) (candidates : List Item) : Decision :=
  let visible := candidates.filter Item.hasContent
  if r.showDuplicates then ⟨visible, []⟩
  else
    let kept := dropCopies [] visible
    let removed := visible.length - kept.length
    let message := "removed ".toList ++ Text.ofNat removed ++ " duplicate ".toList ++ source.word ++
      ' ' :: k.name ++ " candidate(s)".toList
    ⟨kept, if removed = 0 then [] else [.about k ("dedup-".toList ++ source.word) message]⟩

def differsNote (k : Kind) (here there : Item) : Note :=
  .about k "differs" ("local and remote ".toList ++ k.name ++ " differ (".toList ++
    Text.ofNat (changedLines here.normalized there.normalized) ++
    " changed line(s)), showing both".toList)

def merge (r : Request) (k : Kind) : Option Item → Option Item → Decision
  | none, none => ⟨[], []⟩
  | some here, none =>
    ⟨[here],
      if r.mode = .preferRemote ∧ r.fetchRemote then
        [.about k "fallback-local" ("remote ".toList ++ k.name ++ " missing, using local".toList)]
      else []⟩
  | none, some there =>
    ⟨[there],
      [.about k "fallback-remote"
        (if r.mode = .preferRemote then
          "using remote ".toList ++ k.name ++ " (fallback, no local copy)".toList
        else "local ".toList ++ k.name ++ " missing, using remote".toList)]⟩
  | some here, some there =>
    let collapse := !r.showDuplicates && here.sameContent there
    match r.mode with
    | .preferLocal =>
      if collapse then
        ⟨[here], [.about k "hidden-remote"
          ("hiding remote ".toList ++ k.name ++ ", identical to local".toList)]⟩
      else ⟨[here, there], [differsNote k here there]⟩
    | .preferRemote =>
      if collapse then
        ⟨[there], [.about k "hidden-local"
          ("hiding local ".toList ++ k.name ++ ", identical to remote".toList)]⟩
      else ⟨[there, here], [differsNote k here there]⟩
    | .both =>
      if collapse then
        ⟨[here], [.about k "collapsed"
          ("local and remote ".toList ++ k.name ++ " are identical, keeping local".toList)]⟩
      else ⟨[here, there], [differsNote k here there]⟩

def localCandidates (r : Request) (locals : Candidates) (k : Kind) : List Item :=
  (if k = .introduction then r.introductionItem.toList else []) ++ locals k

/-- The decision for one kind. A source that is not wanted still reports its copies. -/
def decideKind (r : Request) (locals remotes : Candidates) (k : Kind) : Decision :=
  let here := eligible r k .localFile (localCandidates r locals k)
  let there := eligible r k .remote (remotes k)
  let chosen := merge r k
    (if r.includeLocal || !r.remoteAvailable then here.items.head? else none)
    (if r.fetchRemote then there.items.head? else none)
  ⟨chosen.items, here.notes ++ there.notes ++ chosen.notes⟩

def Result.addKind (r : Request) (locals remotes : Candidates) (result : Result) (k : Kind) : Result :=
  let chosen := decideKind r locals remotes k
  { items := result.items ++ chosen.items
    usedRemote := result.usedRemote || chosen.items.any (fun i => i.source == .remote)
    notes := result.notes ++ chosen.notes
    missing := if chosen.items.isEmpty then result.missing ++ [k] else result.missing }

def Result.addSupplemental (result : Result) (i : Item) : Result :=
  if i.hasContent then
    { result with
      items := result.items ++ [i], usedRemote := result.usedRemote || i.source == .remote }
  else result

/-- The documents to show, for everything that was found: kind after kind, then the supplemental
items. -/
def plan (r : Request) (locals remotes : Candidates) : Result :=
  r.supplemental.foldl Result.addSupplemental
    ((requestedKinds r locals remotes).foldl (Result.addKind r locals remotes) {})

end ModuleDocs.Selection
