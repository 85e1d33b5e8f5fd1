import ModuleDocs.Config.Basic
import ModuleDocs.Example.Segment
import ModuleDocs.Help.Record
import ModuleDocs.Selection.Request

namespace ModuleDocs.Command
open Document Selection

def page (ls : List Text) : Text := ls.flatMap (· ++ ['\n'])

def heading (title : String) : List Text := [title, List.replicate title.length '=', []]

def rank (n : Nat) : Text :=
  let digits := Text.ofNat n
  List.replicate (3 - digits.length) ' ' ++ digits

def itemLines (content : Bool) (i : Item) (n : Nat) : List Text :=
  let place := if i.path.isEmpty then "(configured)".toList else i.path
  (rank n ++ ". ".toList ++ i.title ++ " [".toList ++ i.source.word ++ "] ".toList ++ place) ::
    if content then (Text.lines i.content).map (List.replicate 7 ' ' ++ ·) ++ [[]] else []

def planLines (content : Bool) (r : Result) : List Text :=
  let shown := if r.items.isEmpty then ["No documents selected.".toList]
    else heading "Document Plan" ++ (r.items.mapIdx fun n i => itemLines content i (n + 1)).flatten
  let absent := if r.missing.isEmpty then []
    else [[], "Missing: ".toList ++ List.intercalate ", ".toList (r.missing.map Kind.name)]
  shown ++ absent ++ if r.usedRemote then [[], "Remote documents were used.".toList] else []

def segmentedLines (s : Example.Segmented) : List Text :=
  let indented := fun t : Text => t.lines.map ("  ".toList ++ ·)
  ["Mode: ".toList ++ s.mode, [], "Code:".toList] ++ indented s.code ++
    if s.remarks.isEmpty then [] else [[], "Remarks:".toList] ++ indented s.remarks

section
open Help

structure HelpReport where
  source : Text
  found : Option Page

def HelpReport.toJson (r : HelpReport) : Json :=
  Json.record [("source", .str r.source), ("model", Json.ofOption Page.toJson r.found)]

/-- A parameter that is not known to be required stands in brackets. -/
def useOf (p : Parameter) : Text :=
  if p.required = some true then '-' :: p.name else "[-".toList ++ p.name ++ [']']

def usageLine (name : Text) (s : SyntaxSet) : Text :=
  "  ".toList ++ s.name ++ ": ".toList ++ name ++ ' ' ::
    List.intercalate [' '] (s.parameters.map useOf)

def parameterLine (p : Parameter) : Text :=
  "  -".toList ++ p.name ++ if p.typeName.isEmpty then [] else " <".toList ++ p.typeName ++ ['>']

def exampleLines (e : ExampleEntry) : List Text :=
  ["--- ".toList ++ e.title ++ " (".toList ++ e.mode ++ ") ---".toList, e.code] ++
    (if e.remarks.isEmpty then [] else [[], e.remarks]) ++ [[]]

def referenceLines (p : Page) : List Text :=
  (if p.synopsis.isEmpty then [] else [p.synopsis, []]) ++
    (if p.usages.isEmpty then [] else p.usages.map (usageLine p.name) ++ [[]]) ++
    if p.parameters.isEmpty then []
    else "Parameters:".toList :: p.parameters.map parameterLine ++ [[]]

def HelpReport.lines (examplesOnly : Bool) (r : HelpReport) : List Text :=
  match r.found with
  | none => [r.source ++ ": no usable help content".toList, []]
  | some p =>
    [p.name, List.replicate (max 1 (Text.byteLength p.name)) '=', []] ++
      (if examplesOnly then [] else referenceLines p) ++ p.examples.flatMap exampleLines

end

def labelled (label : String) (t : Option Text) : List Text :=
  (t.map fun t => label.toList ++ t).toList

def folderLines (folders : List Text) : List Text := folders.map ("  - ".toList ++ ·)

def configLines (root : Text) (c : Config) : List Text :=
  heading "modoc Configuration" ++
    ["Config file: ".toList ++ Text.quoted (Config.filePath root),
     "Mode: ".toList ++ c.get .mode, "Show duplicates: ".toList ++ c.get .showDuplicates,
     "Include local: ".toList ++ c.get .includeLocal] ++
    labelled "Secondary folder: " c.secondary ++
    [[], "Document folders:".toList] ++ folderLines c.docFolders ++
    (if c.scriptFolders.isEmpty then [] else [[], "Script folders:".toList] ++ folderLines c.scriptFolders) ++
    [[], "Remote enabled: ".toList ++ c.get .remoteEnabled] ++
    labelled "Remote repository: " c.remote.repository ++
    labelled "Remote branch: " c.remote.branch ++
    ["Remote API: ".toList ++ c.remote.apiBase, [],
     "Help program: ".toList ++ c.help.program ++ ' ' :: List.intercalate [' '] c.help.args,
     "Help timeout: ".toList ++ c.get .helpTimeout ++ ['s']]

end ModuleDocs.Command
