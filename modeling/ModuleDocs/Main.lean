import ModuleDocs.Command.Run

/-! The command line. The names of the project's files come in on standard input, one on each line;
`classify` without a file reads its example from there instead. The files that the arguments name
are read as well. Nothing is sent and no program is started from here: a remote counts as
unreachable and a help program as missing. -/
namespace ModuleDocs.Command

partial def readRest (s : IO.FS.Stream) (before : Bytes) : IO Bytes := do
  let chunk ← s.read 65536
  if chunk.isEmpty then pure before else readRest s (before ++ chunk.toList)

def readEntry (name : Text) : IO (Option (Text × Entry)) := do
  try
    let content ← IO.FS.readBinFile name.toString
    pure (some (name, .file content.toList))
  catch _ => pure none

def writeEntry (t : Tree) (place : List Text) (e : Entry) : IO Unit := do
  if t.get? place != some e then
    let path := (t.pathOf place).toString
    match e with
    | .file content => IO.FS.writeBinFile path ⟨content.toArray⟩
    | .folder => IO.FS.createDirAll path
    | .link _ => pure ()

end ModuleDocs.Command

open ModuleDocs ModuleDocs.Command in
def main (args : List String) : IO UInt32 := do
  let folder := (toString (← IO.currentDir)).toList
  let input ← readRest (← IO.getStdin) []
  let listed := Text.lines (Utf8.decodeLossy input)
  let names := Path.ofParts [Config.folderName, Config.fileName] :: args.map String.toList ++ listed
  let t := Tree.ofList folder ((← names.mapM readEntry).filterMap id)
  let around : Surroundings Id := {
    folder, input, environment := fun _ => none, tokens := {}, programs := fun _ _ => none
    send := fun _ => Remote.Exchange.unreachable }
  let outcome := Id.run (run around t (args.map String.toList))
  outcome.tree.entries.forM fun (place, e) => writeEntry t place e
  IO.print outcome.printed.toString
  match outcome.ending with
  | .failed f => IO.eprintln ("Error: ".toList ++ f.message).toString
  | _ => pure ()
  return outcome.ending.status.toUInt32
