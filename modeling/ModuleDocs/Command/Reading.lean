import ModuleDocs.Command.Arguments
import ModuleDocs.Command.Project
import ModuleDocs.Command.Report
import ModuleDocs.Help.Reader
import ModuleDocs.Json.Parse

namespace ModuleDocs.Command
open Help

def fileStem (name : Text) : Text :=
  match Text.splitLast (· == '.') name with
  | some (stem, _) => if stem.isEmpty then name else stem
  | none => name

/-- Help from a file: an object in JSON, next to which a text dump of the same stem may lie, or else
a text dump. The stem of the file is the name to fall back on. -/
def readHelpFile {m : Type → Type} (s : Surroundings m) (t : Tree) (hint : Option Text)
    (file : Text) : Except Failure Capture := do
  let readText := fun path => match t.text? (s.place path) with
    | some text => .ok text
    | none => .error (Failure.helpFile path)
  let content ← readText file
  let name := (Path.parts file).getLastD []
  let nameHint := some (hint.getD (fileStem name))
  match Json.parse? content with
  | some (.obj members) =>
    let companion := file.take (file.length - name.length) ++ fileStem name ++ ".txt".toList
    let raw ← if Path.same companion file || (t.bytes? (s.place companion)).isNone then pure none
      else (readText companion).map some
    pure { structured := some (.obj members), raw, nameHint }
  | _ => pure { raw := some content, nameHint }

def captureHelp {m : Type → Type} (s : Surroundings m) (c : Config) (command : Text) : Capture :=
  let provider : Program.Provider := ⟨c.help.program, c.help.args, ⟨1000 * c.help.timeout⟩⟩
  { raw := provider.dump? s.programs command, nameHint := some command }

def helpReports {m : Type → Type} (s : Surroundings m) (t : Tree) (path : Text)
    (args : HelpArguments) : Except Failure (List HelpReport) := do
  if args.files.isEmpty && args.commands.isEmpty then .error .noHelp
  let fromFiles ← args.files.mapM fun file => do
    pure (HelpReport.mk file (← readHelpFile s t args.name file).page?)
  if args.commands.isEmpty then pure fromFiles
  else
    let (_, c) ← openProject s t path
    pure (fromFiles ++ args.commands.map fun command => ⟨command, (captureHelp s c command).page?⟩)

def classifyExample {m : Type → Type} (s : Surroundings m) (t : Tree) (args : ClassifyArguments) :
    Except Failure Example.Segmented := do
  let text ← if args.input = ['-'] then
      match Utf8.decode? s.input with
      | some text => pure text
      | none => .error .exampleInput
    else match t.text? (s.place args.input) with
      | some text => pure text
      | none => .error (.example args.input)
  pure (Example.classify (if args.strict then Example.strictChain else Example.defaultChain) text)

end ModuleDocs.Command
