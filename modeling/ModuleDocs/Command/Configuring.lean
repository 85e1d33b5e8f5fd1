import ModuleDocs.Command.Arguments
import ModuleDocs.Command.Project
import ModuleDocs.Command.Report
import ModuleDocs.Json.Print

namespace ModuleDocs.Command

structure Progress where
  printed : Text := []
  tree : Tree

/-- A step of a run that prints and writes. A failing step keeps what was done before it. -/
abbrev Step := ExceptT Failure (StateM Progress)

def say (ls : List Text) : Step Unit :=
  modify fun p => { p with printed := p.printed ++ page ls }

def saveConfig (root : Text) (c : Config) : Step Unit := do
  match c.save (← get).tree root with
  | .ok tree => modify fun p => { p with tree }
  | .error e => throw (.config e)

def assign (root : Text) (c : Config) (assignment : Text) : Step Config := do
  match Text.splitFirst (· == '=') assignment with
  | none => throw (.noAssignment assignment)
  | some (key, value) =>
    match c.set (Text.trim key) value with
    | .error e => throw (.setting e)
    | .ok c => do
      saveConfig root c
      say ["✓ Set ".toList ++ Text.trim key]
      pure c

def resetConfig (root : Text) : Step Config := do
  saveConfig root {}
  say ["✓ Configuration reset to defaults"]
  pure {}

def showValue (c : Config) (key : Text) : Step Unit :=
  match c.get? key with
  | some value => say [value]
  | none => throw (.setting (.unknownKey key))

def showConfig (root : Text) (c : Config) : Format → Step Unit
  | .json => say [Json.pretty 0 c.toJson]
  | .text => say (configLines root c)

/-- Sets, resets and shows, in this order. Where nothing is asked for, everything is shown. -/
def configure (root : Text) (c : Config) (format : Format) (args : ConfigArguments) : Step Unit := do
  let c ← match args.assignment with
    | some assignment => assign root c assignment
    | none => pure c
  let c ← if args.reset then resetConfig root else pure c
  match args.key with
  | some key => showValue c key
  | none => pure ()
  if args.shown || (!args.reset && args.assignment.isNone && args.key.isNone) then
    showConfig root c format

end ModuleDocs.Command
