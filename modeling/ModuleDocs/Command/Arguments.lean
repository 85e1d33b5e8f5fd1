import ModuleDocs.Command.Usage
import ModuleDocs.Json.Record
import ModuleDocs.Selection.Record

namespace ModuleDocs.Command
open Document Selection

inductive Format where
  | text
  | json
  deriving DecidableEq, Repr

def Format.name : Format → Text
  | text => "text"
  | json => "json"

def Format.ofName? (s : Text) : Option Format := [text, json].find? fun f => f.name == s

structure PlanArguments where
  mode : Option Mode := none
  remote : Bool := false
  offline : Bool := false
  showDuplicates : Bool := false
  excludeLocal : Bool := false
  included : List Kind := []
  excluded : List Kind := []
  repository : Option Text := none
  branch : Option Text := none
  token : Option Text := none
  introduction : Option Text := none
  content : Bool := false

structure HelpArguments where
  files : List Text := []
  commands : List Text := []
  name : Option Text := none
  examples : Bool := false

structure ClassifyArguments where
  input : Text := ['-']
  strict : Bool := false

structure ConfigArguments where
  shown : Bool := false
  assignment : Option Text := none
  key : Option Text := none
  reset : Bool := false

inductive Task where
  | plan (args : PlanArguments)
  | help (args : HelpArguments)
  | classify (args : ClassifyArguments)
  | config (args : ConfigArguments)

structure Arguments where
  path : Text := ['.']
  verbose : Bool := false
  format : Format := .text
  task : Task

def flag (name : String) (short : Option Char) : OptionSpec :=
  { name := name.toList, short, arity := .flag }

def single (name : String) (short : Option Char) : OptionSpec :=
  { name := name.toList, short, arity := .single }

def isFileName (s : Text) : Bool := !s.isEmpty

def sharedOptions : List OptionSpec :=
  [single "path" (some 'p'), flag "verbose" (some 'v'),
   { single "format" (some 'o') with accepts := fun s => (Format.ofName? s).isSome },
   { name := "help".toList, short := some 'h', arity := .help },
   { name := "version".toList, short := some 'V', arity := .version }]

def kindOption (name : String) : OptionSpec :=
  { name := name.toList, arity := .repeated, accepts := fun s => (Kind.ofName? s).isSome }

def planGrammar : Grammar where
  title := "modoc-plan"
  options := sharedOptions ++
    [{ single "mode" (some 'm') with accepts := fun s => (Mode.ofName? s).isSome },
     flag "remote" (some 'r'), flag "offline" none, flag "show-duplicates" none,
     flag "exclude-local" none, kindOption "include", kindOption "exclude", single "repository" none,
     single "branch" (some 'b'), single "token" none,
     { single "introduction" none with accepts := isFileName }, flag "content" none]

def helpGrammar : Grammar where
  title := "modoc-help"
  options := sharedOptions ++
    [{ name := "command".toList, short := some 'c', arity := .repeated }, single "name" none,
     flag "examples" (some 'e')]
  positional := some { name := "files".toList, repeated := true, accepts := isFileName }

def classifyGrammar : Grammar where
  title := "modoc-classify"
  options := sharedOptions ++ [flag "strict" (some 's')]
  positional := some { name := "input".toList, repeated := false }

def configGrammar : Grammar where
  title := "modoc-config"
  options := sharedOptions ++ [flag "show" none, single "set" none, single "get" none, flag "reset" none]

def topGrammar : Grammar where
  title := "modoc"
  options := sharedOptions
  subcommands := ["plan", "help", "classify", "config"].map String.toList

def planTask (g : Given) : Task :=
  .plan {
    mode := (g.last? "mode").bind Mode.ofName?
    remote := g.has "remote", offline := g.has "offline", showDuplicates := g.has "show-duplicates"
    excludeLocal := g.has "exclude-local"
    included := (g.all "include").filterMap Kind.ofName?
    excluded := (g.all "exclude").filterMap Kind.ofName?
    repository := g.last? "repository", branch := g.last? "branch", token := g.last? "token"
    introduction := g.last? "introduction", content := g.has "content" }

def helpTask (g : Given) : Task :=
  .help { files := g.all "files", commands := g.all "command", name := g.last? "name",
          examples := g.has "examples" }

def classifyTask (g : Given) : Task :=
  .classify { input := (g.last? "input").getD ['-'], strict := g.has "strict" }

def configTask (g : Given) : Task :=
  .config { shown := g.has "show", assignment := g.last? "set", key := g.last? "get",
            reset := g.has "reset" }

def commandOf (name : Text) : Grammar × (Given → Task) :=
  if name = "plan".toList then (planGrammar, planTask)
  else if name = "help".toList then (helpGrammar, helpTask)
  else if name = "classify".toList then (classifyGrammar, classifyTask)
  else (configGrammar, configTask)

def readCommand (grammar : Grammar) (args : List Text) : Except UsageError Given := do
  let (g, _) ← grammar.scan false false {} args
  let g ← grammar.settle g
  if g.has "remote" && g.has "offline" then .error .argumentConflict else pure g

/-- Reads the arguments of the program. A shared option counts before and behind the name of the
command, and behind it counts more. -/
def Arguments.parse (args : List Text) : Except UsageError Arguments := do
  let (top, found) ← topGrammar.scan false false {} args
  match found with
  | none =>
    let top ← topGrammar.settle top
    .error (if top.values.isEmpty then .missingArguments else .missingSubcommand)
  | some (name, rest) =>
    let (grammar, task) := commandOf name
    let g ← readCommand grammar rest
    let top ← topGrammar.settle top
    let shared := fun option => (g.last? option).orElse fun _ => top.last? option
    pure {
      path := (shared "path".toList).getD ['.']
      verbose := g.has "verbose" || top.has "verbose"
      format := ((shared "format".toList).bind Format.ofName?).getD .text
      task := task g }

end ModuleDocs.Command
