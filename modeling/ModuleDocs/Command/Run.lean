import ModuleDocs.Command.Configuring
import ModuleDocs.Command.Planning
import ModuleDocs.Command.Reading
import ModuleDocs.Selection.Record

namespace ModuleDocs.Command

inductive Ending where
  | finished
  | failed (f : Failure)
  | misused (e : UsageError)
  deriving DecidableEq, Repr

def Ending.status : Ending → Nat
  | finished => 0
  | failed _ => 1
  | misused .displayHelp => 0
  | misused (.displayVersion _) => 0
  | misused _ => 2

structure Outcome where
  printed : Text := []
  tree : Tree
  ending : Ending := .finished

def Outcome.ofReport {α : Type} (t : Tree) (print : α → Text) : Except Failure α → Outcome
  | .ok a => { printed := print a, tree := t }
  | .error e => { tree := t, ending := .failed e }

def render {α : Type} (format : Format) (lines : α → List Text) (json : α → Json) (a : α) : Text :=
  page <| match format with
    | .text => lines a
    | .json => [Json.pretty 0 (json a)]

section
variable {m : Type → Type} [Monad m]

def configOutcome (s : Surroundings m) (t : Tree) (a : Arguments) (args : ConfigArguments) : Outcome :=
  match openProject s t a.path with
  | .error e => { tree := t, ending := .failed e }
  | .ok (root, c) =>
    let (result, p) := Id.run ((configure root c a.format args).run { tree := t })
    { printed := p.printed, tree := p.tree
      ending := match result with
        | .ok _ => .finished
        | .error e => .failed e }

def perform (s : Surroundings m) (t : Tree) (a : Arguments) : m Outcome :=
  match a.task with
  | .plan args => do
    pure (.ofReport t (render a.format (planLines args.content) Selection.Result.toJson)
      (← planDocuments s t a.path args))
  | .help args =>
    pure (.ofReport t (render a.format (List.flatMap (HelpReport.lines args.examples))
      (fun rs => .arr (rs.map HelpReport.toJson))) (helpReports s t a.path args))
  | .classify args =>
    pure (.ofReport t (render a.format segmentedLines Example.Segmented.toJson) (classifyExample s t args))
  | .config args => pure (configOutcome s t a args)

def versionText : UsageError → Text
  | .displayVersion title => page [title ++ " 0.1.0".toList]
  | _ => []

def run (s : Surroundings m) (t : Tree) (args : List Text) : m Outcome :=
  match Arguments.parse args with
  | .ok a => perform s t a
  | .error e => pure { printed := versionText e, tree := t, ending := .misused e }

end

end ModuleDocs.Command
