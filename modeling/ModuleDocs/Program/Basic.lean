import ModuleDocs.Remote.Client
import ModuleDocs.Text.Utf8

/-! Help dumps from an external program. The program is given the name of a command, and what it
prints is the dump. A program that cannot be started, fails, takes too long or prints nothing
visible gives none. -/
namespace ModuleDocs.Program

structure Run where
  output : Bytes
  succeeds : Bool
  elapsed : Nat := 0
  deriving DecidableEq, Repr

abbrev Programs := (name : Text) → (args : List Text) → Option Run

def replaceAll (part by_ : Text) : Nat → Text → Text
  | 0, s => s
  | fuel + 1, s =>
    match Text.cut part s with
    | some (before, after) => before ++ by_ ++ replaceAll part by_ fuel after
    | none => s

structure Provider where
  program : Text
  /-- The word `command` in braces stands for the name of the command. -/
  args : List Text
  bound : Remote.Duration

namespace Provider

def argsFor (p : Provider) (command : Text) : List Text :=
  p.args.map fun a => replaceAll "\x7bcommand\x7d".toList command (a.length + 1) a

def dump? (p : Provider) (programs : Programs) (command : Text) : Option Text := do
  let run ← programs p.program (p.argsFor command)
  guard (run.succeeds && run.elapsed < p.bound.millis)
  let text := Utf8.decodeLossy run.output
  if Text.isBlank text then none else some text

end Provider
end ModuleDocs.Program
