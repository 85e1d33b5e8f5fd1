import ModuleDocs.Example.Nesting

namespace ModuleDocs.Example
open Text

structure Segmented where
  code : Text
  remarks : Text
  mode : Text
  deriving DecidableEq, Repr

inductive Strategy where
  | promptPriority
  | narrativeTail
  | wholeBlock
  deriving DecidableEq, Repr

namespace Strategy

def name : Strategy → Text
  | promptPriority => "prompt-priority"
  | narrativeTail => "narrative-tail"
  | wholeBlock => "whole-block"

def all : List Strategy := [promptPriority, narrativeTail, wholeBlock]

def ofName? (name : Text) : Option Strategy := all.find? (fun s => s.name == name)

end Strategy

/-- Where a prompt stands in the example, the marked lines are the code. -/
def splitByPrompt (ls : List Text) : Option Segmented :=
  if ls.any isPrompt then
    some ⟨joinTrimmed (ls.filter isCodeMarker), joinTrimmed (ls.filter (fun l => !isCodeMarker l)),
      Strategy.promptPriority.name⟩
  else none

def endsStatement (ls : List Text) (boundary : Nat) : Bool :=
  ls[boundary]?.any looksLikeCode && (Nesting.ofExample (ls.take (boundary + 1))).isBalanced

/-- Where the example ends in a sentence, the code goes up to the last line that finishes a
statement with every bracket closed. -/
def splitAtTail (ls : List Text) : Option Segmented := do
  let body := dropEndWhile isBlank ls
  let last ← body.getLast?
  guard (looksLikeProse last)
  let boundary ← (List.range (body.length - 1)).reverse.find? (endsStatement body)
  let remarks := joinTrimmed (body.drop (boundary + 1))
  guard (!remarks.isEmpty)
  pure ⟨joinTrimmed (body.take (boundary + 1)), remarks, Strategy.narrativeTail.name⟩

def wholeBlock (ls : List Text) : Segmented := ⟨joinTrimmed ls, [], Strategy.wholeBlock.name⟩

def Strategy.segment (ls : List Text) : Strategy → Option Segmented
  | promptPriority => splitByPrompt ls
  | narrativeTail => splitAtTail ls
  | .wholeBlock => some (Example.wholeBlock ls)

def defaultChain : List Strategy := [.promptPriority, .wholeBlock]

def strictChain : List Strategy := [.promptPriority, .narrativeTail, .wholeBlock]

def emptyMode : Text := "empty"

/-- Every carriage return just before a newline removed. -/
def dropReturns : Text → Text
  | [] => []
  | '\r' :: '\n' :: rest => '\n' :: dropReturns rest
  | c :: rest => c :: dropReturns rest

/-- Divides an example by the first strategy of the chain that has an answer; an example on which
none has is code as a whole. -/
def classify (chain : List Strategy) (s : Text) : Segmented :=
  if s.isBlank then ⟨[], [], emptyMode⟩
  else
    let ls := (dropReturns s).lines
    (chain.findSome? (Strategy.segment ls)).getD (wholeBlock ls)

end ModuleDocs.Example
