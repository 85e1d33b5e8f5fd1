import ModuleDocs.Text.Letter
import ModuleDocs.Text.Basic

namespace ModuleDocs.Help
open Text

def markerWord : Text := "example"

/-- What follows the marker word on a line that opens an example. No letter may follow the word, so
that longer words are no markers. -/
def exampleMarker? (line : Text) : Option Text :=
  let t := trimStart ((trim line).dropWhile (· == '-'))
  if sameName (t.take markerWord.length) markerWord then
    match t.drop markerWord.length with
    | [] => some []
    | c :: rest => if isAlphabetic c then none else some (c :: rest)
  else none

/-- A marker decorated with leading dashes opens the examples wherever it stands. -/
def isBanner (line : Text) : Bool := (trimStart line).startsWith "-" && (exampleMarker? line).isSome

def numberedTitle (ordinal : Nat) : Text := "Example ".toList ++ Text.ofNat ordinal

def titleOr (ordinal : Nat) (title : Text) : Text :=
  if title.isEmpty then numberedTitle ordinal else title

/-- The title from the text after the marker word: trailing dashes, the ordinal and the separators right
after it are removed. -/
def exampleTitle (after : Text) (ordinal : Nat) : Text :=
  let t := trim (dropEndWhile (· == '-') (trim after))
  titleOr ordinal (trim ((t.dropWhile Char.isDigit).dropWhile ([':', '.', '-'].contains ·)))

/-- The title of an example that came with one: a marker line gives the title in it, any other
title loses its dashes. -/
def cleanTitle (title : Text) (ordinal : Nat) : Text :=
  match exampleMarker? title with
  | some after => exampleTitle after ordinal
  | none => titleOr ordinal (trim (trimBy (· == '-') (trim title)))

end ModuleDocs.Help
