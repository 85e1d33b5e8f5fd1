import ModuleDocs.Text.Basic

namespace ModuleDocs.Help
open Text

/-- The text without its first `n` bytes; none where the cut would fall inside a character. -/
def dropBytes : Nat → Text → Option Text
  | 0, s => some s
  | _, [] => none
  | n, c :: rest => if c.utf8Size ≤ n then dropBytes (n - c.utf8Size) rest else none

def indentWidth (line : Text) : Nat := byteLength (line.takeWhile isWhite)

def commonIndent (ls : List Text) : Nat :=
  (((ls.filter (fun l => !isBlank l)).map indentWidth).min?).getD 0

def cutIndent (width : Nat) (line : Text) : Text :=
  if isBlank line then [] else trimEnd ((dropBytes width line).getD (trimStart line))

/-- Removes the indentation common to all lines that are not blank, white space at the ends of
lines, and blank lines at both ends. A line on which the cut falls inside a character loses all its
indentation. -/
def dedentLines (ls : List Text) : Text :=
  joinTrimmed (ls.map (cutIndent (commonIndent ls)))

def dedent (s : Text) : Text := dedentLines s.lines

/-- Drops every blank line that follows another one; `gap` says that the line before was blank. -/
def collapse (gap : Bool) : List Text → List Text
  | [] => []
  | l :: rest =>
    if l.isEmpty then if gap then collapse true rest else l :: collapse true rest
    else l :: collapse false rest

/-- The lines trimmed, with single blank lines between paragraphs and none at the ends. -/
def paragraphOf (ls : List Text) : Text :=
  unlines (dropEndWhile List.isEmpty (collapse true (ls.map trim)))

def paragraph (s : Text) : Text := paragraphOf s.lines

end ModuleDocs.Help
