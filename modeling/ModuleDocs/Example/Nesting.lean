import ModuleDocs.Example.Line

/-! Nesting of code read line by line. A scan of one line yields the brackets that count, those
outside quoted text and comments, and the region in which the line ends; the nesting of several lines adds up
their brackets. -/
namespace ModuleDocs.Example
open Text

inductive Quote where
  | single
  | double
  deriving DecidableEq, Repr

def Quote.char : Quote → Char
  | .single => '\''
  | .double => '"'

inductive Region where
  | code
  | quoted (quote : Quote)
  | hereString (quote : Quote)
  | comment
  deriving DecidableEq, Repr

inductive Bracket where
  | openBrace
  | closeBrace
  | openParen
  | closeParen
  deriving DecidableEq, Repr

/-- The brackets that count in a line read from a region on, and the region at its end. A backtick
takes the next character with it, a hash outside quotes ends the code of the line, and a quote
after an at sign opens a here-string only at the end of the line. -/
def scan : Region → Text → List Bracket × Region
  | .comment, '#' :: '>' :: rest => scan .code rest
  | .comment, _ :: rest => scan .comment rest
  | .quoted .single, '\'' :: rest => scan .code rest
  | .quoted .single, _ :: rest => scan (.quoted .single) rest
  | .quoted .double, '\x60' :: _ :: rest => scan (.quoted .double) rest
  | .quoted .double, '"' :: rest => scan .code rest
  | .quoted .double, _ :: rest => scan (.quoted .double) rest
  | .code, '\x60' :: _ :: rest => scan .code rest
  | .code, '<' :: '#' :: rest => scan .comment rest
  | .code, '#' :: _ => ([], .code)
  | .code, ['@', '"'] => ([], .hereString .double)
  | .code, ['@', '\''] => ([], .hereString .single)
  | .code, '\'' :: rest => scan (.quoted .single) rest
  | .code, '"' :: rest => scan (.quoted .double) rest
  | .code, '\x7b' :: rest => let (bs, r) := scan .code rest; (.openBrace :: bs, r)
  | .code, '\x7d' :: rest => let (bs, r) := scan .code rest; (.closeBrace :: bs, r)
  | .code, '(' :: rest => let (bs, r) := scan .code rest; (.openParen :: bs, r)
  | .code, ')' :: rest => let (bs, r) := scan .code rest; (.closeParen :: bs, r)
  | .code, _ :: rest => scan .code rest
  | region, _ => ([], region)

/-- Open braces, open parentheses, and the region in which the lines read so far end. -/
structure Nesting where
  braces : Int
  parens : Int
  region : Region
  deriving DecidableEq, Repr

namespace Nesting

def start : Nesting := ⟨0, 0, .code⟩

def count (n : Nesting) : Bracket → Nesting
  | .openBrace => { n with braces := n.braces + 1 }
  | .closeBrace => { n with braces := n.braces - 1 }
  | .openParen => { n with parens := n.parens + 1 }
  | .closeParen => { n with parens := n.parens - 1 }

/-- The line ends a here-string: its quote and an at sign come first after any indentation. -/
def closesHereString (quote : Quote) (line : Text) : Bool :=
  (trimStart line).startsWith [quote.char, '@']

/-- Reads one line. Inside a here-string only its terminator is looked for, and the rest of that
line is passed over. -/
def feed (n : Nesting) (line : Text) : Nesting :=
  match n.region with
  | .hereString quote => if closesHereString quote line then { n with region := .code } else n
  | region =>
    let (brackets, last) := scan region (trimEnd line)
    { brackets.foldl count n with region := last }

/-- Reads one line of an example, where a sentence between statements carries no code. -/
def feedExample (n : Nesting) (line : Text) : Nesting :=
  if n.region = .code ∧ looksLikeProse line then n else n.feed line

def ofLines (ls : List Text) : Nesting := ls.foldl feed start

def ofExample (ls : List Text) : Nesting := ls.foldl feedExample start

/-- As many brackets closed as opened, and no text or comment open. -/
def isBalanced (n : Nesting) : Bool := n == start

end Nesting
end ModuleDocs.Example
