import ModuleDocs.Text.Letter
import ModuleDocs.Text.Basic

namespace ModuleDocs.Example
open Text

def blockKeywords : List Text :=
  ["begin", "catch", "class", "do", "else", "elseif", "end", "enum", "filter", "finally", "for",
   "foreach", "function", "if", "param", "process", "return", "switch", "throw", "trap", "try",
   "until", "while", "workflow"]

def isDrivePath : Text → Bool
  | drive :: ':' :: '\\' :: _ => drive.isAlpha
  | _ => false

def isPrompt (line : Text) : Bool :=
  let t := trimStart line
  t.startsWith "PS>" || t.startsWith "PS " || isDrivePath t

def isComment (line : Text) : Bool :=
  let t := trimStart line
  t.startsWith "#" || t.startsWith "<#" || t.startsWith "//"

def startsWithVariable (line : Text) : Bool :=
  let t := trimStart line
  t.startsWith "$" || t.startsWith "@\x7b" || t.startsWith "@("

/-- A parameter name such as `-Path` or `-Force:$true` leads the line. The mode column of a
directory listing also begins with a dash and is not one. -/
def startsWithFlag (line : Text) : Bool :=
  match firstWord line with
  | '-' :: token =>
    match token.takeWhile (· != ':') with
    | [] => false
    | c :: name => c.isAlpha && name.all (fun d => d.isAlphanum || d == '_')
  | _ => false

def isTargetChar (c : Char) : Bool :=
  isAlphanumeric c || ['$', '_', '.', '[', ']', ':', '"', '\''].contains c

/-- A name, an operator ending in a single equals sign, and a value. -/
def isAssignment (line : Text) : Bool :=
  match splitFirst (· == '=') (trim line) with
  | none => false
  | some (before, after) =>
    let target := trimEnd (dropEndWhile (['+', '-', '*', '/', '%'].contains ·) (trimEnd before))
    !after.startsWith "=" && !target.isEmpty && target.all isTargetChar

/-- A block keyword that stands alone, or before a parenthesis, a brace or white space. -/
def startsWithKeyword (line : Text) : Bool :=
  let t := trimStart line
  blockKeywords.contains (t.takeWhile Char.isAlpha) &&
    match t.dropWhile Char.isAlpha with
    | [] => true
    | c :: _ => c == '(' || c == '\x7b' || isWhite c

def startsWithCommand (line : Text) : Bool :=
  match splitFirst (· == '-') (firstWord line) with
  | some (v :: verb, n :: noun) =>
    v.isUpper && verb.all Char.isAlpha && n.isUpper &&
      noun.all (fun c => c.isAlphanum || c == '-' || c == '.' || c == '_')
  | _ => false

def isClosing (line : Text) : Bool :=
  let t := trimStart line
  t.startsWith "\x7d" || t.startsWith ")" || t.startsWith "\"@" || t.startsWith "'@" ||
    t.startsWith "#>"

def isConstruct (line : Text) : Bool :=
  let t := trim line
  t.startsWith "|" || t.startsWith "\x7b" || t.startsWith "(" || t.startsWith "&" ||
    t.startsWith ".\\" || t.startsWith "./" ||
    t.endsWith "\x7b" || t.endsWith "\x60" || t.endsWith "|"

def looksLikeCode (line : Text) : Bool :=
  startsWithVariable line || startsWithFlag line || isAssignment line || startsWithKeyword line ||
    isComment line || isClosing line || startsWithCommand line

/-- The line carries any mark of code. -/
def isCodeMarker (line : Text) : Bool :=
  isPrompt line || isComment line || looksLikeCode line || isConstruct line

/-- The line reads like a sentence: no mark of code, a letter first, and at least three words. -/
def looksLikeProse (line : Text) : Bool :=
  !isCodeMarker line &&
    match trim line with
    | [] => false
    | c :: rest => isAlphabetic c && 3 ≤ (words (c :: rest)).length

end ModuleDocs.Example
