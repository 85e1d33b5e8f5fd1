import ModuleDocs.Markdown.Container
import ModuleDocs.Markdown.Tag

namespace ModuleDocs.Markdown

def signs? (s : Text) : Option (Nat × Text) :=
  let level := (s.takeWhile (· == '#')).length
  let rest := s.drop level
  if 1 ≤ level ∧ level ≤ 6 ∧ (rest.head?.map isGap).getD true then some (level, rest) else none

def underline? (s : Text) : Option (Nat × Text) :=
  match s with
  | [] => none
  | c :: rest =>
    if c = '=' ∨ c = '-' then
      (blankLine? (rest.dropWhile (· == c))).map fun after => (if c = '=' then 1 else 2, after)
    else none

/-- The mark and the length of a fence. Behind backticks no further one stands up to the newline. -/
def fence? (s : Text) : Option (Char × Nat) :=
  match s with
  | [] => none
  | c :: _ =>
    let count := (s.takeWhile (· == c)).length
    let bare := (takeToNewline (s.drop count)).1.all (· != '\x60')
    if 3 ≤ count ∧ (c = '~' ∨ (c = '\x60' ∧ bare)) then some (c, count) else none

def blockTags : List Text :=
  ["address", "article", "aside", "base", "basefont", "blockquote", "body", "caption", "center",
   "col", "colgroup", "dd", "details", "dialog", "dir", "div", "dl", "dt", "fieldset", "figcaption",
   "figure", "footer", "form", "frame", "frameset", "h1", "h2", "h3", "h4", "h5", "h6", "head",
   "header", "hr", "html", "iframe", "legend", "li", "link", "main", "menu", "menuitem", "nav",
   "noframes", "ol", "optgroup", "option", "p", "param", "search", "section", "summary", "table",
   "tbody", "td", "tfoot", "th", "thead", "title", "tr", "track", "ul"].map String.toList

def verbatimTags : List Text := ["pre", "script", "style", "textarea"].map String.toList

inductive HtmlEnd where
  | text (t : Text)
  | blankLine
  deriving DecidableEq, Repr

/-- The end of raw HTML in which anything may stand, read after the angle bracket of its start. A
verbatim tag ends at its own closing tag in lower case. -/
def verbatimEnd? (s : Text) : Option HtmlEnd :=
  match s with
  | '?' :: _ => some (.text "?>")
  | '!' :: rest =>
    if Text.startsWith rest "--" then some (.text "-->")
    else if Text.startsWith rest "[CDATA[" then some (.text "]]>")
    else if hasDeclarationName rest then some (.text ['>']) else none
  | _ =>
    (verbatimTags.find? fun name =>
      Text.sameName (s.take name.length) name &&
        ((s.drop name.length).head?.map fun c => isGap c || c == '>').getD true).map fun name =>
      .text ('<' :: '/' :: name ++ ['>'])

def startsBlockTag (s : Text) : Bool :=
  let inner := (Text.stripPrefix? s ['/']).getD s
  let name := inner.takeWhile Char.isAlphanum
  let behind := inner.drop name.length
  blockTags.any (· == Text.lowerAscii name) &&
    ((behind.head?.map fun c => c == ' ' || c == '\t' || endsLine c || c == '>').getD true ||
      Text.startsWith behind "/>")

def htmlEnd? (s : Text) : Option HtmlEnd :=
  match s with
  | '<' :: inner =>
    (verbatimEnd? inner).orElse fun _ => if startsBlockTag inner then some .blankLine else none
  | _ => none

def isTagLine (s : Text) : Bool :=
  match s with
  | '<' :: inner =>
    ((openTag? (fun _ => none) inner).orElse fun _ => closeTag? inner).any fun rest =>
      (blankLine? rest).isSome
  | _ => false

/-- A list item begins here. Where the line is within all containers of a paragraph, only an item
with content that can be the first of its list counts. -/
def startsItem (within : Bool) (s : Text) : Bool :=
  match marker? s with
  | some (width, first) =>
    let behind := s.drop width
    (behind.head?.map fun c => c == ' ' || c == '\t' || endsLine c).getD true &&
      (!within || (first && (blankLine? behind).isNone))
  | none => false

def interrupts (within : Bool) (s : Text) : Bool :=
  (lineEnd? s).isSome || isRule s || (signs? s).isSome || (fence? s).isSome ||
    Text.startsWith s ['>'] || startsItem within s || (htmlEnd? s).isSome

end ModuleDocs.Markdown
