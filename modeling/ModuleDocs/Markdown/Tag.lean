import ModuleDocs.Markdown.Line

namespace ModuleDocs.Markdown

def after? (part : Text) : Text → Option Text
  | [] => if part.isEmpty then some [] else none
  | c :: rest =>
    match Text.stripPrefix? (c :: rest) part with
    | some found => some found
    | none => after? part rest

def isTagNameChar (c : Char) : Bool := c.isAlphanum || c == '-'

def tagName? : Text → Option (Text × Text)
  | c :: rest =>
    if c.isAlpha then some (c :: rest.takeWhile isTagNameChar, rest.dropWhile isTagNameChar)
    else none
  | [] => none

def attributeName? : Text → Option Text
  | c :: rest =>
    if c.isAlpha || c == '_' || c == ':' then
      some (rest.dropWhile fun d => d.isAlphanum || d == '_' || d == ':' || d == '.' || d == '-')
    else none
  | [] => none

def skipGaps? (further? : Text → Option Text) : Nat → Text → Option Text
  | 0, _ => none
  | fuel + 1, s =>
    let s := s.dropWhile isInnerBlank
    if s.head?.any endsLine then do skipGaps? further? fuel (← further? (← lineEnd? s)) else some s

def quotedValue? (further? : Text → Option Text) (mark : Char) : Nat → Text → Option Text
  | 0, _ => none
  | fuel + 1, s =>
    let s := s.dropWhile fun c => c != mark && !endsLine c
    match s with
    | [] => none
    | c :: rest =>
      if c = mark then some rest
      else do quotedValue? further? mark fuel (← further? (← lineEnd? s))

def isBareValueChar (c : Char) : Bool :=
  !(c == ' ' || endsLine c || c == '"' || c == '\'' || c == '=' || c == '<' || c == '>' || c == '\x60')

def attributeValue? (further? : Text → Option Text) (s : Text) : Option Text :=
  match s with
  | [] => none
  | c :: rest =>
    if c = '"' ∨ c = '\'' then quotedValue? further? c (rest.length + 1) rest
    else if isBareValueChar c then some (rest.dropWhile isBareValueChar)
    else none

def attribute? (further? : Text → Option Text) (s : Text) : Option Text := do
  let rest ← attributeName? s
  match ← skipGaps? further? (rest.length + 1) rest with
  | '=' :: value => attributeValue? further? (← skipGaps? further? (value.length + 1) value)
  | _ => some rest

def attributes? (further? : Text → Option Text) : Nat → Text → Option Text
  | 0, _ => none
  | fuel + 1, s => do
    match ← skipGaps? further? (s.length + 1) s with
    | [] => none
    | c :: rest =>
      if c = '/' ∨ c = '>' then some (c :: rest)
      else if s.head?.any isGap then attributes? further? fuel (← attribute? further? (c :: rest))
      else none

def openTag? (further? : Text → Option Text) (s : Text) : Option Text := do
  let (_, rest) ← tagName? s
  match ← attributes? further? (rest.length + 1) rest with
  | '>' :: rest => some rest
  | '/' :: '>' :: rest => some rest
  | _ => none

def closeTag? : Text → Option Text
  | '/' :: s => do
    let (_, rest) ← tagName? s
    match rest.dropWhile isInnerBlank with
    | '>' :: rest => some rest
    | _ => none
  | _ => none

/-- A section of character data ends at the first run of brackets, if an angle bracket follows. -/
def dataEnd? (s : Text) : Option Text :=
  match (s.dropWhile (· != ']')).dropWhile (· == ']') with
  | '>' :: rest => some rest
  | _ => none

def hasDeclarationName (s : Text) : Bool := s.head?.any Char.isAlpha

def rawHtml? (further? : Text → Option Text) (s : Text) : Option Text :=
  match s with
  | '?' :: rest => after? "?>" rest
  | '!' :: '-' :: '-' :: rest => after? "-->" ('-' :: '-' :: rest)
  | '!' :: rest =>
    match Text.stripPrefix? rest "[CDATA[" with
    | some inner => dataEnd? inner
    | none => if hasDeclarationName rest then after? ['>'] rest else none
  | _ => (openTag? further? s).orElse fun _ => closeTag? s

def isSchemeChar (c : Char) : Bool := c.isAlphanum || c == '+' || c == '.' || c == '-'

def autolink? (s : Text) : Option (Text × Text) :=
  let scheme := s.takeWhile isSchemeChar
  match s.drop scheme.length with
  | ':' :: rest =>
    let address := rest.takeWhile fun c => !(c.toNat ≤ 32 || c == '<' || c == '>')
    match rest.drop address.length with
    | '>' :: after =>
      if 2 ≤ scheme.length ∧ scheme.length ≤ 32 ∧ (scheme.head?.map Char.isAlpha).getD false then
        some (scheme ++ ':' :: address, after)
      else none
    | _ => none
  | _ => none

def isMailboxChar (c : Char) : Bool := c.isAlphanum || ".!#$%&'*+/=?^_-~\x60\x7b|\x7d".toList.contains c

/-- One label of a domain: at most 63 letters, digits and hyphens, with no hyphen at either end. -/
def isDomainLabel (s : Text) : Bool :=
  s.all isTagNameChar && s.length ≤ 63 &&
    match s.head?, s.getLast? with
    | some a, some b => a.isAlphanum && b.isAlphanum
    | _, _ => false

def mailLink? (s : Text) : Option (Text × Text) :=
  let mailbox := s.takeWhile isMailboxChar
  match s.drop mailbox.length with
  | '@' :: rest =>
    let domain := rest.takeWhile fun c => isTagNameChar c || c == '.'
    match rest.drop domain.length with
    | '>' :: after =>
      if mailbox.isEmpty ∨ ¬ (Text.splitOn '.' domain).all isDomainLabel then none
      else some (mailbox ++ '@' :: domain, after)
    | _ => none
  | _ => none

end ModuleDocs.Markdown
