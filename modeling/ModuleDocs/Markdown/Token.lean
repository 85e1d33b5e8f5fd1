import ModuleDocs.Markdown.Block
import ModuleDocs.Text.Punctuation

namespace ModuleDocs.Markdown

inductive TokenKind where
  | text
  | reference (s : Text)
  | lineBreak (escaped : Bool)
  | ticks (count : Nat) (escaped : Bool)
  | run (mark : Char) (count : Nat) (opens closes : Bool)
  | angle
  | opening (image : Bool)
  /-- A closing bracket, which is not viable if it ends the label of a link that failed. -/
  | closing (viable : Bool)
  deriving DecidableEq, Repr

def TokenKind.isMark : TokenKind → Bool
  | .text | .reference _ | .lineBreak _ => false
  | _ => true

structure Token where
  kind : TokenKind
  start : Nat
  stop : Nat
  tail : Text

namespace Token

def written (t : Token) : Text := t.tail.take (t.stop - t.start)

def behind (t : Token) : Text := t.tail.drop (t.stop - t.start)

def startingAt (place : Nat) (t : Token) : Token :=
  if place ≤ t.start then t else { t with start := place, tail := t.tail.drop (place - t.start) }

end Token

structure Place where
  offset : Nat
  before : Char
  rest : Text

namespace Place

def advance (n : Nat) (p : Place) : Place :=
  ⟨p.offset + n, (p.rest.take n).getLast?.getD p.before, p.rest.drop n⟩

def token (kind : TokenKind) (length : Nat) (p : Place) : Token :=
  ⟨kind, p.offset, p.offset + length, p.rest⟩

def textTo (p : Place) (stop : Nat) : List Token :=
  if p.offset < stop then [⟨.text, p.offset, stop, p.rest⟩] else []

def runLength (c : Char) (p : Place) : Nat := (p.rest.takeWhile (· == c)).length

def content (ks : List Container) (p : Place) : Place :=
  let c := (Container.continueAll (.ofLine p.rest) ks).2.1.skipIndent
  ⟨p.offset + c.passed, c.before, c.rest⟩

/-- A run of marks that may open emphasis, or close it. An underscore within a word does neither. -/
def emphasis (mark : Char) (p : Place) : TokenKind :=
  let count := p.runLength mark
  let next := (p.rest.drop count).head?.getD '\n'
  let blankBefore := isWhite p.before
  let blankNext := isWhite next
  let markBefore := isPunctuation p.before
  let markNext := isPunctuation next
  let left := !blankNext && (!markNext || blankBefore || markBefore)
  let right := !blankBefore && (!markBefore || blankNext || markNext)
  if mark = '_' then .run mark count (left && (!right || markBefore)) (right && (!left || markNext))
  else .run mark count left right

end Place

def lineEndLength : Text → Nat
  | '\r' :: '\n' :: _ => 2
  | _ => 1

def isSpecial (c : Char) : Bool := endsLine c || "\\\x60*_<![]&".toList.any (· == c)

/-- The tokens from a place on up to the end of a line at `stop`, where the text behind `begun` is
not yet part of any. Blanks at the end of a line are no part of its text. The fuel bounds the length. -/
def tokensFrom (ks : List Container) (stop : Nat) : Nat → Place → Place → List Token
  | 0, _, _ => []
  | fuel + 1, begun, p =>
    let next := fun n => tokensFrom ks stop fuel (p.advance n) (p.advance n)
    let emit := fun kind n => begun.textTo p.offset ++ p.token kind n :: next n
    let skip := fun n => tokensFrom ks stop fuel begun (p.advance n)
    match p.rest with
    | [] => begun.textTo p.offset
    | c :: rest =>
      if !isSpecial c then skip (p.rest.takeWhile fun d => !isSpecial d).length
      else if endsLine c then
        let text := dropEndWhile isInnerBlank (begun.rest.take (p.offset - begun.offset))
        let ended := begun.advance text.length
        let line := p.advance (lineEndLength p.rest)
        if stop ≤ line.offset then begun.textTo ended.offset
        else
          let first := line.content ks
          begun.textTo ended.offset ++
            ended.token (.lineBreak false) (line.offset - ended.offset) ::
              tokensFrom ks stop fuel first first
      else if c = '\\' then
        match rest with
        | [] => skip 1
        | d :: _ =>
          if isAsciiPunctuation d then
            let escaped := p.advance 1
            if d = '\x60' then
              let count := escaped.runLength d
              let behind := escaped.advance count
              begun.textTo p.offset ++
                escaped.token (.ticks count true) count :: tokensFrom ks stop fuel behind behind
            else begun.textTo p.offset ++ tokensFrom ks stop fuel escaped (p.advance 2)
          else if endsLine d then
            let width := lineEndLength rest + 1
            let line := p.advance width
            if stop ≤ line.offset then skip 1
            else
              let first := line.content ks
              begun.textTo p.offset ++
                p.token (.lineBreak true) width :: tokensFrom ks stop fuel first first
          else skip 1
      else if c = '\x60' then
        let count := p.runLength c
        emit (.ticks count false) count
      else if c = '*' ∨ c = '_' then
        match p.emphasis c with
        | .run mark count opens closes =>
          if opens || closes then emit (.run mark count opens closes) count else skip count
        | _ => skip 1
      else if c = '<' then if rest.head? = some '\\' then skip 1 else emit .angle 1
      else if c = '!' then if rest.head? = some '[' then emit (.opening true) 2 else skip 1
      else if c = '[' then emit (.opening false) 1
      else if c = ']' then emit (.closing true) 1
      else match reference? rest with
        | some (s, after) => emit (.reference s) (p.rest.length - after.length)
        | none => skip 1

/-- Where the text of a heading with number signs ends. A closing run of signs is no part of it if
spaces stand before the run, or nothing does. -/
def contentEnd (s : Text) : Nat :=
  let body := dropEndWhile (fun c => c == ' ' || endsLine c) s
  let inner := dropEndWhile (· == '#') body
  let kept := dropEndWhile (· == ' ') inner
  if inner.isEmpty then 0
  else if kept.length < inner.length then kept.length
  else body.length

def endAt (stop : Nat) : List Token → List Token
  | [] => []
  | [t] => [{ t with stop }]
  | t :: ts => t :: endAt stop ts

/-- The tokens of a leaf. The last token of a heading with number signs reaches to the end of its
text, whatever stands between. -/
def Leaf.tokens (l : Leaf) : List Token :=
  let start : Place := ⟨0, l.before, l.source⟩
  let ts := tokensFrom l.containers l.text.length (l.text.length + 1) start start
  match l.kind with
  | .signed _ => endAt (contentEnd l.text) ts
  | _ => ts

end ModuleDocs.Markdown
