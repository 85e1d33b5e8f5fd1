import ModuleDocs.Program.Basic
import ModuleDocs.Text.Digits

namespace ModuleDocs.Program

structure Piece where
  bytes : Bytes
  stop : Bool := false

def ofChar (c : Char) : Piece := ⟨Utf8.encodeChar c, false⟩

def isOctal (c : Char) : Bool := '0' ≤ c && c ≤ '7'

def simpleEscape? : Char → Option Char
  | 'a' => some '\x07'
  | 'b' => some '\x08'
  | 'e' => some '\x1b'
  | 'f' => some '\x0c'
  | 'n' => some '\n'
  | 'r' => some '\r'
  | 't' => some '\t'
  | 'v' => some '\x0b'
  | '\\' => some '\\'
  | '"' => some '"'
  | _ => none

def escape (zeroFirst : Bool) : Text → Piece × Text
  | [] => (ofChar '\\', [])
  | 'c' :: rest => (⟨[], true⟩, rest)
  | 'x' :: rest =>
    let ds := (rest.takeWhile Text.isHexDigit).take 2
    if ds.isEmpty then (⟨['\\', 'x'].flatMap Utf8.encodeChar, false⟩, rest)
    else (⟨[UInt8.ofNat (Text.numberIn 16 ds)], false⟩, rest.drop ds.length)
  | c :: rest =>
    match simpleEscape? c with
    | some d => (ofChar d, rest)
    | none =>
      let digits := if zeroFirst then (if c = '0' then rest else []) else c :: rest
      let ds := (digits.takeWhile isOctal).take 3
      if zeroFirst && c == '0' then (⟨[UInt8.ofNat (Text.numberIn 8 ds)], false⟩, rest.drop ds.length)
      else if ds.isEmpty then (⟨['\\', c].flatMap Utf8.encodeChar, false⟩, rest)
      else (⟨[UInt8.ofNat (Text.numberIn 8 ds)], false⟩, (c :: rest).drop ds.length)

def resolve (zeroFirst : Bool) : Nat → Text → Piece
  | 0, _ => ⟨[], false⟩
  | _, [] => ⟨[], false⟩
  | fuel + 1, '\\' :: rest =>
    let (p, after) := escape zeroFirst rest
    if p.stop then p
    else
      let next := resolve zeroFirst fuel after
      ⟨p.bytes ++ next.bytes, next.stop⟩
  | fuel + 1, c :: rest =>
    let next := resolve zeroFirst fuel rest
    ⟨Utf8.encodeChar c ++ next.bytes, next.stop⟩

def spaced (args : List Text) : Text := List.intercalate [' '] args

def isEchoOption (a : Text) : Bool :=
  match a with
  | '-' :: letters => !letters.isEmpty && letters.all fun c => c == 'n' || c == 'e' || c == 'E'
  | _ => false

/-- The arguments with a space between two of them, and a newline. The options leave the newline
out or ask for escapes; `escapes` says whether these are resolved unasked. -/
def echo (escapes : Bool) (args : List Text) : Run :=
  let options := (args.takeWhile isEchoOption).flatten.filter (· != '-')
  let text := spaced (args.dropWhile isEchoOption)
  let asked := ((options.filter (· != 'n')).getLast?.map (· == 'e')).getD escapes
  let p := if asked then resolve true (text.length + 1) text else ⟨Utf8.encode text, false⟩
  ⟨p.bytes ++ (if p.stop || options.any (· == 'n') then [] else [10]), true, 0⟩

/-- A directive of `printf`: fill with zeros, on which side, to which width, at most how much. -/
structure Layout where
  left : Bool
  zeros : Bool
  width : Nat
  most : Option Nat

def Layout.fill (l : Layout) (s : Text) : Text :=
  let room := List.replicate (l.width - s.length) (if l.zeros && !l.left then '0' else ' ')
  if l.left then s ++ room else room ++ s

def layout (s : Text) : Layout × Text :=
  let flags := s.takeWhile fun c => c == '-' || c == '0' || c == '+' || c == ' ' || c == '#'
  let s := s.drop flags.length
  let width := s.takeWhile Char.isDigit
  let s := s.drop width.length
  let (most, s) := match s with
    | '.' :: rest => (some (Text.numberIn 10 (rest.takeWhile Char.isDigit)), rest.dropWhile Char.isDigit)
    | _ => (none, s)
  (⟨flags.any (· == '-'), flags.any (· == '0'), Text.numberIn 10 width, most⟩, s)

def integer? (s : Text) : Option Int :=
  match s with
  | [] => some 0
  | '-' :: ds => if !ds.isEmpty && ds.all Char.isDigit then some (-(Text.numberIn 10 ds : Int)) else none
  | '+' :: ds => if !ds.isEmpty && ds.all Char.isDigit then some (Text.numberIn 10 ds) else none
  | ds => if ds.all Char.isDigit then some (Text.numberIn 10 ds) else none

def directive? (l : Layout) (letter : Char) (arg : Text) : Option Piece :=
  let text := fun s : Text => some (⟨Utf8.encode (l.fill s), false⟩ : Piece)
  match letter with
  | 's' => text ((l.most.map fun n => arg.take n).getD arg)
  | 'b' => some (resolve true (arg.length + 1) arg)
  | 'c' => text (arg.take 1)
  | 'd' => (integer? arg).bind fun n => text (if n < 0 then '-' :: Text.ofNat n.natAbs else Text.ofNat n.natAbs)
  | 'i' => (integer? arg).bind fun n => text (if n < 0 then '-' :: Text.ofNat n.natAbs else Text.ofNat n.natAbs)
  | 'u' => (integer? arg).bind fun n => text (Text.ofNat n.toNat)
  | 'x' => (integer? arg).bind fun n => text (Nat.toDigits 16 n.toNat)
  | 'X' => (integer? arg).bind fun n => text ((Nat.toDigits 16 n.toNat).map Char.toUpper)
  | 'o' => (integer? arg).bind fun n => text (Nat.toDigits 8 n.toNat)
  | _ => none

structure Pass where
  bytes : Bytes := []
  stop : Bool := false
  valid : Bool := true
  args : List Text

def formatOnce : Nat → Text → List Text → Pass
  | 0, _, args => { args }
  | _, [], args => { args }
  | fuel + 1, '%' :: '%' :: rest, args =>
    let next := formatOnce fuel rest args
    { next with bytes := 37 :: next.bytes }
  | fuel + 1, '%' :: rest, args =>
    let (l, rest) := layout rest
    match rest with
    | [] => { valid := false, args }
    | letter :: rest =>
      match directive? l letter (args.headD []) with
      | none => { valid := false, args := args.drop 1 }
      | some p =>
        if p.stop then { bytes := p.bytes, stop := true, args := [] }
        else
          let next := formatOnce fuel rest (args.drop 1)
          { next with bytes := p.bytes ++ next.bytes }
  | fuel + 1, '\\' :: rest, args =>
    let (p, after) := escape false rest
    if p.stop then { bytes := p.bytes, stop := true, args := [] }
    else
      let next := formatOnce fuel after args
      { next with bytes := p.bytes ++ next.bytes }
  | fuel + 1, c :: rest, args =>
    let next := formatOnce fuel rest args
    { next with bytes := Utf8.encodeChar c ++ next.bytes }

def formatAll : Nat → Text → List Text → Bytes × Bool
  | 0, _, _ => ([], true)
  | fuel + 1, format, args =>
    let p := formatOnce (format.length + 1) format args
    if !p.valid || p.stop || p.args.isEmpty || p.args.length == args.length then (p.bytes, p.valid)
    else
      let (bytes, valid) := formatAll fuel format p.args
      (p.bytes ++ bytes, valid)

def printf : List Text → Run
  | [] => ⟨[], false, 0⟩
  | format :: args =>
    let (bytes, valid) := formatAll (args.length + 1) format args
    ⟨bytes, valid, 0⟩

end ModuleDocs.Program
