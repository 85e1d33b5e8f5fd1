import ModuleDocs.Program.Print

namespace ModuleDocs.Program

def millis? (s : Text) : Option Nat :=
  let (unit, body) := match s.getLast? with
    | some 's' => (1000, s.dropLast)
    | some 'm' => (60000, s.dropLast)
    | some 'h' => (3600000, s.dropLast)
    | some 'd' => (86400000, s.dropLast)
    | _ => (1000, s)
  let (whole, fraction) := (Text.splitFirst (· == '.') body).getD (body, [])
  if (whole ++ fraction).isEmpty || !(whole ++ fraction).all Char.isDigit then none
  else some (Text.numberIn 10 (whole ++ fraction) * unit / Nat.pow 10 fraction.length)

def sleep (args : List Text) : Run :=
  match args.mapM millis? with
  | some (n :: ns) => ⟨[], true, (n :: ns).foldl (· + ·) 0⟩
  | _ => ⟨[], false, 0⟩

def cat (files : Text → Option Bytes) (input : Bytes) (args : List Text) : Run :=
  if args.isEmpty then ⟨input, true, 0⟩
  else
    let parts := args.map fun a => if a = ['-'] then some input else files a
    ⟨(parts.filterMap id).flatten, parts.all Option.isSome, 0⟩

namespace Shell

inductive Joint where
  | always
  | ifSuccess
  | ifFailure
  | pipe
  deriving DecidableEq, Repr

inductive Token where
  | word (s : Text)
  | joint (j : Joint)
  | discard
  | messages
  deriving DecidableEq, Repr

structure Lexing where
  tokens : List Token := []
  current : Option Text := none

namespace Lexing

def push (l : Lexing) (s : Text) : Lexing := { l with current := some (l.current.getD [] ++ s) }

def finish (l : Lexing) : Lexing :=
  match l.current with
  | some w => ⟨l.tokens ++ [.word w], none⟩
  | none => l

def add (l : Lexing) (t : Token) : Lexing := { l.finish with tokens := l.finish.tokens ++ [t] }

end Lexing

def parameter? (args : List Text) : Text → Option (Text × Text)
  | '@' :: rest => some (spaced (args.drop 1), rest)
  | '*' :: rest => some (spaced (args.drop 1), rest)
  | '#' :: rest => some (Text.ofNat (args.length - 1), rest)
  | c :: rest => if c.isDigit then some ((args[c.toNat - 48]?).getD [], rest) else none
  | [] => none

def redirection (s : Text) : Text × Text :=
  let s := s.dropWhile (· == ' ')
  let target := s.takeWhile fun c => !(isWhite c || c == ';' || c == '&' || c == '|')
  match s with
  | '&' :: c :: rest => (['&', c], rest)
  | _ => (target, s.drop target.length)

def lex (args : List Text) : Nat → Lexing → Text → Option (List Token)
  | 0, l, _ => some l.finish.tokens
  | _, l, [] => some l.finish.tokens
  | fuel + 1, l, '\'' :: rest =>
    let inner := rest.takeWhile (· != '\'')
    match rest.drop inner.length with
    | _ :: after => lex args fuel (l.push inner) after
    | [] => none
  | fuel + 1, l, '"' :: rest => quoted args fuel l.current l.tokens [] rest
  | fuel + 1, l, '\\' :: c :: rest => lex args fuel (if c = '\n' then l else l.push [c]) rest
  | fuel + 1, l, '$' :: rest =>
    match parameter? args rest with
    | some (v, after) => lex args fuel (if v.isEmpty then l else l.push v) after
    | none => lex args fuel (l.push ['$']) rest
  | fuel + 1, l, '&' :: '&' :: rest => lex args fuel (l.add (.joint .ifSuccess)) rest
  | fuel + 1, l, '|' :: '|' :: rest => lex args fuel (l.add (.joint .ifFailure)) rest
  | fuel + 1, l, '|' :: rest => lex args fuel (l.add (.joint .pipe)) rest
  | fuel + 1, l, ';' :: rest => lex args fuel (l.add (.joint .always)) rest
  | fuel + 1, l, '\n' :: rest => lex args fuel (l.add (.joint .always)) rest
  | fuel + 1, l, '>' :: rest =>
    let (target, after) := redirection (rest.dropWhile (· == '>'))
    if l.current = some ['2'] then lex args fuel ({ l with current := none }.add .messages) after
    else
      let l := if l.current = some ['1'] then { l with current := none } else l
      lex args fuel (l.add (if target = ['&', '1'] then .messages else .discard)) after
  | fuel + 1, l, '#' :: rest =>
    if l.current.isNone then lex args fuel l (rest.dropWhile (· != '\n'))
    else lex args fuel (l.push ['#']) rest
  | fuel + 1, l, c :: rest =>
    if c = ' ' ∨ c = '\t' then lex args fuel l.finish rest else lex args fuel (l.push [c]) rest
where
  quoted (args : List Text) : Nat → Option Text → List Token → Text → Text → Option (List Token)
    | 0, _, _, _, _ => none
    | _, _, _, _, [] => none
    | fuel + 1, current, tokens, inner, '"' :: rest =>
      lex args fuel ⟨tokens, some (current.getD [] ++ inner)⟩ rest
    | fuel + 1, current, tokens, inner, '\\' :: c :: rest =>
      let s := if c = '\n' then [] else if "\\\"$\x60".toList.any (· == c) then [c] else ['\\', c]
      quoted args fuel current tokens (inner ++ s) rest
    | fuel + 1, current, tokens, inner, '$' :: rest =>
      match parameter? args rest with
      | some (v, after) => quoted args fuel current tokens (inner ++ v) after
      | none => quoted args fuel current tokens (inner ++ ['$']) rest
    | fuel + 1, current, tokens, inner, c :: rest => quoted args fuel current tokens (inner ++ [c]) rest

structure Command where
  joint : Joint
  words : List Text := []
  silent : Bool := false

def commands (now : Command) : List Token → List Command
  | [] => [now]
  | .word w :: rest => commands { now with words := now.words ++ [w] } rest
  | .discard :: rest => commands { now with silent := true } rest
  | .messages :: rest => commands now rest
  | .joint j :: rest => now :: commands { joint := j } rest

def builtin (files : Text → Option Bytes) (input : Bytes) (words : List Text) : Run :=
  match words with
  | [] => ⟨[], true, 0⟩
  | name :: args =>
    match name.toString with
    | "echo" => echo true args
    | "printf" => printf args
    | "cat" => cat files input args
    | "sleep" => sleep args
    | "true" => ⟨[], true, 0⟩
    | ":" => ⟨[], true, 0⟩
    | _ => ⟨[], false, 0⟩

structure Progress where
  output : Bytes := []
  last : Bytes := []
  succeeds : Bool := true
  elapsed : Nat := 0

/-- Runs commands up to the end or to `exit`. Output that a pipe takes is not printed. -/
def run (files : Text → Option Bytes) (p : Progress) : List Command → Run
  | [] => ⟨p.output ++ p.last, p.succeeds, p.elapsed⟩
  | c :: rest =>
    let skipped := (c.joint == .ifSuccess && !p.succeeds) || (c.joint == .ifFailure && p.succeeds)
    if skipped || c.words.isEmpty then
      run files (if c.joint = .pipe then p else { p with output := p.output ++ p.last, last := [] }) rest
    else
      let before := if c.joint = .pipe then p.output else p.output ++ p.last
      match c.words with
      | ['e', 'x', 'i', 't'] :: status =>
        let succeeds := match status with
          | s :: _ => s.all (· == '0')
          | [] => p.succeeds
        ⟨before, succeeds, p.elapsed⟩
      | words =>
        let r := builtin files (if c.joint = .pipe then p.last else []) words
        run files ⟨before, if c.silent then [] else r.output, r.succeeds, p.elapsed + r.elapsed⟩ rest

end Shell

def shell (files : Text → Option Bytes) : List Text → Run
  | ['-', 'c'] :: script :: args =>
    let args := if args.isEmpty then ["sh".toList] else args
    match Shell.lex args (2 * script.length + 2) {} script with
    | some tokens => Shell.run files {} (Shell.commands { joint := .always } tokens)
    | none => ⟨[], false, 0⟩
  | [] => ⟨[], true, 0⟩
  | _ => ⟨[], false, 0⟩

def standard (files : Text → Option Bytes) : Programs := fun name args =>
  match name.toString with
  | "echo" => some (echo false args)
  | "printf" => some (printf args)
  | "true" => some ⟨[], true, 0⟩
  | "false" => some ⟨[], false, 0⟩
  | "cat" => some (cat files [] args)
  | "sleep" => some (sleep args)
  | "sh" => some (shell files args)
  | _ => none

end ModuleDocs.Program
