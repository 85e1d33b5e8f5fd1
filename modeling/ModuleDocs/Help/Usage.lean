import ModuleDocs.Example.Line
import ModuleDocs.Help.Page
import ModuleDocs.Text.WordChar

namespace ModuleDocs.Help
open Text

inductive UsageToken where
  | openBracket
  | closeBracket
  | angled (content : Text)
  | word (text : Text)
  deriving DecidableEq, Repr

def isPlainChar (c : Char) : Bool :=
  !isWhite c && c != '[' && c != ']' && c != '<' && c != '>'

/-- The tokens of a usage line. A dash and an ASCII letter begin a parameter name, which ends with
the last word character; angle brackets without a partner are passed over. -/
def usageTokens (s : Text) : List UsageToken :=
  match s with
  | [] => []
  | '[' :: rest => .openBracket :: usageTokens rest
  | ']' :: rest => .closeBracket :: usageTokens rest
  | '<' :: rest =>
    if '>' ∈ rest then
      have : (rest.dropWhile (· != '>')).length ≤ rest.length :=
        (List.dropWhile_suffix _).length_le
      .angled (rest.takeWhile (· != '>')) :: usageTokens ((rest.dropWhile (· != '>')).drop 1)
    else usageTokens rest
  | c :: rest =>
    if c = '-' ∧ rest.head?.any Char.isAlpha then
      have : (rest.dropWhile isWordChar).length ≤ rest.length :=
        (List.dropWhile_suffix _).length_le
      .word ('-' :: rest.takeWhile isWordChar) :: usageTokens (rest.dropWhile isWordChar)
    else if isPlainChar c then
      have : (rest.dropWhile isPlainChar).length ≤ rest.length :=
        (List.dropWhile_suffix _).length_le
      .word (c :: rest.takeWhile isPlainChar) :: usageTokens (rest.dropWhile isPlainChar)
    else usageTokens rest
termination_by s.length
decreasing_by all_goals simp_all <;> omega

def UsageToken.type? : UsageToken → Option Text
  | .angled content => if sameName content "CommonParameters" then none else some (trim content)
  | _ => none

def UsageToken.parameter? : UsageToken → Option Text
  | .word ('-' :: c :: name) => some (c :: name)
  | _ => none

def leadingType? : List UsageToken → Option (Text × List UsageToken)
  | [] => none
  | token :: rest => token.type?.map (·, rest)

theorem length_leadingType {ts rest : List UsageToken} {type : Text}
    (h : leadingType? ts = some (type, rest)) : rest.length < ts.length := by
  cases ts with
  | nil => contradiction
  | cons token more =>
    obtain ⟨_, _, he⟩ := Option.map_eq_some_iff.mp h
    cases he
    simp

/-- What follows a parameter name: its type, empty if there is none, whether the brackets around the
name closed before the type, and the tokens left. `opened` says that a bracket opened just before
the name. -/
def afterName (opened : Bool) (ts : List UsageToken) : Text × Bool × List UsageToken :=
  match leadingType? ts, opened, ts with
  | some (type, rest), _, _ => (type, false, rest)
  | none, true, .closeBracket :: more =>
    match leadingType? more with
    | some (type, rest) => (type, true, rest)
    | none => ([], false, ts)
  | none, _, _ => ([], false, ts)

theorem length_afterName (opened : Bool) (ts : List UsageToken) :
    (afterName opened ts).2.2.length ≤ ts.length := by
  unfold afterName
  split
  · rename_i h
    exact Nat.le_of_lt (length_leadingType h)
  · split
    · rename_i h
      exact Nat.le_of_lt (Nat.lt_succ_of_lt (length_leadingType h))
    · exact Nat.le_refl _
  · exact Nat.le_refl _

/-- The parameters of a usage line, in order. `depth` counts the open brackets, and `opened` says that
the token before was an opening one: brackets around nothing but a name, with a type after them,
make the name optional and not the parameter. -/
def usageParameters (depth : Nat) (opened : Bool) (ts : List UsageToken) : List Parameter :=
  match ts with
  | [] => []
  | .openBracket :: rest => usageParameters (depth + 1) true rest
  | .closeBracket :: rest => usageParameters (depth - 1) false rest
  | token :: rest =>
    match token.parameter? with
    | none => usageParameters depth false rest
    | some name =>
      let after := afterName opened rest
      let depth := if after.2.1 then depth - 1 else depth
      have := length_afterName opened rest
      { name, typeName := after.1, required := some (depth == 0) } ::
        usageParameters depth false after.2.2
termination_by ts.length

def invocations (starts : Text → Bool) : List Text → List Text
  | [] => []
  | line :: rest =>
    if starts line then
      List.intercalate [' '] (line :: rest.takeWhile (fun l => !starts l)) ::
        invocations starts rest
    else invocations starts rest

/-- A line starts an invocation if its first word is the command; where no command is known, if it
is one in Verb-Noun form. -/
def startsInvocation (command line : Text) : Bool :=
  if command.isEmpty then Example.startsWithCommand line else sameName (firstWord line) command

def usages (s command : Text) : List SyntaxSet :=
  let ls := (s.lines.map trim).filter (fun l => !l.isEmpty)
  let found := invocations (startsInvocation command) ls
  found.mapIdx fun i line =>
    .ofParameters (defaultSetName i found.length) (usageParameters 0 false (usageTokens line))

end ModuleDocs.Help
