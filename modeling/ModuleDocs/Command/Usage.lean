import ModuleDocs.Text.Basic

/-! Command lines: options in long and short form, positional arguments, and subcommands. The
arguments are read from left to right. The values of an option wait until the next option or the
end, and are checked only then, so an unknown option is reported before a bad value in front of
it. -/
namespace ModuleDocs.Command

inductive Arity where
  | flag
  | single
  | repeated
  | help
  | version
  deriving DecidableEq, Repr

structure OptionSpec where
  name : Text
  short : Option Char := none
  arity : Arity
  accepts : Text → Bool := fun _ => true

structure PositionalSpec where
  name : Text
  repeated : Bool
  accepts : Text → Bool := fun _ => true

structure Grammar where
  title : Text
  options : List OptionSpec
  positional : Option PositionalSpec := none
  subcommands : List Text := []

inductive UsageError where
  | invalidValue
  | unknownArgument
  | invalidSubcommand
  | argumentConflict
  | tooManyValues
  | missingSubcommand
  | displayHelp
  | displayVersion (title : Text)
  | missingArguments
  deriving DecidableEq, Repr

structure Given where
  values : List (Text × List Text) := []
  pending : Option (Text × List Text) := none

namespace Given

def has (g : Given) (name : Text) : Bool := (g.values.lookup name).isSome

def all (g : Given) (name : Text) : List Text :=
  (g.values.filter fun v => v.1 == name).flatMap (·.2)

def last? (g : Given) (name : Text) : Option Text := (g.all name).getLast?

end Given

namespace Grammar

def option? (g : Grammar) (name : Text) : Option OptionSpec := g.options.find? fun o => o.name == name

def short? (g : Grammar) (c : Char) : Option OptionSpec := g.options.find? fun o => o.short == some c

/-- Settles the values of an option. One that is given already conflicts with itself, unless it is
repeated. -/
def settleOption (grammar : Grammar) (o : OptionSpec) (values : List Text) (g : Given) :
    Except UsageError Given :=
  match o.arity with
  | .help => .error .displayHelp
  | .version => .error (.displayVersion grammar.title)
  | arity =>
    if arity ≠ .flag ∧ values.isEmpty then .error .invalidValue
    else if arity ≠ .repeated ∧ g.has o.name then .error .argumentConflict
    else if values.all o.accepts then .ok { g with values := g.values ++ [(o.name, values)] }
    else .error .invalidValue

def settle (grammar : Grammar) (g : Given) : Except UsageError Given :=
  match g.pending with
  | none => .ok g
  | some (name, values) =>
    let g := { g with pending := none }
    match grammar.option? name, grammar.positional with
    | some o, _ => grammar.settleOption o values g
    | none, some p =>
      if values.all p.accepts then .ok { g with values := g.values ++ [(name, values)] }
      else .error .invalidValue
    | none, none => .ok g

def takeOption (grammar : Grammar) (o : OptionSpec) (attached : Option Text) (g : Given) :
    Except UsageError (Given × Bool) := do
  let g ← grammar.settle g
  if o.arity = .single ∨ o.arity = .repeated then
    match attached with
    | some v => pure (← grammar.settleOption o [v] g, false)
    | none => pure ({ g with pending := some (o.name, []) }, true)
  else pure (← grammar.settleOption o [] g, false)

/-- Short options in one word. The first that takes a value takes the rest of the word. -/
def takeShorts (grammar : Grammar) : Text → Given → Except UsageError (Given × Bool)
  | [], g => .ok (g, false)
  | c :: rest, g =>
    match grammar.short? c with
    | none => .error .unknownArgument
    | some o =>
      if o.arity = .single ∨ o.arity = .repeated then
        let attached := match rest with
          | [] => none
          | '=' :: v => some v
          | v => some v
        grammar.takeOption o attached g
      else do
        let (g, _) ← grammar.takeOption o none g
        grammar.takeShorts rest g

def takeLong (grammar : Grammar) (s : Text) (g : Given) : Except UsageError (Given × Bool) :=
  let (name, value) := ((Text.splitFirst (· == '=') s).map fun (n, v) => (n, some v)).getD (s, none)
  match grammar.option? name with
  | none => .error .unknownArgument
  | some o =>
    if value.isSome ∧ ¬ (o.arity = .single ∨ o.arity = .repeated) then .error .tooManyValues
    else grammar.takeOption o value g

def takePositional (grammar : Grammar) (literal : Bool) (a : Text) (g : Given) :
    Except UsageError Given :=
  let refused :=
    if grammar.subcommands.isEmpty ∨ (literal = true ∧ grammar.subcommands.any (· == a)) then
      UsageError.unknownArgument
    else .invalidSubcommand
  match grammar.positional with
  | none => .error refused
  | some p =>
    match g.pending with
    | some (name, values) =>
      if name = p.name then
        if p.repeated then .ok { g with pending := some (name, values ++ [a]) } else .error refused
      else if !p.repeated && g.has p.name then .error refused
      else do
        let g ← grammar.settle g
        pure { g with pending := some (p.name, [a]) }
    | none =>
      if !p.repeated && g.has p.name then .error refused
      else .ok { g with pending := some (p.name, [a]) }

def takeValue (a : Text) (g : Given) : Given :=
  { g with pending := g.pending.map fun (name, values) => (name, values ++ [a]) }

/-- Reads arguments up to the end or to a subcommand. `waiting` holds while an option lacks its
value, `literal` behind a double dash. -/
def scan (grammar : Grammar) (waiting literal : Bool) (g : Given) :
    List Text → Except UsageError (Given × Option (Text × List Text))
  | [] => .ok (g, none)
  | a :: rest =>
    if literal then do
      let g ← grammar.takePositional true a g
      grammar.scan false true g rest
    else if !waiting && grammar.subcommands.any (· == a) then .ok (g, some (a, rest))
    else match a with
    | ['-', '-'] => grammar.scan waiting true g rest
    | '-' :: '-' :: s => do
      let (g, waiting) ← grammar.takeLong s g
      grammar.scan waiting false g rest
    | '-' :: c :: s => do
      let (g, waiting) ← grammar.takeShorts (c :: s) g
      grammar.scan waiting false g rest
    | _ =>
      if waiting then grammar.scan false false (takeValue a g) rest
      else do
        let g ← grammar.takePositional false a g
        grammar.scan false false g rest

end Grammar
end ModuleDocs.Command
