import ModuleDocs.Text.Basic

namespace ModuleDocs.Remote

structure Duration where
  millis : Nat
  deriving DecidableEq, Repr

def Duration.toText (d : Duration) : Text :=
  if d.millis = 0 then "0ns"
  else if d.millis < 1000 then Text.ofNat d.millis ++ "ms".toList
  else
    let thousandths := (Text.ofNat (1000 + d.millis % 1000)).drop 1
    let decimals := dropEndWhile (· == '0') thousandths
    Text.ofNat (d.millis / 1000) ++ (if decimals.isEmpty then [] else '.' :: decimals) ++ ['s']

inductive RemoteError where
  | network (cause : Text)
  | auth (cause : Text)
  | notFound (what : Text)
  | timeout (bound : Duration)
  | invalidResponse (cause : Text)
  deriving DecidableEq, Repr

namespace RemoteError

def name : RemoteError → Text
  | network _ => "Network"
  | auth _ => "Auth"
  | notFound _ => "NotFound"
  | timeout _ => "Timeout"
  | invalidResponse _ => "InvalidResponse"

def message : RemoteError → Text
  | network cause => "network error: ".toList ++ cause
  | auth cause => "authentication failed: ".toList ++ cause
  | notFound what => "not found: ".toList ++ what
  | timeout bound => "request timed out after ".toList ++ bound.toText
  | invalidResponse cause => "invalid response: ".toList ++ cause

end RemoteError

structure Listed where
  name : Text
  path : Text
  deriving DecidableEq, Repr

/-- The outcome of a call; none if it never finishes. -/
abbrev Reply (α : Type) := Option (Except RemoteError α)

structure Client (m : Type → Type) where
  describe : Text := "remote"
  defaultBranch : m (Reply Text)
  /-- The content of a file on a branch, none if there is no such file. -/
  fileContent : (path branch : Text) → m (Reply (Option Text))
  listFiles : (path branch : Text) → m (Reply (List Listed))

def bounded {α : Type} (bound : Duration) : Reply α → Except RemoteError α
  | some outcome => outcome
  | none => .error (.timeout bound)

end ModuleDocs.Remote
