import ModuleDocs.Json.Number

namespace ModuleDocs.Json
open Text

def escape (c : Char) : Text :=
  match c with
  | '"' => "\\\""
  | '\\' => "\\\\"
  | '\x08' => "\\b"
  | '\x0c' => "\\f"
  | '\n' => "\\n"
  | '\r' => "\\r"
  | '\t' => "\\t"
  | c =>
    if c.toNat < 32 then "\\u00".toList ++ [hexLower (c.toNat / 16), hexLower (c.toNat % 16)]
    else [c]

def quote (s : Text) : Text := '"' :: s.flatMap escape ++ ['"']

def scalarText : Json → Text
  | .null => "null"
  | .bool true => "true"
  | .bool false => "false"
  | .num n => n.toText
  | .str s => quote s
  | .arr _ => "[]"
  | .obj _ => "\x7b\x7d"

mutual

def compact : Json → Text
  | .arr items => '[' :: compactItems items ++ [']']
  | .obj members => '\x7b' :: compactMembers members ++ ['\x7d']
  | j => scalarText j

def compactItems : List Json → Text
  | [] => []
  | [j] => compact j
  | j :: rest => compact j ++ ',' :: compactItems rest

def compactMembers : List (Text × Json) → Text
  | [] => []
  | [(k, j)] => quote k ++ ':' :: compact j
  | (k, j) :: rest => quote k ++ ':' :: compact j ++ ',' :: compactMembers rest

end

def newline (depth : Nat) : Text := '\n' :: List.replicate (2 * depth) ' '

mutual

/-- The value on several lines, each member and item on its own; `depth` is the nesting around it.
Members stand in the order in which they are given. -/
def pretty (depth : Nat) : Json → Text
  | .arr [] => "[]"
  | .arr items => '[' :: prettyItems (depth + 1) items ++ newline depth ++ [']']
  | .obj [] => "\x7b\x7d"
  | .obj members => '\x7b' :: prettyMembers (depth + 1) members ++ newline depth ++ ['\x7d']
  | j => scalarText j

def prettyItems (depth : Nat) : List Json → Text
  | [] => []
  | [j] => newline depth ++ pretty depth j
  | j :: rest => newline depth ++ pretty depth j ++ ',' :: prettyItems depth rest

def prettyMembers (depth : Nat) : List (Text × Json) → Text
  | [] => []
  | [(k, j)] => newline depth ++ quote k ++ ": ".toList ++ pretty depth j
  | (k, j) :: rest =>
    newline depth ++ quote k ++ ": ".toList ++ pretty depth j ++ ',' :: prettyMembers depth rest

end

end ModuleDocs.Json
