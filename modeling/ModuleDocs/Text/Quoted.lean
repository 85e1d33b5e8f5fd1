import ModuleDocs.Text.Basic
import ModuleDocs.Text.Printable

namespace ModuleDocs.Text

/-- Line ends, tabs, zero, quotes and backslashes have short escapes; any other character that
would not show is given by its number. -/
def quoteChar (c : Char) : Text :=
  match c with
  | '"' => ['\\', '"']
  | '\\' => ['\\', '\\']
  | '\n' => ['\\', 'n']
  | '\r' => ['\\', 'r']
  | '\t' => ['\\', 't']
  | '\x00' => ['\\', '0']
  | c =>
    if isShown c then [c]
    else "\\u\x7b".toList ++ Nat.toDigits 16 c.toNat ++ ['\x7d']

def quoted (s : Text) : Text := '"' :: s.flatMap quoteChar ++ ['"']

end ModuleDocs.Text
