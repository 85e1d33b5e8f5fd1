import ModuleDocs.Config.Record
import ModuleDocs.Tree.Basic

namespace ModuleDocs.Config

inductive StoreError where
  | unreadable (file : Text)
  | malformed (file : Text)
  | noFolder (folder : Text)
  | noDocument
  | unwritable (file : Text)
  deriving DecidableEq, Repr

def StoreError.message : StoreError → Text
  | unreadable file => "Failed to read config file: ".toList ++ Text.quoted file
  | malformed file => "Failed to parse config file: ".toList ++ Text.quoted file
  | noFolder folder => "Failed to create ".toList ++ Text.quoted folder
  | noDocument => "Failed to serialize configuration"
  | unwritable file => "Failed to write config file: ".toList ++ Text.quoted file

def load (t : Tree) (root : Text) : Except StoreError Config :=
  let file := filePath root
  if (t.place? file).isNone then .ok {}
  else
    match t.text? file with
    | none => .error (.unreadable file)
    | some s =>
      match read? s with
      | some c => .ok c
      | none => .error (.malformed file)

def save (c : Config) (t : Tree) (root : Text) : Except StoreError Tree :=
  match t.makeFolder? root folderName with
  | none => .error (.noFolder (folderPath root))
  | some made =>
    match c.write? with
    | none => .error .noDocument
    | some s =>
      match made.writeFile? (folderPath root) fileName (Utf8.encode s) with
      | some written => .ok written
      | none => .error (.unwritable (filePath root))

end ModuleDocs.Config
