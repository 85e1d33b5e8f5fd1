import ModuleDocs.Json.Record
import ModuleDocs.Text.Lowercase
import ModuleDocs.Toml.Document
import ModuleDocs.Tree.Basic

/-! Access tokens by host. Hosts are kept in lower case when a token is set and looked up in lower
case; a stored file is taken as it is. -/
namespace ModuleDocs.Remote

/-- The tokens in the order of their hosts, each host once. -/
structure TokenStore where
  hosts : List (Text × Text) := []
  deriving DecidableEq, Repr

namespace TokenStore

def get? (s : TokenStore) (host : Text) : Option Text := s.hosts.lookup (Text.lowercase host)

def set (s : TokenStore) (host token : Text) : TokenStore :=
  ⟨Keyed.put (Text.lowercase host) token s.hosts⟩

def toJson (s : TokenStore) : Json :=
  Json.record [("hosts", .obj (s.hosts.map fun m => (m.1, Json.str m.2)))]

def hostsOfJson? : Json → Option (List (Text × Text))
  | .obj members => (members.mapM fun m => (Json.asText? m.2).map fun t => (m.1, t)).map
      Keyed.ofList
  | _ => none

def ofJson? (j : Json) : Option TokenStore := do
  let ms ← Json.members? ["hosts"] 0 j
  pure ⟨← Json.fieldOr? ms "hosts" [] hostsOfJson?⟩

def write? (s : TokenStore) : Option Text :=
  Toml.write? [] [("hosts".toList, s.hosts.map fun m => (m.1, Toml.Value.text m.2))]

def read? (s : Text) : Option TokenStore := (Toml.parse? s).bind ofJson?

/-- The store below a folder for configurations. One that is missing or malformed holds nothing. -/
def load (t : Tree) (folder : Text) : TokenStore :=
  ((t.text? (Path.join folder "modoc/tokens.toml".toList)).bind read?).getD {}

end TokenStore

/-- The host of an address: no scheme, no path or port, no leading `api.`, in lower case. -/
def hostOf (address : Text) : Text :=
  let rest := ((Text.cut "://".toList address).map (·.2)).getD address
  let host := rest.takeWhile fun c => !(c == '/' || c == ':')
  Text.lowercase ((Text.stripPrefix? host "api.").getD host)

def tokenVariables : List Text :=
  ["MODOC_GITHUB_TOKEN".toList, "GITHUB_TOKEN".toList, "GH_TOKEN".toList]

def usable? (t : Text) : Option Text := some (Text.trim t) |>.filter (!·.isEmpty)

/-- The given token, else one from the environment, else the stored one of the host. -/
def resolveToken (given : Option Text) (host : Text) (store : TokenStore)
    (environment : Text → Option Text) : Option Text :=
  (given.bind usable?).orElse fun _ =>
    (tokenVariables.findSome? fun v => (environment v).bind usable?).orElse fun _ =>
      (store.get? host).bind usable?

end ModuleDocs.Remote
