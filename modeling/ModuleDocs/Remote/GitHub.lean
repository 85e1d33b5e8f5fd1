import ModuleDocs.Json.Parse
import ModuleDocs.Json.Record
import ModuleDocs.Remote.Client
import ModuleDocs.Web.Address
import ModuleDocs.Web.Base64
import ModuleDocs.Web.Status

/-! A repository on GitHub, read through the contents interface. The client builds requests and
reads responses; how a request is sent is a parameter. -/
namespace ModuleDocs.Remote

structure GitHub where
  base : Text
  owner : Text
  name : Text
  token : Option Text
  bound : Duration

structure WebRequest where
  address : Web.Address
  accept : Text := "application/vnd.github+json"
  authorization : Option Text
  userAgent : Text := "modoc/0.1.0"
  deriving DecidableEq, Repr

inductive Exchange where
  | answered (status : Nat) (body : Bytes)
  | unreachable
  | silent
  deriving DecidableEq

namespace GitHub

def ofSlug? (base slug : Text) (token : Option Text) (bound : Duration) :
    Except RemoteError GitHub :=
  match Text.splitOn '/' slug with
  | [owner, name] =>
    if owner.isEmpty || name.isEmpty then .error (.notFound ("invalid repository slug: ".toList ++ slug))
    else .ok ⟨dropEndWhile (· == '/') base, owner, name, token, bound⟩
  | _ => .error (.notFound ("invalid repository slug: ".toList ++ slug))

def describe (g : GitHub) : Text := "github:".toList ++ g.owner ++ '/' :: g.name

def repositoryAddress (g : GitHub) : Text :=
  g.base ++ "/repos/".toList ++ g.owner ++ '/' :: g.name

def contentsAddress (g : GitHub) (path : Text) : Text :=
  g.repositoryAddress ++ "/contents/".toList ++ Text.trimBy (· == '/') path

def isHeaderChar (c : Char) : Bool := c == '\t' || (32 ≤ c.toNat && c.toNat != 127)

/-- A request for an address on a branch; none if the address or the token cannot be sent. -/
def request? (g : GitHub) (address : Text) (branch : Option Text) : Option WebRequest := do
  let a ← Web.Address.parse? address
  guard ((g.token.getD []).all isHeaderChar)
  pure {
    address := (branch.map fun b => a.withQuery "ref" b).getD a
    authorization := g.token.map fun t => "Bearer ".toList ++ t }

def body (g : GitHub) (r : WebRequest) : Exchange → Except RemoteError (Option Bytes)
  | .silent => .error (.timeout g.bound)
  | .unreachable => .error (.network
      ("error sending request for url (".toList ++ r.address.toText ++ [')']))
  | .answered status body =>
    let shown := Web.statusText status ++ " - ".toList ++ Utf8.decodeLossy body
    if status = 404 then .ok none
    else if status = 401 ∨ status = 403 then .error (.auth shown)
    else if Web.isSuccess status then .ok (some body)
    else .error (.network shown)

def malformed : RemoteError := .invalidResponse "error decoding response body"

def statesOnce (fields : List String) : Json → Bool
  | .obj members => fields.all fun f => (members.filter fun m => m.1 == f.toList).length ≤ 1
  | _ => true

def readOnce {α : Type} (fields : List String) (least : Nat)
    (read : List (Text × Json) → Option α) (j : Json) : Option α :=
  if statesOnce fields j then (Json.members? fields least j).bind read else none

def json? (body : Bytes) : Option Json := (Utf8.decode? body).bind (Json.parseWith? Json.keepMember)

def branchName? : Json → Option Text :=
  readOnce ["default_branch"] 1 fun ms => Json.field? ms "default_branch" Json.asText?

structure Payload where
  content : Text
  encoding : Option Text

def payload? : Json → Option Payload :=
  readOnce ["content", "encoding"] 2 fun ms => do
    pure ⟨← Json.fieldOr? ms "content" [] Json.asText?, ← Json.optional? ms "encoding" Json.asText?⟩

/-- The text of a file. White space in its symbols does not count, and bytes that are no text are
replaced. -/
def Payload.text (p : Payload) : Except RemoteError Text :=
  if p.encoding = some "base64".toList then
    match Web.Base64.decode (Utf8.encode (p.content.filter fun c => !isWhite c)) with
    | .ok bytes => .ok (Utf8.decodeLossy bytes)
    | .error e => .error (.invalidResponse ("bad base64 payload: ".toList ++ e.message))
  else .ok p.content

def listed? : Json → Option (Listed × Text) :=
  readOnce ["name", "path", "type"] 3 fun ms => do
    pure (⟨← Json.field? ms "name" Json.asText?, ← Json.field? ms "path" Json.asText?⟩,
      ← Json.field? ms "type" Json.asText?)

def listing (j : Json) : List Listed :=
  ((Json.asList? listed? j).getD []).filterMap fun (e, kind) =>
    if kind = "file".toList then some e else none

section
variable {m : Type → Type} [Monad m]

def exchange (g : GitHub) (send : WebRequest → m Exchange) (r : WebRequest) : m Exchange :=
  if g.bound.millis = 0 then pure .silent else send r

def get {α : Type} (g : GitHub) (send : WebRequest → m Exchange) (address : Text)
    (branch : Option Text) (read : Option Bytes → Except RemoteError α) : m (Reply α) :=
  match g.request? address branch with
  | none => pure (some (.error (.network "builder error")))
  | some r => do pure (some ((g.body r (← g.exchange send r)).bind read))

def decoded {α : Type} (read : Json → Option α) (body : Bytes) : Except RemoteError α :=
  match (json? body).bind read with
  | some a => .ok a
  | none => .error malformed

def client (g : GitHub) (send : WebRequest → m Exchange) : Client m where
  describe := g.describe
  defaultBranch := g.get send g.repositoryAddress none fun
    | none => .error (.notFound (g.owner ++ '/' :: g.name))
    | some body => decoded branchName? body
  fileContent path branch := g.get send (g.contentsAddress path) (some branch) fun
    | none => .ok none
    | some body => ((decoded payload? body).bind Payload.text).map some
  listFiles path branch := g.get send (g.contentsAddress path) (some branch) fun
    | none => .ok []
    | some body => decoded (fun j => some (listing j)) body

end
end GitHub
end ModuleDocs.Remote
