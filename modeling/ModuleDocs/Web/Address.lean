import ModuleDocs.Text.Digits
import ModuleDocs.Text.Utf8

namespace ModuleDocs.Web

def percent (b : UInt8) : Text := ['%', Text.hexUpper (b.toNat / 16), Text.hexUpper (b.toNat % 16)]

def percentEncode (plain : Char → Bool) (s : Text) : Text :=
  s.flatMap fun c => if plain c then [c] else (Utf8.encodeChar c).flatMap percent

def isGraphic (c : Char) : Bool := 32 < c.toNat && c.toNat < 127

def isPathChar (c : Char) : Bool :=
  isGraphic c && !("\"#<>?\x60\x7b\x7d".toList.any (· == c))

def isQueryChar (c : Char) : Bool := isGraphic c && !("\"#<>'".toList.any (· == c))

def formEncode (s : Text) : Text :=
  s.flatMap fun c =>
    if c = ' ' then ['+']
    else if c.isAlphanum || "*-._".toList.any (· == c) then [c]
    else (Utf8.encodeChar c).flatMap percent

structure Address where
  scheme : Text
  authority : Text
  path : List Text
  query : Option Text
  deriving DecidableEq, Repr

namespace Address

def pathText (a : Address) : Text := a.path.flatMap fun part => '/' :: part

def target (a : Address) : Text :=
  (if a.path.isEmpty then ['/'] else a.pathText) ++ ((a.query.map fun q => '?' :: q).getD [])

def origin (a : Address) : Text := a.scheme ++ "://".toList ++ a.authority

def toText (a : Address) : Text := a.origin ++ a.target

def withQuery (a : Address) (name value : Text) : Address :=
  let pair := formEncode name ++ '=' :: formEncode value
  { a with query := some (match a.query with
      | some (c :: q) => c :: q ++ '&' :: pair
      | _ => pair) }

def isOneDot (part : Text) : Bool :=
  let p := Text.lowerAscii part
  p == ['.'] || p == "%2e".toList

def isTwoDots (part : Text) : Bool :=
  let p := Text.lowerAscii part
  [['.', '.'], ".%2e".toList, "%2e.".toList, "%2e%2e".toList].any (· == p)

def normalParts (done : List Text) : List Text → List Text
  | [] => done
  | part :: rest =>
    let next :=
      if isTwoDots part then done.dropLast ++ (if rest.isEmpty then [[]] else [])
      else if isOneDot part then done ++ (if rest.isEmpty then [[]] else [])
      else done ++ [percentEncode isPathChar part]
    normalParts next rest

def isOuter (c : Char) : Bool := c.toNat ≤ 32

def isSlash (c : Char) : Bool := c == '/' || c == '\\'

/-- An absolute address with the scheme of the web. White space around it and line ends and tabs
within it do not count, a backslash is a slash, and a fragment is left out. -/
def parse? (s : Text) : Option Address :=
  let s := (Text.trimBy isOuter s).filter fun c => !(c == '\n' || c == '\r' || c == '\t')
  let scheme := Text.lowerAscii (s.takeWhile (· != ':'))
  if scheme = "http".toList ∨ scheme = "https".toList then
    let rest := ((s.drop (scheme.length + 1)).dropWhile isSlash).takeWhile (· != '#')
    let authority := rest.takeWhile fun c => !(isSlash c || c == '?')
    let behind := rest.drop authority.length
    let path := behind.takeWhile (· != '?')
    let query := match behind.drop path.length with
      | _ :: q => some (percentEncode isQueryChar q)
      | [] => none
    if authority.isEmpty then none
    else some {
      scheme, authority := Text.lowerAscii authority, query
      path := normalParts [] (Text.splitOn '/' ((path.drop 1).map fun c => if c = '\\' then '/' else c)) }
  else none

end Address
end ModuleDocs.Web
