import ModuleDocs.Proofs.Keyed
import ModuleDocs.Proofs.Text.Lowercase
import ModuleDocs.Remote.Token

/-! The host of an address and the case of the letters in the address. Main statement: two spellings of
one address have one host, and find the tokens of one another, exactly if both or none of them have the
prefix `api.` in lower case. -/
namespace ModuleDocs.Remote
open Text

/-- An address without its scheme, its port and its path. -/
def hostPart (address : Text) : Text :=
  (((cut "://".toList address).map (·.2)).getD address).takeWhile fun c => !(c == '/' || c == ':')

theorem hostOf_eq (address : Text) : hostOf address =
    lowercase ((stripPrefix? (hostPart address) "api.".toList).getD (hostPart address)) := rfl

theorem hostPart_lowerAscii (address : Text) :
    hostPart (lowerAscii address) = lowerAscii (hostPart address) := by
  have scheme : ((cut "://".toList (lowerAscii address)).map (·.2)).getD (lowerAscii address) =
      lowerAscii (((cut "://".toList address).map (·.2)).getD address) := by
    rw [cut_lowerAscii (by decide)]
    cases cut "://".toList address <;> rfl
  have ends (c : Char) : (!(c.toLower == '/' || c.toLower == ':')) = !(c == '/' || c == ':') := by
    rw [toLower_beq (by decide), toLower_beq (by decide)]
  rw [hostPart, scheme, lowerAscii, List.takeWhile_map, hostPart]
  exact congrArg (List.map Char.toLower) (congrArg (List.takeWhile · _) (funext ends))

theorem sameName_hostPart {a b : Text} (same : sameName a b = true) :
    sameName (hostPart a) (hostPart b) = true := by
  rw [sameName_iff, ← hostPart_lowerAscii, sameName_iff.mp same, hostPart_lowerAscii]

theorem lowercase_ne_of_stripped {rest host : Text}
    (same : sameName ("api.".toList ++ rest) host = true) : lowercase rest ≠ lowercase host := by
  intro equal
  have longer := length_lowercase_append "api.".toList rest
  have four : (lowercase "api.".toList).length = 4 := by decide +kernel
  rw [lowercase_of_sameName same, ← equal, four] at longer
  omega

theorem hostOf_eq_iff {a b : Text} (same : sameName a b = true) : hostOf a = hostOf b ↔
    (hostPart a).startsWith "api.".toList = (hostPart b).startsWith "api.".toList := by
  have parts := sameName_hostPart same
  rw [hostOf_eq, hostOf_eq, startsWith, startsWith, ← List.isSome_isPrefixOf?_eq_isPrefixOf,
    ← List.isSome_isPrefixOf?_eq_isPrefixOf]
  change _ ↔ (stripPrefix? _ _).isSome = (stripPrefix? _ _).isSome
  cases found : stripPrefix? (hostPart a) "api.".toList with
  | none =>
    cases found' : stripPrefix? (hostPart b) "api.".toList with
    | none => exact iff_of_true (lowercase_of_sameName parts) rfl
    | some rest =>
      rw [stripPrefix?_eq_some found', sameName_comm] at parts
      exact iff_of_false (lowercase_ne_of_stripped parts).symm Bool.noConfusion
  | some rest =>
    cases found' : stripPrefix? (hostPart b) "api.".toList with
    | none =>
      rw [stripPrefix?_eq_some found] at parts
      exact iff_of_false (lowercase_ne_of_stripped parts) Bool.noConfusion
    | some rest' =>
      rw [stripPrefix?_eq_some found, stripPrefix?_eq_some found', sameName_iff, lowerAscii,
        lowerAscii, List.map_append, List.map_append, List.append_cancel_left_eq] at parts
      exact iff_of_true (lowercase_of_sameName (sameName_iff.mpr parts)) rfl

theorem resolveToken_stored (host : Text) (store : TokenStore) :
    resolveToken none host store (fun _ => none) = (store.get? host).bind usable? := rfl

theorem lowercase_hostOf (address : Text) : lowercase (hostOf address) = hostOf address :=
  lowercase_lowercase _

theorem TokenStore.lookup_set (s : TokenStore) (host token key : Text) :
    (s.set host token).hosts.lookup key =
      if lowercase host = key then some token else s.hosts.lookup key := by
  rw [set]
  split
  case isTrue same => rw [same, Keyed.lookup_put_self]
  case isFalse different => exact Keyed.lookup_put_ne (Ne.symm different) _ _

/-- Of two addresses that differ in the case of ASCII letters only, both have one host if both or none
have the prefix `api.` in lower case, and different hosts otherwise. In the first case the one finds
whatever token is set for the host of the other; in the second case it finds what it found before. -/
theorem token_found_of_sameName {a b : Text} (same : sameName a b = true) :
    let alike := (hostPart a).startsWith "api.".toList = (hostPart b).startsWith "api.".toList
    (hostOf a = hostOf b ↔ alike) ∧
    ∀ (store : TokenStore) (token : Text),
      resolveToken none (hostOf b) (store.set (hostOf a) token) (fun _ => none) =
        if alike then usable? token else resolveToken none (hostOf b) store fun _ => none := by
  intro alike
  refine ⟨hostOf_eq_iff same, fun store token => ?_⟩
  rw [resolveToken_stored, resolveToken_stored, TokenStore.get?, TokenStore.lookup_set,
    lowercase_hostOf, lowercase_hostOf]
  simp only [alike, hostOf_eq_iff same]
  split
  case isTrue => rfl
  case isFalse => rw [TokenStore.get?, lowercase_hostOf]

theorem token_found_of_sameName_server :
    sameName "https://GHE.corp.example/api/v3".toList
      "https://ghe.corp.example/API/v3".toList = true ∧
    ∀ store : TokenStore, resolveToken none (hostOf "https://ghe.corp.example/API/v3".toList)
      (store.set (hostOf "https://GHE.corp.example/api/v3".toList) "secret".toList) (fun _ => none) =
        some "secret".toList := by
  have same : sameName "https://GHE.corp.example/api/v3".toList
      "https://ghe.corp.example/API/v3".toList = true := by decide
  refine ⟨same, fun store => ?_⟩
  rw [(token_found_of_sameName same).2 store "secret".toList, if_pos (by decide)]
  decide +kernel

/-- With the prefix in capitals the host keeps it, and a token set for the host without it is not
found. -/
theorem prefix_in_capitals_kept :
    sameName "https://API.github.com".toList "https://api.github.com".toList = true ∧
    hostOf "https://api.github.com".toList = "github.com".toList ∧
    hostOf "https://API.github.com".toList = "api.github.com".toList ∧
    resolveToken none (hostOf "https://API.github.com".toList)
      (TokenStore.set {} (hostOf "https://api.github.com".toList) "secret".toList)
      (fun _ => none) = none := by
  decide +kernel

end ModuleDocs.Remote
