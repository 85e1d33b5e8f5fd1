import ModuleDocs.Help.Usage
import ModuleDocs.Proofs.Text.Matching
import ModuleDocs.Proofs.Text.Trim
import ModuleDocs.Proofs.Text.White

namespace ModuleDocs.Help
open Text

structure CommandName where
  text : Text
  nonempty : text ≠ []
  plain : text.all isPlainChar = true
  undashed : text.head? ≠ some '-'

structure ParameterName where
  first : Char
  more : Text
  letter : first.isAlpha = true
  word : more.all isWordChar = true

structure TypeName where
  text : Text
  trimmed : trim text = text
  unclosed : '>' ∉ text
  unbroken : '\n' ∉ text
  ordinary : sameName text "CommonParameters" = false

structure Gap where
  text : Text
  nonempty : text ≠ []
  blank : isBlank text = true

def Gap.space : Gap := ⟨[' '], List.cons_ne_nil _ _, by decide⟩

def ParameterName.dashed (n : ParameterName) : Text := '-' :: n.first :: n.more

def TypeName.angled (t : TypeName) : Text := '<' :: (t.text ++ ['>'])

def bracketed (s : Text) : Text := '[' :: (s ++ [']'])

/-- The shapes of a parameter in a usage line. Brackets around the name alone let the argument stand
without it; brackets around everything let the parameter be left out. -/
inductive Group where
  | typed (name : ParameterName) (type : TypeName)
  | bare (name : ParameterName)
  | positional (name : ParameterName) (type : TypeName)
  | optionalTyped (name : ParameterName) (type : TypeName)
  | optionalBare (name : ParameterName)
  | optionalPositional (name : ParameterName) (type : TypeName)

namespace Group

def written : Group → Text
  | typed name type => name.dashed ++ ' ' :: type.angled
  | bare name => name.dashed
  | positional name type => bracketed name.dashed ++ ' ' :: type.angled
  | optionalTyped name type => bracketed (name.dashed ++ ' ' :: type.angled)
  | optionalBare name => bracketed name.dashed
  | optionalPositional name type => bracketed (bracketed name.dashed ++ ' ' :: type.angled)

def parameter : Group → Parameter
  | typed name type | positional name type =>
    { name := name.first :: name.more, typeName := type.text, required := some true }
  | bare name => { name := name.first :: name.more, required := some true }
  | optionalTyped name type | optionalPositional name type =>
    { name := name.first :: name.more, typeName := type.text, required := some false }
  | optionalBare name => { name := name.first :: name.more, required := some false }

def tokens : Group → List UsageToken
  | typed name type => [.word name.dashed, .angled type.text]
  | bare name => [.word name.dashed]
  | positional name type =>
    [.openBracket, .word name.dashed, .closeBracket, .angled type.text]
  | optionalTyped name type =>
    [.openBracket, .word name.dashed, .angled type.text, .closeBracket]
  | optionalBare name => [.openBracket, .word name.dashed, .closeBracket]
  | optionalPositional name type =>
    [.openBracket, .openBracket, .word name.dashed, .closeBracket, .angled type.text,
      .closeBracket]

end Group

theorem isWhite_of_isWordChar {c : Char} (word : isWordChar c = true) : isWhite c = false := by
  rw [← Bool.not_eq_true]
  intro white
  rw [isWordChar_of_isWhite white] at word
  contradiction

theorem isWordChar_of_isAlpha {c : Char} (letter : c.isAlpha = true) : isWordChar c = true := by
  have ascii := ascii_of_isAlpha letter
  simp [isWordChar, ascii, Char.isAlphanum, letter]

theorem ParameterName.isWordChar (n : ParameterName) :
    ∀ c ∈ n.first :: n.more, isWordChar c = true := by
  intro c mem
  rcases List.mem_cons.mp mem with rfl | mem
  · exact isWordChar_of_isAlpha n.letter
  · exact List.all_eq_true.mp n.word c mem

theorem ParameterName.isWhite_dashed (n : ParameterName) : ∀ c ∈ n.dashed, isWhite c = false := by
  intro c mem
  rcases List.mem_cons.mp mem with rfl | mem
  · decide
  · exact isWhite_of_isWordChar (n.isWordChar c mem)

theorem ParameterName.solid (n : ParameterName) : Solid n.dashed :=
  solid_of_forall (List.cons_ne_nil _ _) n.isWhite_dashed

theorem ParameterName.unbroken (n : ParameterName) : '\n' ∉ n.dashed := fun inside =>
  absurd (n.isWhite_dashed _ inside) (by decide)

theorem solid_between {c d : Char} (first : isWhite c = false) (last : isWhite d = false)
    (s : Text) : Solid (c :: (s ++ [d])) := by
  have left : Solid [c] := solid_of_forall (List.cons_ne_nil _ _) (by simpa using first)
  have right : Solid [d] := solid_of_forall (List.cons_ne_nil _ _) (by simpa using last)
  exact left.append right s

theorem TypeName.solid (t : TypeName) : Solid t.angled :=
  solid_between (by decide) (by decide) t.text

theorem solid_bracketed (s : Text) : Solid (bracketed s) :=
  solid_between (by decide) (by decide) s

theorem Group.solid (g : Group) : Solid g.written := by
  cases g with
  | typed name type => simpa [written] using name.solid.append type.solid [' ']
  | bare name => exact name.solid
  | positional name type =>
    simpa [written] using (solid_bracketed name.dashed).append type.solid [' ']
  | optionalTyped name type => exact solid_bracketed _
  | optionalBare name => exact solid_bracketed _
  | optionalPositional name type => exact solid_bracketed _

theorem Group.unbroken (g : Group) : '\n' ∉ g.written := by
  have type (t : TypeName) : '\n' ∉ t.angled := by simp [TypeName.angled, t.unbroken]
  cases g <;> simp [written, bracketed, ParameterName.unbroken, type]

theorem Group.begins (g : Group) : g.written.head? = some '-' ∨ g.written.head? = some '[' := by
  cases g <;> simp [written, bracketed, ParameterName.dashed]

def Stops {α : Type} (p : α → Bool) (s : List α) : Prop := ∀ c ∈ s.head?, p c = false

theorem Stops.nil {α : Type} (p : α → Bool) : Stops p [] := by simp [Stops]

theorem Stops.cons {α : Type} {p : α → Bool} {c : α} (stop : p c = false) (s : List α) :
    Stops p (c :: s) := by
  simpa [Stops] using stop

theorem Stops.run {α : Type} {p : α → Bool} {a s : List α} (inside : ∀ c ∈ a, p c = true)
    (stops : Stops p s) : (a ++ s).takeWhile p = a ∧ (a ++ s).dropWhile p = s := by
  rw [List.takeWhile_append_of_pos inside, List.dropWhile_append_of_pos inside]
  cases s with
  | nil => simp
  | cons d more =>
    have here := stops d rfl
    simp [here]

theorem Gap.stops (gap : Gap) {p : Char → Bool} (white : ∀ {c}, isWhite c = true → p c = false)
    (s : Text) : Stops p (gap.text ++ s) := by
  obtain ⟨c, rest, same⟩ := List.exists_cons_of_ne_nil gap.nonempty
  have blank := gap.blank
  rw [same, isBlank_cons, Bool.and_eq_true] at blank
  rw [same]
  exact Stops.cons (white blank.1) _

theorem usageTokens_white {c : Char} (white : isWhite c = true) (s : Text) :
    usageTokens (c :: s) = usageTokens s := by
  have other : ∀ d, isWhite d = false → c ≠ d := by
    rintro d solid rfl
    rw [white] at solid
    contradiction
  rw [usageTokens]
  · rw [if_neg (fun dash => other '-' (by decide) dash.1)]
    have notPlain : isPlainChar c = false := by simp [isPlainChar, white]
    rw [if_neg (by rw [notPlain]; decide)]
  · exact other '[' (by decide)
  · exact other ']' (by decide)
  · exact other '<' (by decide)

theorem usageTokens_blank {w : Text} (blank : isBlank w = true) (s : Text) :
    usageTokens (w ++ s) = usageTokens s := by
  induction w with
  | nil => rfl
  | cons c rest ih =>
    rw [isBlank_cons, Bool.and_eq_true] at blank
    rw [List.cons_append, usageTokens_white blank.1, ih blank.2]

theorem usageTokens_nil : usageTokens [] = [] := by rw [usageTokens]

theorem usageTokens_openBracket (s : Text) :
    usageTokens ('[' :: s) = .openBracket :: usageTokens s := by rw [usageTokens]

theorem usageTokens_closeBracket (s : Text) :
    usageTokens (']' :: s) = .closeBracket :: usageTokens s := by rw [usageTokens]

theorem usageTokens_space (s : Text) : usageTokens (' ' :: s) = usageTokens s :=
  usageTokens_white (by decide) s

theorem usageTokens_angled {t : Text} (unclosed : '>' ∉ t) (s : Text) :
    usageTokens ('<' :: (t ++ '>' :: s)) = .angled t :: usageTokens s := by
  have inside : ∀ c ∈ t, (c != '>') = true := fun c mem =>
    bne_iff_ne.mpr fun same => unclosed (same ▸ mem)
  have parts := (Stops.cons (p := (· != '>')) (c := '>') rfl s).run inside
  rw [usageTokens, if_pos (by simp), parts.1, parts.2]
  rfl

theorem usageTokens_dashed (n : ParameterName) {s : Text} (stops : Stops isWordChar s) :
    usageTokens (n.dashed ++ s) = .word n.dashed :: usageTokens s := by
  have parts := stops.run n.isWordChar
  rw [ParameterName.dashed, List.cons_append, usageTokens]
  · rw [if_pos (by simp [n.letter]), parts.1, parts.2]
  all_goals decide

theorem usageTokens_command (command : CommandName) {s : Text}
    (stops : Stops isPlainChar s) :
    usageTokens (command.text ++ s) = .word command.text :: usageTokens s := by
  obtain ⟨c, rest, same⟩ := List.exists_cons_of_ne_nil command.nonempty
  have plain := List.all_eq_true.mp command.plain
  have undashed := command.undashed
  rw [same] at plain undashed ⊢
  have first := plain c List.mem_cons_self
  have parts := stops.run fun d mem => plain d (List.mem_cons_of_mem c mem)
  rw [List.cons_append, usageTokens]
  · rw [if_neg (fun dash => undashed (by rw [dash.1]; rfl)), if_pos first, parts.1, parts.2]
  all_goals
    rintro rfl
    contradiction

theorem usageTokens_written (g : Group) {s : Text} (stops : Stops isWordChar s) :
    usageTokens (g.written ++ s) = g.tokens ++ usageTokens s := by
  have space (r : Text) : Stops isWordChar (' ' :: r) := Stops.cons (by decide) r
  have close (r : Text) : Stops isWordChar (']' :: r) := Stops.cons (by decide) r
  cases g <;>
    simp only [Group.written, Group.tokens, bracketed, TypeName.angled, List.cons_append,
      List.nil_append, List.append_assoc, usageTokens_openBracket, usageTokens_closeBracket,
      usageTokens_dashed _ (space _), usageTokens_dashed _ (close _), usageTokens_dashed _ stops,
      usageTokens_space, usageTokens_angled (TypeName.unclosed _)]

theorem type?_angled (t : TypeName) : (UsageToken.angled t.text).type? = some t.text := by
  rw [UsageToken.type?, t.ordinary, t.trimmed]
  rfl

theorem parameter?_dashed (n : ParameterName) :
    (UsageToken.word n.dashed).parameter? = some (n.first :: n.more) := rfl

theorem usageParameters_openBracket (depth : Nat) (opened : Bool) (ts : List UsageToken) :
    usageParameters depth opened (.openBracket :: ts) = usageParameters (depth + 1) true ts := by
  rw [usageParameters]

theorem usageParameters_closeBracket (depth : Nat) (opened : Bool) (ts : List UsageToken) :
    usageParameters depth opened (.closeBracket :: ts) = usageParameters (depth - 1) false ts := by
  rw [usageParameters]

theorem usageParameters_unnamed {token : UsageToken} (opens : token ≠ .openBracket)
    (closes : token ≠ .closeBracket) (unnamed : token.parameter? = none) (depth : Nat) (opened : Bool)
    (ts : List UsageToken) :
    usageParameters depth opened (token :: ts) = usageParameters depth false ts := by
  rw [usageParameters]
  · rw [unnamed]
  · exact opens
  · exact closes

theorem usageParameters_dashed (n : ParameterName) (depth : Nat) {opened closed : Bool}
    {ts rest : List UsageToken} {type : Text} (after : afterName opened ts = (type, closed, rest)) :
    usageParameters depth opened (.word n.dashed :: ts) =
      { name := n.first :: n.more, typeName := type,
        required := some ((if closed then depth - 1 else depth) == 0) } ::
        usageParameters (if closed then depth - 1 else depth) false rest := by
  rw [usageParameters]
  · rw [parameter?_dashed]
    simp only [after]
  · simp
  · simp

theorem leadingType?_angled (t : TypeName) (ts : List UsageToken) :
    leadingType? (.angled t.text :: ts) = some (t.text, ts) := by
  rw [leadingType?, type?_angled, Option.map_some]

theorem leadingType?_closeBracket (ts : List UsageToken) :
    leadingType? (.closeBracket :: ts) = none := rfl

theorem afterName_angled (t : TypeName) (opened : Bool) (ts : List UsageToken) :
    afterName opened (.angled t.text :: ts) = (t.text, false, ts) := by
  simp only [afterName, leadingType?_angled]

theorem afterName_closed_angled (t : TypeName) (ts : List UsageToken) :
    afterName true (.closeBracket :: .angled t.text :: ts) = (t.text, true, ts) := by
  simp only [afterName, leadingType?_closeBracket, leadingType?_angled]

theorem afterName_closed {ts : List UsageToken} (next : leadingType? ts = none) :
    afterName true (.closeBracket :: ts) = ([], false, .closeBracket :: ts) := by
  simp only [afterName, leadingType?_closeBracket, next]

theorem afterName_of_none {ts : List UsageToken} (next : leadingType? ts = none) :
    afterName false ts = ([], false, ts) := by
  simp only [afterName, next]

theorem usageParameters_tokens (g : Group) {ts : List UsageToken} (next : leadingType? ts = none) :
    usageParameters 0 false (g.tokens ++ ts) = g.parameter :: usageParameters 0 false ts := by
  cases g with
  | typed name type =>
    exact usageParameters_dashed name 0 (afterName_angled type false ts)
  | bare name =>
    exact usageParameters_dashed name 0 (afterName_of_none next)
  | positional name type =>
    have inside := usageParameters_dashed name 1 (afterName_closed_angled type ts)
    rwa [← usageParameters_openBracket 0 false] at inside
  | optionalTyped name type =>
    have inside := usageParameters_dashed name 1
      (afterName_angled type true (.closeBracket :: ts))
    rwa [← usageParameters_openBracket 0 false, usageParameters_closeBracket] at inside
  | optionalBare name =>
    have inside := usageParameters_dashed name 1 (afterName_closed next)
    rwa [← usageParameters_openBracket 0 false, usageParameters_closeBracket] at inside
  | optionalPositional name type =>
    have inside := usageParameters_dashed name 2
      (afterName_closed_angled type (.closeBracket :: ts))
    rwa [← usageParameters_openBracket 1 true, ← usageParameters_openBracket 0 false,
      usageParameters_closeBracket] at inside

structure Part where
  text : Text
  tokens : List UsageToken
  parameters : List Parameter
  solid : Solid text
  unbroken : '\n' ∉ text
  begins : text.head? = some '-' ∨ text.head? = some '['
  untyped : ∀ ts, leadingType? (tokens ++ ts) = none
  tokenized : ∀ {s}, Stops isWordChar s → usageTokens (text ++ s) = tokens ++ usageTokens s
  parsed : ∀ {ts}, leadingType? ts = none →
    usageParameters 0 false (tokens ++ ts) = parameters ++ usageParameters 0 false ts

def Group.part (g : Group) : Part where
  text := g.written
  tokens := g.tokens
  parameters := [g.parameter]
  solid := g.solid
  unbroken := g.unbroken
  begins := g.begins
  untyped := by cases g <;> exact fun _ => rfl
  tokenized := usageTokens_written g
  parsed := usageParameters_tokens g

theorem usageTokens_commonParameters (s : Text) :
    usageTokens ("[<CommonParameters>]".toList ++ s) =
      [.openBracket, .angled "CommonParameters".toList, .closeBracket] ++ usageTokens s := by
  have inside := usageTokens_angled (t := "CommonParameters".toList) (by decide) (']' :: s)
  rw [usageTokens_closeBracket] at inside
  exact (usageTokens_openBracket _).trans (congrArg (UsageToken.openBracket :: ·) inside)

def commonParameters : Part where
  text := "[<CommonParameters>]".toList
  tokens := [.openBracket, .angled "CommonParameters".toList, .closeBracket]
  parameters := []
  solid := solid_bracketed "<CommonParameters>".toList
  unbroken := by decide
  begins := .inr rfl
  untyped _ := rfl
  tokenized _ := usageTokens_commonParameters _
  parsed := by
    intro ts _
    rw [List.cons_append, usageParameters_openBracket, List.cons_append, usageParameters]
    · exact usageParameters_closeBracket 1 false ts
    · simp
    · simp

end ModuleDocs.Help
