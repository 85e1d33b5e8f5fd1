import Mathlib.Algebra.Group.Int.Defs
import Mathlib.Algebra.Group.Nat.Defs
import ModuleDocs.Proofs.Example.Enclosed

/-! A tally of the brackets of some lines, kept character by character with a switch for each sort of text
and with counters of 32 bits. Nothing in its data keeps two switches from being on at once, nor a
counter from leaving its range. Main statement: a tally of some lines shows their nesting, so that at most
one sort of text is open in it, and no counter overflows before 2³¹ characters are read. -/
namespace ModuleDocs.Example
open Text

/-- What becomes of a sum that has no place in 32 bits. -/
inductive Overflow where
  | wraps
  | fails
  deriving DecidableEq

def Overflow.add (o : Overflow) (x : Int32) (d : Int) : Option Int32 :=
  let sum := x.toInt + d
  if o = .fails ∧ ¬ (-2 ^ 31 ≤ sum ∧ sum < 2 ^ 31) then none else some (.ofInt sum)

structure Tally where
  braces : Int32
  parens : Int32
  single : Bool
  double : Bool
  hereString : Option Char
  comment : Bool
  deriving DecidableEq

/-- What is read after a character: the next one, the one behind that, or nothing more in the line. -/
inductive Move where
  | next
  | skip
  | stop

def Move.left : Move → Text → Text
  | next, rest => rest
  | skip, rest => rest.tail
  | stop, _ => []

theorem Move.length_left_le (move : Move) (rest : Text) : (move.left rest).length ≤ rest.length := by
  cases move <;> simp [left]

namespace Tally

def fresh : Tally := ⟨0, 0, false, false, none, false⟩

def openTexts (t : Tally) : Nat := [t.single, t.double, t.hereString.isSome, t.comment].count true

def count (o : Overflow) (t : Tally) : Bracket → Option Tally
  | .openBrace => (o.add t.braces 1).map ({ t with braces := · })
  | .closeBrace => (o.add t.braces (-1)).map ({ t with braces := · })
  | .openParen => (o.add t.parens 1).map ({ t with parens := · })
  | .closeParen => (o.add t.parens (-1)).map ({ t with parens := · })

def stepCode (o : Overflow) (t : Tally) (c : Char) (rest : Text) : Option (Tally × Move) :=
  match c with
  | '\x60' => some (t, .skip)
  | '<' => some (if rest.head? = some '#' then ({ t with comment := true }, .skip) else (t, .next))
  | '#' => some (t, .stop)
  | '@' =>
    some (if rest = ['"'] ∨ rest = ['\''] then ({ t with hereString := rest.head? }, .stop)
      else (t, .next))
  | '\'' => some ({ t with single := true }, .next)
  | '"' => some ({ t with double := true }, .next)
  | '\x7b' => (t.count o .openBrace).map (·, .next)
  | '\x7d' => (t.count o .closeBrace).map (·, .next)
  | '(' => (t.count o .openParen).map (·, .next)
  | ')' => (t.count o .closeParen).map (·, .next)
  | _ => some (t, .next)

/-- Reads a character of a line. The switches are asked in this order; the one for here-strings is not,
since a line that is read character by character starts outside of them. -/
def step (o : Overflow) (t : Tally) (c : Char) (rest : Text) : Option (Tally × Move) :=
  if t.comment then
    some (if c = '#' ∧ rest.head? = some '>' then ({ t with comment := false }, .skip) else (t, .next))
  else if t.single then
    some (if c = '\'' then { t with single := false } else t, .next)
  else if t.double then
    match c with
    | '\x60' => some (t, .skip)
    | '"' => some ({ t with double := false }, .next)
    | _ => some (t, .next)
  else t.stepCode o c rest

def readText (o : Overflow) (t : Tally) : Text → Option Tally
  | [] => some t
  | c :: rest => (t.step o c rest).bind fun (u, move) => u.readText o (move.left rest)
termination_by s => s.length
decreasing_by exact Nat.lt_succ_of_le (move.length_left_le rest)

def feed (o : Overflow) (t : Tally) (line : Text) : Option Tally :=
  match t.hereString with
  | some quote =>
    some (if (trimStart line).startsWith [quote, '@'] then { t with hereString := none } else t)
  | none => t.readText o (trimEnd line)

def feedExample (o : Overflow) (t : Tally) (line : Text) : Option Tally :=
  let inText := t.hereString.isSome || t.comment || t.single || t.double
  if !inText && looksLikeProse line then some t else t.feed o line

def read (o : Overflow) (t : Tally) : Fed → Option Tally
  | .plain line => t.feed o line
  | .ofExample line => t.feedExample o line

end Tally

def Fed.line : Fed → Text
  | .plain line => line
  | .ofExample line => line

def Nesting.tally (n : Nesting) : Tally where
  braces := .ofInt n.braces
  parens := .ofInt n.parens
  single := n.region = .quoted .single
  double := n.region = .quoted .double
  hereString := match n.region with
    | .hereString quote => some quote.char
    | _ => none
  comment := n.region = .comment

def Nesting.size (n : Nesting) : Nat := n.braces.natAbs + n.parens.natAbs

/-- A result is the right one, or a sum failed that so many characters can reach. -/
def Overflow.Allows {α : Type} (o : Overflow) (chars : Nat) (result : Option α) (x : α) : Prop :=
  result = some x ∨ result = none ∧ o = .fails ∧ 2 ^ 31 ≤ chars

namespace Overflow.Allows

variable {α β : Type} {o : Overflow} {k : Nat} {r : Option α} {x : α}

theorem pure (x : α) : o.Allows k (some x) x := .inl rfl

theorem mono {l : Nat} (allowed : o.Allows k r x) (le : k ≤ l) : o.Allows l r x :=
  allowed.imp_right fun ⟨failed, may, far⟩ => ⟨failed, may, far.trans le⟩

theorem bind {f : α → Option β} {y : β} (first : o.Allows k r x) (second : o.Allows k (f x) y) :
    o.Allows k (r.bind f) y := by
  obtain rfl | ⟨rfl, failed⟩ := first
  · exact second
  · exact .inr ⟨rfl, failed⟩

theorem map (f : α → β) (allowed : o.Allows k r x) : o.Allows k (r.map f) (f x) := by
  obtain rfl | ⟨rfl, failed⟩ := allowed
  · exact .pure _
  · exact .inr ⟨rfl, failed⟩

end Overflow.Allows

theorem toInt_ofInt_of_near {i : Int} (near : i.natAbs < 2 ^ 31) : (Int32.ofInt i).toInt = i :=
  Int32.toInt_ofInt_of_le (by omega) (by omega)

theorem Overflow.add_ofInt (o : Overflow) (i d : Int) :
    o.Allows (i.natAbs + d.natAbs) (o.add (.ofInt i) d) (.ofInt (i + d)) := by
  have sum : Int32.ofInt ((Int32.ofInt i).toInt + d) = .ofInt (i + d) := by
    rw [Int32.ofInt_add, Int32.ofInt_toInt, Int32.ofInt_add]
  simp only [Overflow.add]
  by_cases near : i.natAbs + d.natAbs < 2 ^ 31
  · rw [toInt_ofInt_of_near (by omega), if_neg (by omega)]
    exact .pure _
  · rw [← sum]
    split
    case isTrue failed => exact .inr ⟨rfl, failed.1, by omega⟩
    case isFalse => exact .pure _

theorem natAbs_toInt_ofInt_le (i : Int) : (Int32.ofInt i).toInt.natAbs ≤ i.natAbs := by
  by_cases near : i.natAbs < 2 ^ 31
  · rw [toInt_ofInt_of_near near]
  · have low := (Int32.ofInt i).le_toInt
    have high := (Int32.ofInt i).toInt_lt
    omega

theorem size_count_le (n : Nesting) (b : Bracket) : (n.count b).size ≤ n.size + 1 := by
  cases b <;> simp only [Nesting.count, Nesting.size] <;> omega

theorem count_tally (o : Overflow) (n : Nesting) (b : Bracket) :
    o.Allows (n.size + 1) (n.tally.count o b) (n.count b).tally := by
  have sum (i d : Int) (near : i.natAbs + d.natAbs ≤ n.size + 1) :
      o.Allows (n.size + 1) (o.add (.ofInt i) d) (.ofInt (i + d)) := (o.add_ofInt i d).mono near
  cases b with
  | openBrace => exact (sum n.braces 1 (by simp only [Nesting.size]; omega)).map _
  | closeBrace => exact (sum n.braces (-1) (by simp only [Nesting.size]; omega)).map _
  | openParen => exact (sum n.parens 1 (by simp only [Nesting.size]; omega)).map _
  | closeParen => exact (sum n.parens (-1) (by simp only [Nesting.size]; omega)).map _

def Nesting.ended (n : Nesting) (s : Text) : Nesting :=
  n.after (scan n.region s).1 (scan n.region s).2

def Nesting.InLine (n : Nesting) (s : Text) : Prop :=
  match n.region with
  | .hereString _ => s = []
  | _ => True

/-- A tally follows a nesting over one character, which leads to the nesting `m`: the line ends as it would
have, and at most one bracket is counted. -/
structure Follows (o : Overflow) (n : Nesting) (c : Char) (rest : Text) (m : Nesting) (move : Move) :
    Prop where
  ended : m.ended (move.left rest) = n.ended (c :: rest)
  size : m.size ≤ n.size + 1
  inLine : m.InLine (move.left rest)
  read : o.Allows (n.size + 1) (n.tally.step o c rest) (m.tally, move)

section

variable {o : Overflow} {n : Nesting} {c : Char} {rest : Text}

theorem follows_of_scan (region : Region) (move : Move)
    (same : scan n.region (c :: rest) = scan region (move.left rest))
    (inLine : Nesting.InLine { n with region } (move.left rest))
    (read : n.tally.step o c rest = some (Nesting.tally { n with region }, move)) :
    ∃ m move, Follows o n c rest m move :=
  ⟨{ n with region }, move, by rw [Nesting.ended, Nesting.ended, same]; rfl, Nat.le_succ _, inLine,
    .inl read⟩

theorem follows_of_bracket (code : n.region = .code) {b : Bracket}
    (counted : scan .code (c :: rest) = (b :: (scan .code rest).1, (scan .code rest).2))
    (read : n.tally.step o c rest = (n.tally.count o b).map (·, .next)) :
    ∃ m move, Follows o n c rest m move := by
  have kept : (n.count b).region = .code := by cases b <;> exact code
  have ended : (n.count b).ended rest = n.ended (c :: rest) := by
    rw [Nesting.ended, Nesting.ended, code, counted, kept, count_eq_after, Nesting.after_after]
    rfl
  refine ⟨n.count b, .next, ended, size_count_le n b, ?_, ?_⟩
  · rw [Nesting.InLine, kept]
    trivial
  · rw [read]
    exact (count_tally o n b).map _

end

section

variable (o : Overflow) (braces parens : Int) (c : Char) (rest : Text)

theorem follows_comment : ∃ m move, Follows o ⟨braces, parens, .comment⟩ c rest m move := by
  by_cases closes : c = '#' ∧ rest.head? = some '>'
  · obtain ⟨rfl, begins⟩ := closes
    obtain ⟨more, rfl⟩ := List.head?_eq_some_iff.mp begins
    exact follows_of_scan .code .skip rfl trivial rfl
  · have inside : Enclosure.comment.Holds [c] := fun mark => absurd mark.length_le (by simp)
    have goesOn := scan_cons inside fun _ hash begins => closes ⟨hash, begins⟩
    exact follows_of_scan .comment .next goesOn trivial
      (by simp [Tally.step, Nesting.tally, closes])

theorem follows_single : ∃ m move, Follows o ⟨braces, parens, .quoted .single⟩ c rest m move := by
  by_cases closes : c = '\''
  · subst closes
    exact follows_of_scan .code .next rfl trivial rfl
  · have inside : Enclosure.single.Holds [c] := fun mem => closes (List.mem_singleton.mp mem).symm
    exact follows_of_scan (.quoted .single) .next (scan_cons inside nofun) trivial
      (by simp [Tally.step, Nesting.tally, closes])

theorem follows_double : ∃ m move, Follows o ⟨braces, parens, .quoted .double⟩ c rest m move := by
  by_cases escapes : c = '\x60'
  · subst escapes
    have passes : scan (.quoted .double) ('\x60' :: rest) = scan (.quoted .double) rest.tail := by
      cases rest <;> rfl
    exact follows_of_scan (.quoted .double) .skip passes trivial rfl
  by_cases closes : c = '"'
  · subst closes
    exact follows_of_scan .code .next rfl trivial rfl
  · have inside : Enclosure.double.Holds [c] :=
      ⟨fun mem => closes (List.mem_singleton.mp mem).symm,
        fun mem => escapes (List.mem_singleton.mp mem).symm⟩
    exact follows_of_scan (.quoted .double) .next (scan_cons inside nofun) trivial
      (by simp [Tally.step, Nesting.tally])

theorem follows_code : ∃ m move, Follows o ⟨braces, parens, .code⟩ c rest m move := by
  let n : Nesting := ⟨braces, parens, .code⟩
  have step : n.tally.step o c rest = n.tally.stepCode o c rest := rfl
  unfold Tally.stepCode at step
  -- the characters that `stepCode` knows in its order, and then every other one
  split at step
  · have passes : scan .code ('\x60' :: rest) = scan .code rest.tail := by cases rest <;> rfl
    exact follows_of_scan .code .skip passes trivial step
  · by_cases comment : rest.head? = some '#'
    · obtain ⟨more, rfl⟩ := List.head?_eq_some_iff.mp comment
      exact follows_of_scan .comment .skip rfl trivial rfl
    · have goesOn : scan .code ('<' :: rest) = scan .code rest := by
        rw [scan] <;> grind
      rw [if_neg comment] at step
      exact follows_of_scan .code .next goesOn trivial step
  · exact follows_of_scan .code .stop rfl trivial step
  · by_cases double : rest = ['"']
    · subst double
      exact follows_of_scan (.hereString .double) .stop rfl rfl rfl
    by_cases single : rest = ['\'']
    · subst single
      exact follows_of_scan (.hereString .single) .stop rfl rfl rfl
    · have goesOn : scan .code ('@' :: rest) = scan .code rest := by
        rw [scan] <;> simp [double, single]
      rw [if_neg (by simp [double, single])] at step
      exact follows_of_scan .code .next goesOn trivial step
  · exact follows_of_scan (.quoted .single) .next rfl trivial step
  · exact follows_of_scan (.quoted .double) .next rfl trivial step
  · exact follows_of_bracket rfl rfl step
  · exact follows_of_bracket rfl rfl step
  · exact follows_of_bracket rfl rfl step
  · exact follows_of_bracket rfl rfl step
  · have goesOn : scan .code (c :: rest) = scan .code rest := by
      rw [scan] <;> grind
    exact follows_of_scan .code .next goesOn trivial step

end

theorem follows (o : Overflow) {n : Nesting} {c : Char} {rest : Text} (inLine : n.InLine (c :: rest)) :
    ∃ m move, Follows o n c rest m move := by
  obtain ⟨braces, parens, region⟩ := n
  cases region with
  | code => exact follows_code o braces parens c rest
  | quoted quote =>
    cases quote with
    | single => exact follows_single o braces parens c rest
    | double => exact follows_double o braces parens c rest
  | hereString quote => exact absurd inLine (List.cons_ne_nil c rest)
  | comment => exact follows_comment o braces parens c rest

theorem scan_nil (region : Region) : scan region [] = ([], region) := by
  rw [scan] <;> simp

theorem ended_nil (n : Nesting) : n.ended [] = n := by
  rw [Nesting.ended, scan_nil, Nesting.after_nil]

theorem readText_tally (o : Overflow) (n : Nesting) (s : Text) (inLine : n.InLine s) :
    o.Allows (n.size + s.length) (n.tally.readText o s) (n.ended s).tally := by
  match s with
  | [] =>
    rw [Tally.readText, ended_nil]
    exact .pure _
  | c :: rest =>
    -- by the length of the text, since a move may pass over a second character
    obtain ⟨m, move, follows⟩ := follows o inLine
    have later := readText_tally o m (move.left rest) follows.inLine
    rw [Tally.readText, ← follows.ended]
    have fewer := move.length_left_le rest
    have near := follows.size
    refine .bind (follows.read.mono ?_) (later.mono ?_)
    · rw [List.length_cons]
      omega
    · rw [List.length_cons]
      omega
termination_by s.length
decreasing_by exact Nat.lt_succ_of_le (move.length_left_le rest)

theorem length_scan_le (region : Region) (s : Text) : (scan region s).1.length ≤ s.length := by
  fun_induction scan region s <;> grind

theorem feed_tally_inLine (o : Overflow) {n : Nesting} {line : Text} (inLine : n.InLine (trimEnd line))
    (outside : n.tally.hereString = none) (feed : n.feed line = n.ended (trimEnd line)) :
    o.Allows (n.size + line.length) (n.tally.feed o line) (n.feed line).tally := by
  have read := readText_tally o n (trimEnd line) inLine
  rw [Tally.feed, outside, feed]
  exact read.mono (Nat.add_le_add_left (isPrefix_trimEnd line).length_le _)

theorem feed_tally_hereString (o : Overflow) (braces parens : Int) (quote : Quote) (line : Text) :
    let n : Nesting := ⟨braces, parens, .hereString quote⟩
    n.tally.feed o line = some (n.feed line).tally := by
  have closing : (trimStart line).startsWith [quote.char, '@'] = Nesting.closesHereString quote line := rfl
  cases closes : Nesting.closesHereString quote line <;>
    simp [Tally.feed, Nesting.tally, Nesting.feed, closing, closes]

theorem feed_tally (o : Overflow) (n : Nesting) (line : Text) :
    o.Allows (n.size + line.length) (n.tally.feed o line) (n.feed line).tally := by
  obtain ⟨braces, parens, region⟩ := n
  cases region with
  | code => exact feed_tally_inLine o trivial rfl (feed_eq _ line)
  | quoted quote => exact feed_tally_inLine o trivial rfl (feed_eq _ line)
  | hereString quote => exact .inl (feed_tally_hereString o braces parens quote line)
  | comment => exact feed_tally_inLine o trivial rfl (feed_eq _ line)

theorem inText_tally (n : Nesting) :
    (n.tally.hereString.isSome || n.tally.comment || n.tally.single || n.tally.double) =
      decide (n.region ≠ .code) := by
  obtain ⟨braces, parens, region⟩ := n
  cases region with
  | quoted quote => cases quote <;> rfl
  | code => rfl
  | hereString quote => rfl
  | comment => rfl

theorem feedExample_tally (o : Overflow) (n : Nesting) (line : Text) :
    n.tally.feedExample o line =
      if n.region = .code ∧ looksLikeProse line then some n.tally else n.tally.feed o line := by
  simp [Tally.feedExample, inText_tally]

theorem read_tally (o : Overflow) (n : Nesting) (fed : Fed) :
    o.Allows (n.size + fed.line.length) (n.tally.read o fed) (n.read fed).tally := by
  cases fed with
  | plain line => exact feed_tally o n line
  | ofExample line =>
    rw [Tally.read, feedExample_tally, Nesting.read, Nesting.feedExample]
    split
    case isTrue => exact .pure _
    case isFalse => exact feed_tally o n line

def characters (fed : List Fed) : Nat := (fed.flatMap Fed.line).length

theorem characters_cons (f : Fed) (rest : List Fed) :
    characters (f :: rest) = f.line.length + characters rest := by
  rw [characters, List.flatMap_cons, List.length_append, characters]

theorem length_counted_le (region : Region) (fed : Fed) :
    (fed.counted region).1.length ≤ fed.line.length := by
  have line (l : Text) : (counted region l).1.length ≤ l.length := by
    unfold counted
    split
    case h_1 => exact Nat.zero_le _
    case h_2 => exact (length_scan_le region _).trans (isPrefix_trimEnd l).length_le
  cases fed with
  | plain l => exact line l
  | ofExample l =>
    rw [Fed.counted]
    split
    case isTrue => exact Nat.zero_le _
    case isFalse => exact line l

theorem size_foldl_count_le (bs : List Bracket) (n : Nesting) :
    (bs.foldl Nesting.count n).size ≤ n.size + bs.length := by
  induction bs generalizing n with
  | nil => exact Nat.le_refl _
  | cons b rest ih =>
    calc (rest.foldl Nesting.count (n.count b)).size
        ≤ (n.count b).size + rest.length := ih (n.count b)
      _ ≤ n.size + 1 + rest.length := Nat.add_le_add_right (size_count_le n b) _
      _ = n.size + (b :: rest).length := by rw [List.length_cons, Nat.add_assoc, Nat.add_comm 1]

theorem size_after_le (n : Nesting) (bs : List Bracket) (region : Region) :
    (n.after bs region).size ≤ n.size + bs.length := by
  have counted := size_foldl_count_le bs n
  rwa [foldl_count] at counted

theorem size_read_le (n : Nesting) (fed : Fed) : (n.read fed).size ≤ n.size + fed.line.length := by
  rw [read_eq]
  exact (size_after_le n _ _).trans (Nat.add_le_add_left (length_counted_le _ _) _)

theorem size_foldl_read_le (fed : List Fed) (n : Nesting) :
    (fed.foldl Nesting.read n).size ≤ n.size + characters fed := by
  induction fed generalizing n with
  | nil => exact Nat.le_refl _
  | cons f rest ih =>
    have first := size_read_le n f
    have later := ih (n.read f)
    rw [List.foldl_cons, characters_cons]
    omega

theorem foldlM_read_tally (o : Overflow) (fed : List Fed) (n : Nesting) :
    o.Allows (n.size + characters fed) (fed.foldlM (Tally.read o) n.tally)
      (fed.foldl Nesting.read n).tally := by
  induction fed generalizing n with
  | nil => exact .pure _
  | cons f rest ih =>
    have near := size_read_le n f
    rw [List.foldlM_cons, List.foldl_cons, characters_cons]
    exact .bind ((read_tally o n f).mono (by omega)) ((ih (n.read f)).mono (by omega))

/-- At most one sort of text is open, a here-string is opened by a quote, and the counters together are no
further from zero than so many characters. -/
structure Tally.Sound (t : Tally) (chars : Nat) : Prop where
  oneOpen : t.openTexts ≤ 1
  quote : ∀ q, t.hereString = some q → q = '\'' ∨ q = '"'
  counters : t.braces.toInt.natAbs + t.parens.toInt.natAbs ≤ chars

theorem openTexts_tally (n : Nesting) : n.tally.openTexts = if n.region = .code then 0 else 1 := by
  obtain ⟨braces, parens, region⟩ := n
  cases region with
  | quoted quote => cases quote <;> rfl
  | code => rfl
  | hereString quote => rfl
  | comment => rfl

theorem sound_tally {n : Nesting} {chars : Nat} (near : n.size ≤ chars) : n.tally.Sound chars where
  oneOpen := by
    rw [openTexts_tally]
    split <;> decide
  quote q opened := by
    obtain ⟨braces, parens, region⟩ := n
    cases region with
    | hereString quote =>
      obtain rfl : quote.char = q := Option.some.inj opened
      cases quote with
      | single => exact .inl rfl
      | double => exact .inr rfl
    | code => contradiction
    | quoted quote => contradiction
    | comment => contradiction
  counters := (Nat.add_le_add (natAbs_toInt_ofInt_le _) (natAbs_toInt_ofInt_le _)).trans near

/-- A fresh tally given any lines shows their nesting, whether sums wrap around or fail. At most one sort of
text is then open, and the counters are no further from zero than there were characters. So before 2³¹
characters no sum fails, and the counters are those of the nesting. -/
theorem tally_sound (o : Overflow) (fed : List Fed) :
    let result := fed.foldlM (Tally.read o) .fresh
    let n := fed.foldl Nesting.read .start
    let chars := characters fed
    n.braces.natAbs + n.parens.natAbs ≤ chars ∧
    (∀ t, result = some t → t = n.tally ∧ t.Sound chars ∧
      (chars < 2 ^ 31 → t.braces.toInt = n.braces ∧ t.parens.toInt = n.parens)) ∧
    (result = none → o = .fails ∧ 2 ^ 31 ≤ chars) := by
  intro result n chars
  have all : Nesting.start.size + chars = chars := Nat.zero_add chars
  have near : n.size ≤ chars := (size_foldl_read_le fed .start).trans_eq all
  have follows : o.Allows chars result n.tally := (foldlM_read_tally o fed .start).mono all.le
  refine ⟨near, ?_, ?_⟩
  · intro t read
    obtain same | ⟨failed, -⟩ := follows
    · obtain rfl : n.tally = t := Option.some.inj (same.symm.trans read)
      refine ⟨rfl, sound_tally near, fun few => ?_⟩
      have small : n.braces.natAbs + n.parens.natAbs < 2 ^ 31 := near.trans_lt few
      exact ⟨toInt_ofInt_of_near (by omega), toInt_ofInt_of_near (by omega)⟩
    · exact absurd (failed.symm.trans read) nofun
  · intro failed
    obtain same | ⟨-, far⟩ := follows
    · exact absurd (failed.symm.trans same) nofun
    · exact far

theorem tally_sound_hereString :
    let fed := [Fed.ofExample "foreach ($i in $items) \x7b <# it's", .plain "\x7b old #> )",
      .ofExample "  $text = @\""]
    ∃ t, fed.foldlM (Tally.read .fails) .fresh = some t ∧ t.Sound (characters fed) ∧
      t.braces.toInt = 1 ∧ t.parens.toInt = -1 ∧ t.hereString = some '"' := by
  intro fed
  have few : characters fed < 2 ^ 31 := by decide
  have nesting : fed.foldl Nesting.read .start = ⟨1, -1, .hereString .double⟩ := by decide +kernel
  obtain ⟨-, shown, failed⟩ := tally_sound .fails fed
  cases result : fed.foldlM (Tally.read .fails) .fresh with
  | none => exact absurd few (Nat.not_lt.mpr (failed result).2)
  | some t =>
    obtain ⟨same, sound, counters⟩ := shown t result
    rw [nesting] at same counters
    exact ⟨t, rfl, sound, (counters few).1, (counters few).2, by rw [same]; rfl⟩

end ModuleDocs.Example
