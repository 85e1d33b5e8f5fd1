import ModuleDocs.Proofs.Text.Digits
import ModuleDocs.Proofs.Text.Split
import ModuleDocs.Proofs.Toml.Quoted
import ModuleDocs.Toml.Document

namespace ModuleDocs.Toml

def Value.toJson : Value → Json
  | .text t => .str t
  | .texts ts => Json.ofTexts ts
  | .flag b => .bool b
  | .count n => .num (.int n)

theorem takeWhile_append_cons {p : Char → Bool} {word : Text} (all : ∀ c ∈ word, p c = true)
    {d : Char} (stop : p d = false) (rest : Text) : (word ++ d :: rest).takeWhile p = word := by
  rw [List.takeWhile_append_of_pos all, List.takeWhile_cons, stop]
  exact List.append_nil word

theorem scalarText_append {word : Text} (all : ∀ c ∈ word, isScalarChar c = true) {d : Char}
    (stop : isScalarChar d = false) (notBlank : d ≠ ' ') (rest : Text) :
    scalarText (word ++ d :: rest) = (word, d :: rest) := by
  unfold scalarText
  simp only [takeWhile_append_cons all stop, List.drop_left]
  split
  case h_1 _ _ begins => exact absurd (List.cons.inj begins).1 notBlank
  case h_2 => rfl

theorem digits?_isDigit {s : Text} (digits : ∀ c ∈ s, c.isDigit = true) (some_ : s ≠ []) :
    digits? Char.isDigit s = some s := by
  have underscore : '_' ∉ s := fun mem => absurd (digits '_' mem) (by decide)
  unfold digits?
  rw [Text.splitOn_eq_singleton underscore]
  simp only [List.all_cons, List.all_nil, List.flatten_cons, List.flatten_nil, List.append_nil]
  rw [if_pos]
  simpa [some_] using digits

theorem wholeDigits?_ofNat (n : Nat) : wholeDigits? (Text.ofNat n) = some (Text.ofNat n) := by
  unfold wholeDigits?
  rw [digits?_isDigit (fun _ => Text.isDigit_of_mem_ofNat) (Text.ofNat_ne_nil n),
    Option.filter_some, if_pos]
  by_cases positive : 0 < n
  case pos => simpa using .inr (Text.head?_ofNat positive)
  case neg =>
    have zero : n = 0 := by omega
    subst zero
    rfl

theorem signed_ofNat (n : Nat) : signed (Text.ofNat n) = (false, Text.ofNat n) := by
  have digits : ∀ c ∈ Text.ofNat n, c.isDigit = true := fun _ => Text.isDigit_of_mem_ofNat
  generalize Text.ofNat n = s at digits
  unfold signed
  split
  · exact absurd (digits '-' List.mem_cons_self) (by decide)
  · exact absurd (digits '+' List.mem_cons_self) (by decide)
  · rfl

theorem fitting?_natCast {n : Nat} (fits : n < 9223372036854775808) :
    fitting? (n : Int) = some (n : Int) := by
  have low : (-9223372036854775808 : Int) ≤ n := by omega
  have high : (n : Int) < 9223372036854775808 := by omega
  exact if_pos ⟨low, high⟩

theorem integer?_ofNat {n : Nat} (fits : n < 9223372036854775808) :
    integer? (Text.ofNat n) = some (n : Int) := by
  have based (letter : Char) (rest : Text) : Text.ofNat n ≠ '0' :: letter :: rest :=
    fun begins => absurd (Text.ofNat_eq_of_head? begins) (by simp)
  rw [integer?]
  · rw [signed_ofNat]
    dsimp only
    rw [wholeDigits?_ofNat, Option.bind_eq_bind, Option.bind_some, Text.numberIn_ofNat]
    exact fitting?_natCast fits
  · exact based 'x'
  · exact based 'o'
  · exact based 'b'

theorem scalar?_ofNat {n : Nat} (fits : n < 9223372036854775808) :
    scalar? (Text.ofNat n) = some (.num (.int n)) := by
  have word (w : Text) (letter : Char) (mem : letter ∈ w) (other : letter.isDigit = false) :
      Text.ofNat n ≠ w := by
    rintro rfl
    rw [Text.isDigit_of_mem_ofNat mem] at other
    contradiction
  unfold scalar?
  rw [if_neg (word _ 't' (by decide) (by decide)), if_neg (word _ 'f' (by decide) (by decide)),
    integer?_ofNat fits]

theorem isScalarChar_of_isDigit {c : Char} (digit : c.isDigit = true) : isScalarChar c = true := by
  simp [isScalarChar, Char.isAlphanum, digit]

structure Mark (c : Char) : Prop where
  notBlank : isBlank c = false
  notComment : c ≠ '#'
  notNewline : c ≠ '\n'
  notReturn : c ≠ '\r'

theorem skipBlanks_mark {c : Char} (mark : Mark c) (rest : Text) :
    skipBlanks (c :: rest) = c :: rest := by
  rw [skipBlanks, List.dropWhile_cons, mark.notBlank]
  rfl

theorem skipComment?_cons {c : Char} (other : c ≠ '#') (rest : Text) :
    skipComment? (c :: rest) = some (c :: rest) := by
  unfold skipComment?
  split
  case h_1 _ begins => exact absurd (List.cons.inj begins).1 other
  case h_2 => rfl

theorem lineEnd?_mark {c : Char} (mark : Mark c) (rest : Text) : lineEnd? (c :: rest) = none := by
  have newline := mark.notNewline
  have return_ := mark.notReturn
  rw [lineEnd?] <;> simp_all

theorem skipLines?_mark {c : Char} (mark : Mark c) (fuel : Nat) (rest : Text) :
    skipLines? fuel (c :: rest) = some (c :: rest) := by
  cases fuel with
  | zero => rfl
  | succ fuel =>
    simp [skipLines?, skipBlanks_mark mark, skipComment?_cons mark.notComment, lineEnd?_mark mark]

theorem skipLines?_newline (fuel : Nat) (rest : Text) :
    skipLines? (fuel + 1) ('\n' :: rest) = skipLines? fuel rest := by
  have blanks : skipBlanks ('\n' :: rest) = '\n' :: rest := rfl
  simp [skipLines?, blanks, skipComment?_cons, lineEnd?]

theorem skipLines?_indented {c : Char} (mark : Mark c) (fuel : Nat) (rest : Text) :
    skipLines? (fuel + 1) ("    ".toList ++ c :: rest) = some (c :: rest) := by
  have blanks : skipBlanks ("    ".toList ++ c :: rest) = c :: rest := skipBlanks_mark mark rest
  rw [skipLines?, blanks, skipComment?_cons mark.notComment]
  simp [lineEnd?_mark mark]

theorem value?_quote (depth : Nat) (t : Text) {d : Char} (double : d ≠ '"') (single : d ≠ '\'')
    (rest : Text) : value? depth (quote t ++ d :: rest) = some (.str t, d :: rest) := by
  have read := string?_quote t double single rest
  obtain ⟨q, tail, begins, quotes⟩ := quote_eq_cons t
  rw [begins, List.cons_append] at read ⊢
  rcases quotes with rfl | rfl
  · rw [value?, read]
    rfl
  · rw [value?, read]
    rfl

theorem quote_begins (t rest : Text) :
    ∃ c tail, quote t ++ rest = c :: tail ∧ Mark c ∧ c ≠ ']' := by
  obtain ⟨q, tail, begins, quotes⟩ := quote_eq_cons t
  refine ⟨q, tail ++ rest, by rw [begins, List.cons_append], ?_⟩
  rcases quotes with rfl | rfl <;> exact ⟨by constructor <;> decide, by decide⟩

theorem mark_bracket : Mark ']' := by constructor <;> decide

theorem mark_comma : Mark ',' := by constructor <;> decide

theorem items?_close (read : Text → Option (Json × Text)) (fuel : Nat) {s after : Text}
    (skipped : skipLines? s.length s = some (']' :: after)) :
    items? read (fuel + 1) s = some ([], after) := by
  simp [items?, skipped]

theorem items?_last {read : Text → Option (Json × Text)} (fuel : Nat) {s rest after tail : Text}
    {c : Char} {v : Json} (skipped : skipLines? s.length s = some (c :: tail)) (other : c ≠ ']')
    (item : read (c :: tail) = some (v, rest))
    (close : skipLines? rest.length rest = some (']' :: after)) :
    items? read (fuel + 1) s = some ([v], after) := by
  simp [items?, skipped, other, item, close]

theorem items?_more {read : Text → Option (Json × Text)} (fuel : Nat) {s rest next tail : Text}
    {c : Char} {v : Json} (skipped : skipLines? s.length s = some (c :: tail)) (other : c ≠ ']')
    (item : read (c :: tail) = some (v, rest))
    (comma : skipLines? rest.length rest = some (',' :: next)) :
    items? read (fuel + 1) s =
      (items? read fuel next).map fun (vs, after) => (v :: vs, after) := by
  simp [items?, skipped, other, item, comma]

theorem items?_lines (depth : Nat) (ts : List Text) {fuel : Nat} (enough : ts.length < fuel)
    (after : Text) :
    items? (value? depth) fuel ('\n' :: (ts.flatMap writeItem ++ ']' :: after)) =
      some (ts.map .str, after) := by
  induction ts generalizing fuel with
  | nil =>
    obtain ⟨fuel, rfl⟩ := Nat.exists_eq_succ_of_ne_zero (Nat.ne_of_gt enough)
    apply items?_close
    rw [List.length_cons, skipLines?_newline]
    exact skipLines?_mark mark_bracket _ _
  | cons t more ih =>
    rw [List.length_cons] at enough
    obtain ⟨fuel, rfl⟩ := Nat.exists_eq_succ_of_ne_zero (Nat.ne_of_gt (by omega : 0 < fuel))
    have lines := ih (by omega : more.length < fuel)
    rw [List.flatMap_cons, List.append_assoc]
    generalize more.flatMap writeItem ++ ']' :: after = next at lines
    have item := value?_quote depth t (d := ',') (by decide) (by decide) ('\n' :: next)
    obtain ⟨c, tail, begins, mark, other⟩ := quote_begins t (',' :: '\n' :: next)
    rw [begins] at item
    have shape : writeItem t ++ next = "    ".toList ++ c :: tail := by
      rw [← begins]
      simp [writeItem]
    have skipped : skipLines? ("    ".toList ++ c :: tail).length ("    ".toList ++ c :: tail) =
        some (c :: tail) := skipLines?_indented mark _ tail
    rw [shape, items?_more fuel (by rw [List.length_cons, skipLines?_newline, skipped]) other item
      (skipLines?_mark mark_comma _ _), lines]
    rfl

theorem length_le_writeItems (ts : List Text) : ts.length ≤ (ts.flatMap writeItem).length := by
  induction ts with
  | nil => exact Nat.le_refl 0
  | cons t more ih =>
    have line : 1 ≤ (writeItem t).length := Nat.le_add_left 1 _
    rw [List.flatMap_cons, List.length_append, List.length_cons]
    omega

theorem value?_texts (depth : Nat) (ts : List Text) (rest : Text) :
    value? (depth + 1) (writeTexts ts ++ rest) = some (Json.ofTexts ts, rest) := by
  have list (s after : Text) (read : items? (value? depth) (s.length + 1) s =
      some (ts.map .str, after)) :
      value? (depth + 1) ('[' :: s) = some (Json.ofTexts ts, after) := by
    rw [value?, read]
    rfl
  match ts with
  | [] => exact list (']' :: rest) rest (items?_close _ _ (skipLines?_mark mark_bracket _ _))
  | [t] =>
    obtain ⟨c, tail, begins, mark, other⟩ := quote_begins t (']' :: rest)
    have item := value?_quote depth t (d := ']') (by decide) (by decide) rest
    have shape : writeTexts [t] ++ rest = '[' :: c :: tail := by
      rw [← begins]
      simp [writeTexts]
    rw [begins] at item
    rw [shape]
    exact list _ rest (items?_last _ (skipLines?_mark mark _ _) other item
      (skipLines?_mark mark_bracket _ _))
  | t :: u :: more =>
    have shape : writeTexts (t :: u :: more) ++ rest =
        '[' :: '\n' :: ((t :: u :: more).flatMap writeItem ++ ']' :: rest) := by
      simp [writeTexts]
    rw [shape]
    apply list
    apply items?_lines
    have few := length_le_writeItems (t :: u :: more)
    have whole : ('\n' :: ((t :: u :: more).flatMap writeItem ++ ']' :: rest)).length =
        ((t :: u :: more).flatMap writeItem).length + rest.length + 2 := by
      simp only [List.length_cons, List.length_append]
      omega
    omega

theorem value?_word (depth : Nat) {word : Text} (all : ∀ c ∈ word, isScalarChar c = true)
    (nonempty : word ≠ []) {v : Json} (read : scalar? word = some v) (rest : Text) :
    value? depth (word ++ '\n' :: rest) = some (v, '\n' :: rest) := by
  have split_ := scalarText_append all (d := '\n') (by decide) (by decide) rest
  obtain ⟨c, tail, rfl⟩ := List.exists_cons_of_ne_nil nonempty
  have letter : isScalarChar c = true := all c List.mem_cons_self
  have other (d : Char) (stop : isScalarChar d = false) (s t : Text) : c :: s ≠ d :: t := by
    intro same
    rw [(List.cons.inj same).1, stop] at letter
    contradiction
  rw [List.cons_append] at split_ ⊢
  rw [value?]
  · rw [split_]
    simp only [read, Option.map_some]
  · exact other '"' (by decide) _
  · exact other '\'' (by decide) _
  · exact other '[' (by decide) _
  · exact other '\x7b' (by decide) _

theorem value?_flag (depth : Nat) (b : Bool) (rest : Text) :
    value? depth ((if b then "true" else "false" : Text) ++ '\n' :: rest) =
      some (.bool b, '\n' :: rest) := by
  have letters : "true".toList.all isScalarChar = true ∧ "false".toList.all isScalarChar = true :=
    ⟨rfl, rfl⟩
  cases b with
  | true =>
    exact value?_word depth (List.all_eq_true.mp letters.1) (List.cons_ne_nil _ _) rfl rest
  | false =>
    exact value?_word depth (List.all_eq_true.mp letters.2) (List.cons_ne_nil _ _) rfl rest

theorem value?_count (depth : Nat) {n : Nat} (fits : n < 9223372036854775808) (rest : Text) :
    value? depth (Text.ofNat n ++ '\n' :: rest) = some (.num (.int n), '\n' :: rest) :=
  value?_word depth (fun _ mem => isScalarChar_of_isDigit (Text.isDigit_of_mem_ofNat mem))
    (Text.ofNat_ne_nil n) (scalar?_ofNat fits) rest

theorem fitting?_eq_some {n m : Int} (fits : fitting? n = some m) :
    m = n ∧ n < 9223372036854775808 := by
  unfold fitting? at fits
  split at fits
  case isTrue bounds => exact ⟨(Option.some.inj fits).symm, bounds.2⟩
  case isFalse => cases fits

theorem writeInteger?_natCast {n : Nat} {s : Text} (written : writeInteger? n = some s) :
    n < 9223372036854775808 ∧ s = Text.ofNat n := by
  obtain ⟨m, fits, rfl⟩ := Option.map_eq_some_iff.mp written
  obtain ⟨rfl, high⟩ := fitting?_eq_some fits
  refine ⟨by omega, ?_⟩
  rw [if_neg (by omega), Int.natAbs_natCast]

theorem value?_writeValue (depth : Nat) {v : Value} {s : Text} (written : writeValue? v = some s)
    (rest : Text) : value? (depth + 1) (s ++ '\n' :: rest) = some (v.toJson, '\n' :: rest) := by
  cases v with
  | text t =>
    obtain rfl := Option.some.inj written
    exact value?_quote _ t (by decide) (by decide) rest
  | texts ts =>
    obtain rfl := Option.some.inj written
    exact value?_texts depth ts ('\n' :: rest)
  | flag b =>
    obtain rfl := Option.some.inj written
    exact value?_flag _ b rest
  | count n =>
    obtain ⟨fits, rfl⟩ := writeInteger?_natCast written
    exact value?_count _ fits rest

theorem writeInteger?_of_lt {n : Nat} (fits : n < 9223372036854775808) :
    writeInteger? n = some (Text.ofNat n) := by
  rw [writeInteger?, fitting?_natCast fits, Option.map_some, if_neg (by omega), Int.natAbs_natCast]

end ModuleDocs.Toml
