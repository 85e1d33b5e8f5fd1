import ModuleDocs.Toml.Quoted

namespace ModuleDocs.Toml

structure Plain (c : Char) : Prop where
  notControl : isControl c = false
  notQuote : c ≠ '"'
  notSlash : c ≠ '\\'
  notNewline : c ≠ '\n'
  notReturn : c ≠ '\r'

inductive Escaped : Char → Text → Prop where
  | plain {c : Char} : Plain c → Escaped c [c]
  | named {c letter : Char} : named? letter = some c → Escaped c ['\\', letter]
  | numbered {c high low : Char} : numbered? ['0', '0', high, low] = some c →
      Plain high → Plain low → Escaped c ['\\', 'u', '0', '0', high, low]

theorem plain_hexUpper : ∀ d, d < 16 → Plain (Text.hexUpper d) := by
  have digits : ∀ d, d < 16 → isControl (Text.hexUpper d) = false ∧ Text.hexUpper d ≠ '"' ∧
      Text.hexUpper d ≠ '\\' ∧ Text.hexUpper d ≠ '\n' ∧ Text.hexUpper d ≠ '\r' := by decide
  intro d small
  obtain ⟨control, quote, slash, newline, return_⟩ := digits d small
  exact ⟨control, quote, slash, newline, return_⟩

theorem numbered?_hexUpper : ∀ n, n < 128 →
    numbered? ['0', '0', Text.hexUpper (n / 16), Text.hexUpper (n % 16)] = some (Char.ofNat n) := by
  decide +kernel

theorem toNat_lt_of_isControl {c : Char} (control : isControl c = true) : c.toNat < 128 := by
  simp only [isControl, Bool.or_eq_true, Bool.and_eq_true, decide_eq_true_eq, beq_iff_eq] at control
  omega

theorem escaped_escape (c : Char) : Escaped c (escape c) := by
  unfold escape
  split
  case h_8 notBell notTab notNewline notFeed notReturn notQuote notSlash =>
    split
    case isTrue control =>
      have small := toNat_lt_of_isControl control
      have number := numbered?_hexUpper c.toNat small
      rw [Char.ofNat_toNat] at number
      exact .numbered number (plain_hexUpper _ (by omega)) (plain_hexUpper _ (by omega))
    case isFalse control =>
      exact .plain ⟨by simpa using control, notQuote, notSlash, notNewline, notReturn⟩
  all_goals exact .named rfl

theorem named?_eq_some {letter c : Char} (h : named? letter = some c) :
    letter ≠ 'u' ∧ letter ≠ 'U' ∧ isBlank letter = false ∧ letter ≠ '\n' ∧ letter ≠ '\r' := by
  unfold named? at h
  split at h
  case h_8 => exact absurd h (by simp)
  all_goals decide

theorem unescape?_plain {c : Char} (control : isControl c = false) (slash : c ≠ '\\')
    (rest : Text) : unescape? (c :: rest) = (unescape? rest).map (c :: ·) := by
  rw [unescape?]
  · simp [control, slash]
  all_goals simp_all

theorem unescape?_named {letter c : Char} (h : named? letter = some c) (rest : Text) :
    unescape? ('\\' :: letter :: rest) = (unescape? rest).map (c :: ·) := by
  obtain ⟨small, large, -, -, -⟩ := named?_eq_some h
  rw [unescape?]
  · rw [h]
    cases unescape? rest <;> rfl
  all_goals simp_all

theorem unescape?_escaped {c : Char} {written : Text} (form : Escaped c written) (rest : Text) :
    unescape? (written ++ rest) = (unescape? rest).map (c :: ·) := by
  cases form with
  | plain h => exact unescape?_plain h.notControl h.notSlash rest
  | named h => exact unescape?_named h rest
  | numbered h _ _ =>
    simp only [List.cons_append, List.nil_append]
    rw [unescape?, h]
    cases unescape? rest <;> rfl

theorem unescape?_flatMap (s : Text) : unescape? (s.flatMap escape) = some s := by
  induction s with
  | nil => rfl
  | cons c rest ih => rw [List.flatMap_cons, unescape?_escaped (escaped_escape c), ih, Option.map_some]

theorem unescape?_escapeBlock (quotes : Nat) (s : Text) :
    unescape? (escapeBlock quotes s) = some s := by
  fun_induction escapeBlock quotes s with
  | case1 => rfl
  | case2 _ rest ih => rw [unescape?_plain (by decide) (by decide), ih, Option.map_some]
  | case3 quotes rest _ ih => rw [unescape?_named rfl, ih, Option.map_some]
  | case4 quotes rest _ ih => rw [unescape?_plain (by decide) (by decide), ih, Option.map_some]
  | case5 _ c rest _ _ ih => rw [unescape?_escaped (escaped_escape c), ih, Option.map_some]

theorem basicBody?_plain {c : Char} (h : Plain c) (rest : Text) :
    basicBody? (c :: rest) = (basicBody? rest).map fun (s, after) => (c :: s, after) := by
  have quote := h.notQuote
  have slash := h.notSlash
  have newline := h.notNewline
  rw [basicBody?] <;> simp_all

theorem basicBody?_escaped {c : Char} {written : Text} (form : Escaped c written) (rest : Text) :
    basicBody? (written ++ rest) =
      (basicBody? rest).map fun (s, after) => (written ++ s, after) := by
  cases form with
  | plain h => exact basicBody?_plain h rest
  | named h => simp [basicBody?]
  | numbered _ high low =>
    have zero : Plain '0' := by constructor <;> decide
    simp only [List.cons_append, List.nil_append]
    rw [basicBody?, basicBody?_plain zero, basicBody?_plain zero, basicBody?_plain high,
      basicBody?_plain low]
    simp [Option.map_map, Function.comp_def]

theorem basicBody?_flatMap (s rest : Text) :
    basicBody? (s.flatMap escape ++ '"' :: rest) = some (s.flatMap escape, rest) := by
  induction s with
  | nil => rfl
  | cons c more ih =>
    rw [List.flatMap_cons, List.append_assoc, basicBody?_escaped (escaped_escape c), ih,
      Option.map_some]

theorem literalBody?_append {s : Text} (quote : '\'' ∉ s) (newline : '\n' ∉ s) (rest : Text) :
    literalBody? (s ++ '\'' :: rest) = some (s, rest) := by
  induction s with
  | nil => rfl
  | cons c more ih =>
    rw [List.mem_cons, not_or] at quote newline
    rw [List.cons_append, literalBody?, ih quote.2 newline.2, Option.map_some]
    · exact fun h => quote.1 h.symm
    · exact fun h => newline.1 h.symm

theorem blockEnd_replicate {q : Char} {count : Nat} (few : count ≤ 2) {d : Char} (other : d ≠ q)
    (rest : Text) : blockEnd q (List.replicate count q ++ d :: rest) =
      (List.replicate count q, d :: rest) := by
  have stop : (d == q) = false := by simpa using other
  have run : ((List.replicate count q ++ d :: rest).takeWhile (· == q)).length = count := by
    rw [List.takeWhile_append_of_pos (by simp), List.takeWhile_cons, stop]
    simp
  have within : min 2 count = count := by omega
  rw [blockEnd, run, within, List.drop_left' List.length_replicate]

theorem basicBlockBody?_plain {c : Char} (quote : c ≠ '"') (slash : c ≠ '\\') (rest : Text) :
    basicBlockBody? (c :: rest) = (basicBlockBody? rest).map fun (s, after) => (c :: s, after) := by
  rw [basicBlockBody?] <;> simp_all

theorem basicBlockBody?_quotes {count : Nat} (few : count ≤ 2) {rest : Text}
    (other : rest.head? ≠ some '"') :
    basicBlockBody? (List.replicate count '"' ++ rest) =
      (basicBlockBody? rest).map fun (s, after) => (List.replicate count '"' ++ s, after) := by
  have single : basicBlockBody? ('"' :: rest) =
      (basicBlockBody? rest).map fun (s, after) => ('"' :: s, after) := by
    rw [basicBlockBody?]
    · intro more _ begins
      exact other (by rw [begins]; rfl)
    · simp
  match count, few with
  | 0, _ => simp
  | 1, _ => exact single
  | 2, _ =>
    rw [show List.replicate 2 '"' = ['"', '"'] from rfl, List.cons_append, List.singleton_append,
      basicBlockBody?, single]
    · simp [Option.map_map, Function.comp_def]
    · intro more _ begins
      rw [List.cons.injEq] at begins
      exact other (by rw [begins.2]; rfl)
    · simp

theorem basicBlockBody?_escaped {c : Char} {written : Text} (form : Escaped c written)
    (rest : Text) : basicBlockBody? (written ++ rest) =
      (basicBlockBody? rest).map fun (s, after) => (written ++ s, after) := by
  cases form with
  | plain h => exact basicBlockBody?_plain h.notQuote h.notSlash rest
  | named h => simp [basicBlockBody?]
  | numbered _ high low =>
    have zero : Plain '0' := by constructor <;> decide
    simp only [List.cons_append, List.nil_append]
    rw [basicBlockBody?, basicBlockBody?_plain zero.notQuote zero.notSlash,
      basicBlockBody?_plain zero.notQuote zero.notSlash,
      basicBlockBody?_plain high.notQuote high.notSlash,
      basicBlockBody?_plain low.notQuote low.notSlash]
    simp [Option.map_map, Function.comp_def]

theorem Escaped.head? {c : Char} {written : Text} (form : Escaped c written) (rest : Text) :
    ∃ d, (written ++ rest).head? = some d ∧ d ≠ '"' ∧ d ≠ '\n' ∧ d ≠ '\r' := by
  cases form with
  | plain h => exact ⟨c, rfl, h.notQuote, h.notNewline, h.notReturn⟩
  | named _ => exact ⟨'\\', rfl, by decide⟩
  | numbered _ _ _ => exact ⟨'\\', rfl, by decide⟩

/-- The induction carries the plain quotes that stand just before. -/
theorem basicBlockBody?_escapeBlock {quotes : Nat} (few : quotes ≤ 2) (s : Text) {d : Char}
    (other : d ≠ '"') (rest : Text) :
    basicBlockBody?
        (List.replicate quotes '"' ++ (escapeBlock quotes s ++ tripled '"' ++ d :: rest)) =
      some (List.replicate quotes '"' ++ escapeBlock quotes s, d :: rest) := by
  fun_induction escapeBlock quotes s with
  | case1 quotes =>
    have moved : List.replicate quotes '"' ++ ([] ++ tripled '"' ++ d :: rest) =
        '"' :: '"' :: '"' :: (List.replicate quotes '"' ++ d :: rest) := by
      match quotes, few with
      | 0, _ => rfl
      | 1, _ => rfl
      | 2, _ => rfl
    rw [moved, basicBlockBody?, blockEnd_replicate few other, List.append_nil]
  | case2 quotes more ih =>
    have ends := ih (by omega)
    simp only [List.replicate_zero, List.nil_append] at ends
    rw [basicBlockBody?_quotes few (by simp), List.cons_append, List.cons_append,
      basicBlockBody?_plain (by decide) (by decide), ends]
    rfl
  | case3 quotes more full ih =>
    have ends := ih (by omega)
    simp only [List.replicate_zero, List.nil_append] at ends
    rw [basicBlockBody?_quotes few (by simp)]
    simp only [List.cons_append]
    rw [basicBlockBody?, ends]
    rfl
  | case4 quotes more room ih =>
    have ends := ih (by omega)
    simp only [List.replicate_succ', List.append_assoc, List.singleton_append] at ends
    simpa only [List.append_assoc, List.cons_append] using ends
  | case5 quotes c more _ _ ih =>
    have ends := ih (by omega)
    simp only [List.replicate_zero, List.nil_append] at ends
    obtain ⟨first, head, notQuote, -, -⟩ :=
      (escaped_escape c).head? (escapeBlock 0 more ++ tripled '"' ++ d :: rest)
    rw [List.append_assoc, List.append_assoc, ← List.append_assoc (escapeBlock 0 more)]
    rw [basicBlockBody?_quotes few (by rw [head]; simpa using notQuote),
      basicBlockBody?_escaped (escaped_escape c), ends]
    rfl

theorem literalBlockBody?_step {c : Char} {rest : Text}
    (continues : ∀ more, c = '\'' → rest ≠ '\'' :: '\'' :: more) :
    literalBlockBody? (c :: rest) =
      (literalBlockBody? rest).map fun (s, after) => (c :: s, after) := by
  rw [literalBlockBody?]
  exact continues

theorem literalBlockBody?_append {s : Text} (three : hasThree '\'' s = false) {d : Char}
    (other : d ≠ '\'') (rest : Text) :
    literalBlockBody? (s ++ (tripled '\'' ++ d :: rest)) = some (s, d :: rest) := by
  induction s with
  | nil => exact congrArg some (blockEnd_replicate (Nat.zero_le 2) other rest)
  | cons c more ih =>
    rw [hasThree, Text.contains, Bool.or_eq_false_iff] at three
    have ends := ih three.2
    by_cases quote : c = '\''
    case neg =>
      rw [List.cons_append, literalBlockBody?_step fun _ same => absurd same quote, ends]
      rfl
    case pos =>
      subst quote
      match more, three.1 with
      | [], _ => exact congrArg some (blockEnd_replicate (Nat.le_succ 1) other rest)
      | [e], _ =>
        by_cases quote : e = '\''
        · subst quote
          exact congrArg some (blockEnd_replicate (Nat.le_refl 2) other rest)
        · rw [List.cons_append, literalBlockBody?_step (by simp [quote]), ends]
          rfl
      | e :: f :: more, notThree =>
        rw [List.cons_append, literalBlockBody?_step, ends]
        · rfl
        · rintro _ _ begins
          simp only [List.cons_append, List.cons.injEq] at begins
          simp [begins.1, begins.2.1] at notThree

theorem joinLines?_plain {c : Char} (slash : c ≠ '\\') (rest : Text) :
    joinLines? false (c :: rest) = (joinLines? false rest).map (c :: ·) := by
  rw [joinLines?]
  · simp
  · intro _ _ same
    exact absurd same slash

theorem joinLines?_named {letter c : Char} (h : named? letter = some c) (rest : Text) :
    joinLines? false ('\\' :: letter :: rest) =
      (joinLines? false rest).map fun s => '\\' :: letter :: s := by
  obtain ⟨-, -, blank, newline, -⟩ := named?_eq_some h
  simp [joinLines?, blank, newline]

theorem joinLines?_escaped {c : Char} {written : Text} (form : Escaped c written) (rest : Text) :
    joinLines? false (written ++ rest) = (joinLines? false rest).map (written ++ ·) := by
  cases form with
  | plain h => exact joinLines?_plain h.notSlash rest
  | named h => exact joinLines?_named h rest
  | numbered _ high low =>
    have zero : Plain '0' := by constructor <;> decide
    have letter : (isBlank 'u' || 'u' == '\n') = false := by decide
    simp only [List.cons_append, List.nil_append]
    rw [joinLines?, letter, joinLines?_plain zero.notSlash, joinLines?_plain zero.notSlash,
      joinLines?_plain high.notSlash, joinLines?_plain low.notSlash]
    simp [Option.map_map, Function.comp_def]

theorem joinLines?_escapeBlock (quotes : Nat) (s : Text) :
    joinLines? false (escapeBlock quotes s) = some (escapeBlock quotes s) := by
  fun_induction escapeBlock quotes s with
  | case1 => rfl
  | case2 _ rest ih => rw [joinLines?_plain (by decide), ih, Option.map_some]
  | case3 quotes rest _ ih => rw [joinLines?_named rfl, ih, Option.map_some]
  | case4 quotes rest _ ih => rw [joinLines?_plain (by decide), ih, Option.map_some]
  | case5 _ c rest _ _ ih => rw [joinLines?_escaped (escaped_escape c), ih, Option.map_some]

theorem unixLines?_eq_some {s : Text} (h : '\r' ∉ s) : unixLines? s = some s := by
  induction s with
  | nil => rfl
  | cons c rest ih =>
    rw [List.mem_cons, not_or] at h
    have other : c ≠ '\r' := fun same => h.1 same.symm
    rw [unixLines?]
    · simp [other, ih h.2]
    · intro _ same
      exact absurd same other

theorem Escaped.return_notMem {c : Char} {written : Text} (form : Escaped c written) :
    '\r' ∉ written := by
  cases form with
  | plain h => simpa using h.notReturn.symm
  | named h => simpa using (named?_eq_some h).2.2.2.2.symm
  | numbered _ high low => simp [high.notReturn.symm, low.notReturn.symm]

theorem return_notMem_escapeBlock (quotes : Nat) (s : Text) : '\r' ∉ escapeBlock quotes s := by
  fun_induction escapeBlock quotes s with
  | case1 => exact List.not_mem_nil
  | case2 _ rest ih => simpa using ih
  | case3 quotes rest _ ih => simpa using ih
  | case4 quotes rest _ ih => simpa using ih
  | case5 _ c rest _ _ ih => simp [(escaped_escape c).return_notMem, ih]

theorem dropBlockStart_cons {c : Char} (newline : c ≠ '\n') (return_ : c ≠ '\r') (rest : Text) :
    dropBlockStart (c :: rest) = c :: rest := by
  rw [dropBlockStart] <;> simp_all

theorem dropBlockStart_block {s body : Text} {q : Char} (rest : Text)
    (head : '\n' ∉ s → ∃ c more, body ++ q :: rest = c :: more ∧ c ≠ '\n' ∧ c ≠ '\r') :
    dropBlockStart (blockStart s ++ (body ++ q :: rest)) = body ++ q :: rest := by
  unfold blockStart
  by_cases newline : '\n' ∈ s
  case pos =>
    have here : s.any (· == '\n') = true := by simpa using newline
    rw [if_pos here]
    rfl
  case neg =>
    have absent : ¬ s.any (· == '\n') = true := by simpa using newline
    obtain ⟨c, more, starts, notNewline, notReturn⟩ := head newline
    rw [if_neg absent, List.nil_append, starts, dropBlockStart_cons notNewline notReturn]

theorem dropBlockStart_escapeBlock (s rest : Text) :
    dropBlockStart (blockStart s ++ (escapeBlock 0 s ++ '"' :: rest)) =
      escapeBlock 0 s ++ '"' :: rest := by
  apply dropBlockStart_block
  intro newline
  match s with
  | [] => exact ⟨'"', rest, rfl, by decide, by decide⟩
  | c :: more =>
    rw [List.mem_cons, not_or] at newline
    by_cases quote : c = '"'
    · subst quote
      exact ⟨'"', escapeBlock 1 more ++ '"' :: rest, rfl, by decide, by decide⟩
    · obtain ⟨d, head, -, notNewline, notReturn⟩ :=
        (escaped_escape c).head? (escapeBlock 0 more ++ '"' :: rest)
      obtain ⟨tail, starts⟩ := List.head?_eq_some_iff.mp head
      refine ⟨d, tail, ?_, notNewline, notReturn⟩
      rw [escapeBlock, List.append_assoc, starts]
      · exact fun same => newline.1 same.symm
      · exact quote

theorem dropBlockStart_literal {s : Text} (control : s.any isControl = false) (rest : Text) :
    dropBlockStart (blockStart s ++ (s ++ '\'' :: rest)) = s ++ '\'' :: rest := by
  apply dropBlockStart_block
  intro newline
  match s with
  | [] => exact ⟨'\'', rest, rfl, by decide, by decide⟩
  | c :: more =>
    rw [List.mem_cons, not_or] at newline
    rw [List.any_cons, Bool.or_eq_false_iff] at control
    refine ⟨c, more ++ '\'' :: rest, rfl, fun same => newline.1 same.symm, ?_⟩
    rintro rfl
    exact absurd control.1 (by decide)

theorem formOf_literal {s : Text} (h : formOf s = .literal) :
    s.any isControl = false ∧ '\'' ∉ s ∧ '\n' ∉ s ∧ s ≠ [] := by
  have nonempty : s ≠ [] := by
    rintro rfl
    exact absurd h (by decide)
  simp only [formOf] at h
  split at h
  case isTrue => split at h <;> cases h
  case isFalse control =>
  split at h
  case isTrue => cases h
  case isFalse =>
  split at h
  case isTrue literal =>
    simp only [Bool.and_eq_true, Bool.not_eq_true', List.any_eq_false, beq_iff_eq] at literal
    refine ⟨by simpa using control, ?_, ?_, nonempty⟩
    · exact fun mem => literal.1 _ mem rfl
    · exact fun mem => literal.2 _ mem rfl
  case isFalse => repeat' (first | cases h | split at h)

theorem formOf_literalBlock {s : Text} (h : formOf s = .literalBlock) :
    s.any isControl = false ∧ hasThree '\'' s = false := by
  simp only [formOf] at h
  split at h
  case isTrue => split at h <;> cases h
  case isFalse control =>
  split at h
  case isTrue => cases h
  case isFalse =>
  split at h
  case isTrue => cases h
  case isFalse =>
  split at h
  case isTrue => cases h
  case isFalse =>
  split at h
  case isTrue three => exact ⟨by simpa using control, by simpa using three⟩
  case isFalse => split at h <;> cases h

theorem plain?_eq_some {s : Text} (control : s.any isControl = false) : plain? s = some s := by
  simp [plain?, control]

theorem return_notMem {s : Text} (control : s.any isControl = false) : '\r' ∉ s := by
  intro mem
  have found : s.any isControl = true := List.any_eq_true.mpr ⟨'\r', mem, by decide⟩
  rw [control] at found
  exact absurd found (by decide)

theorem line?_escaped (s rest : Text) :
    line? ('"' :: (s.flatMap escape ++ '"' :: rest)) = some (s, rest) := by
  simp [line?, basicBody?_flatMap, unescape?_flatMap]

theorem line?_literal {s : Text} (form : formOf s = .literal) (rest : Text) :
    line? ('\'' :: (s ++ '\'' :: rest)) = some (s, rest) := by
  obtain ⟨control, quote, newline, -⟩ := formOf_literal form
  simp [line?, literalBody?_append quote newline, plain?_eq_some control]

theorem string?_basicBlock (s : Text) {d : Char} (other : d ≠ '"') (rest : Text) :
    string? (tripled '"' ++ (blockStart s ++ (escapeBlock 0 s ++ (tripled '"' ++ d :: rest)))) =
      some (s, d :: rest) := by
  have body := basicBlockBody?_escapeBlock (Nat.zero_le 2) s other rest
  simp only [List.replicate_zero, List.nil_append, List.append_assoc] at body
  have start := dropBlockStart_escapeBlock s ('"' :: '"' :: d :: rest)
  have lines := unixLines?_eq_some (return_notMem_escapeBlock 0 s)
  simp only [tripled, List.cons_append, List.nil_append] at body ⊢
  simp [string?, start, body, lines, joinLines?_escapeBlock, unescape?_escapeBlock]

theorem string?_literalBlock {s : Text} (form : formOf s = .literalBlock) {d : Char}
    (other : d ≠ '\'') (rest : Text) :
    string? (tripled '\'' ++ (blockStart s ++ (s ++ (tripled '\'' ++ d :: rest)))) =
      some (s, d :: rest) := by
  obtain ⟨control, three⟩ := formOf_literalBlock form
  have body := literalBlockBody?_append three other rest
  have start := dropBlockStart_literal control ('\'' :: '\'' :: d :: rest)
  have lines := unixLines?_eq_some (return_notMem control)
  simp only [tripled, List.cons_append, List.nil_append] at body ⊢
  simp [string?, start, body, lines, plain?_eq_some control]

theorem string?_escaped (s : Text) {d : Char} (other : d ≠ '"') (rest : Text) :
    string? ('"' :: (s.flatMap escape ++ '"' :: d :: rest)) = some (s, d :: rest) := by
  rw [string?]
  · exact line?_escaped s (d :: rest)
  · intro more begins
    rw [List.cons.injEq] at begins
    match s with
    | [] =>
      simp only [List.flatMap_nil, List.nil_append, List.cons.injEq] at begins
      exact other begins.2.2.1
    | c :: tail =>
      obtain ⟨e, head, notQuote, -, -⟩ :=
        (escaped_escape c).head? (tail.flatMap escape ++ '"' :: d :: rest)
      rw [List.flatMap_cons, List.append_assoc] at begins
      rw [begins.2] at head
      exact notQuote (by simpa using head.symm)
  · simp

theorem string?_literal {s : Text} (form : formOf s = .literal) (rest : Text) :
    string? ('\'' :: (s ++ '\'' :: rest)) = some (s, rest) := by
  obtain ⟨-, quote, -, nonempty⟩ := formOf_literal form
  rw [string?]
  · exact line?_literal form rest
  · simp
  · intro more begins
    match s, nonempty with
    | c :: tail, _ =>
      simp only [List.cons_append, List.cons.injEq, true_and] at begins
      exact quote (by simp [begins.1])

theorem string?_quote (s : Text) {d : Char} (double : d ≠ '"') (single : d ≠ '\'') (rest : Text) :
    string? (quote s ++ d :: rest) = some (s, d :: rest) := by
  unfold quote
  cases form : formOf s <;> simp only [List.cons_append, List.nil_append, List.append_assoc]
  case basic => exact string?_escaped s double rest
  case escaped => exact string?_escaped s double rest
  case literal => exact string?_literal form (d :: rest)
  case basicBlock => exact string?_basicBlock s double rest
  case escapedBlock => exact string?_basicBlock s double rest
  case literalBlock => exact string?_literalBlock form single rest

theorem quote_eq_cons (s : Text) : ∃ q tail, quote s = q :: tail ∧ (q = '"' ∨ q = '\'') := by
  unfold quote
  cases formOf s with
  | basic => exact ⟨'"', _, rfl, .inl rfl⟩
  | escaped => exact ⟨'"', _, rfl, .inl rfl⟩
  | literal => exact ⟨'\'', _, rfl, .inr rfl⟩
  | basicBlock => exact ⟨'"', _, rfl, .inl rfl⟩
  | escapedBlock => exact ⟨'"', _, rfl, .inl rfl⟩
  | literalBlock => exact ⟨'\'', _, rfl, .inr rfl⟩

end ModuleDocs.Toml
