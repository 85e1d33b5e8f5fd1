import Mathlib.Data.List.Infix
import ModuleDocs.Example.Nesting

/-! The brackets behind a nesting. A nesting keeps counters only, so what it says about some lines is
what the list of their brackets adds up to. Main statements: when lines are balanced, and when every
bracket opened in them is then closed; what becomes of the text behind the end of a here-string. -/
namespace ModuleDocs.Example
open Text

/-- A line, given to a nesting as it is or as a line of an example. -/
inductive Fed where
  | plain (line : Text)
  | ofExample (line : Text)

def Nesting.read (n : Nesting) : Fed → Nesting
  | .plain line => n.feed line
  | .ofExample line => n.feedExample line

/-- The brackets that count in a line, and the region after it. -/
def counted (region : Region) (line : Text) : List Bracket × Region :=
  match region with
  | .hereString quote =>
    ([], if Nesting.closesHereString quote line then .code else .hereString quote)
  | region => scan region (trimEnd line)

def Fed.counted (region : Region) : Fed → List Bracket × Region
  | .plain line => Example.counted region line
  | .ofExample line =>
    if region = .code ∧ looksLikeProse line then ([], region) else Example.counted region line

def history (region : Region) : List Fed → List Bracket
  | [] => []
  | fed :: rest => (fed.counted region).1 ++ history (fed.counted region).2 rest

def surplus (opener closer : Bracket) (bs : List Bracket) : Int := bs.count opener - bs.count closer

theorem surplus_append (opener closer : Bracket) (front back : List Bracket) :
    surplus opener closer (front ++ back) =
      surplus opener closer front + surplus opener closer back := by
  unfold surplus
  rw [List.count_append, List.count_append]
  omega

theorem surplus_eq_zero {opener closer : Bracket} {bs : List Bracket} :
    surplus opener closer bs = 0 ↔ bs.count opener = bs.count closer := by
  unfold surplus
  omega

def Nesting.after (n : Nesting) (bs : List Bracket) (region : Region) : Nesting :=
  ⟨n.braces + surplus .openBrace .closeBrace bs, n.parens + surplus .openParen .closeParen bs, region⟩

theorem Nesting.after_nil (n : Nesting) (region : Region) :
    n.after [] region = { n with region } := by
  simp [after, surplus]

theorem Nesting.after_after (n : Nesting) (bs cs : List Bracket) (region last : Region) :
    (n.after bs region).after cs last = n.after (bs ++ cs) last := by
  simp only [after, surplus_append, Int.add_assoc]

theorem count_eq_after (n : Nesting) (b : Bracket) : n.count b = n.after [b] n.region := by
  cases b <;> simp [Nesting.count, Nesting.after, surplus] <;> omega

theorem foldl_count (bs : List Bracket) (n : Nesting) :
    bs.foldl Nesting.count n = n.after bs n.region := by
  induction bs generalizing n with
  | nil => rw [List.foldl_nil, Nesting.after_nil]
  | cons b rest ih =>
    rw [List.foldl_cons, ih, count_eq_after, Nesting.after_after]
    rfl

theorem feed_eq (n : Nesting) (line : Text) :
    n.feed line = n.after (counted n.region line).1 (counted n.region line).2 := by
  obtain ⟨braces, parens, region⟩ := n
  cases region with
  | hereString quote =>
    simp only [Nesting.feed, counted, Nesting.after_nil]
    split
    case isTrue => rfl
    case isFalse => rfl
  | code => simp only [Nesting.feed, counted, foldl_count]; rfl
  | quoted quote => simp only [Nesting.feed, counted, foldl_count]; rfl
  | comment => simp only [Nesting.feed, counted, foldl_count]; rfl

theorem read_eq (n : Nesting) (fed : Fed) :
    n.read fed = n.after (fed.counted n.region).1 (fed.counted n.region).2 := by
  cases fed with
  | plain line => exact feed_eq n line
  | ofExample line =>
    simp only [Nesting.read, Nesting.feedExample, Fed.counted]
    split
    case isTrue => rw [Nesting.after_nil]
    case isFalse => exact feed_eq n line

theorem foldl_read (fed : List Fed) (n : Nesting) :
    fed.foldl Nesting.read n =
      n.after (history n.region fed) (fed.foldl Nesting.read n).region := by
  induction fed generalizing n with
  | nil => rw [List.foldl_nil, history, Nesting.after_nil]
  | cons f rest ih =>
    have region : (n.read f).region = (f.counted n.region).2 := by rw [read_eq]; rfl
    generalize last : ((f :: rest).foldl Nesting.read n).region = region'
    calc rest.foldl Nesting.read (n.read f)
        = (n.read f).after (history (f.counted n.region).2 rest) region' := by
          rw [← region, ← last]
          exact ih (n.read f)
      _ = (n.after (f.counted n.region).1 (f.counted n.region).2).after
            (history (f.counted n.region).2 rest) region' := by rw [← read_eq]
      _ = n.after (history n.region (f :: rest)) region' := Nesting.after_after n _ _ _ _

theorem isBalanced_after (bs : List Bracket) (region : Region) :
    (Nesting.start.after bs region).isBalanced = true ↔ region = .code ∧
      bs.count .openBrace = bs.count .closeBrace ∧ bs.count .openParen = bs.count .closeParen := by
  rw [Nesting.isBalanced, beq_iff_eq, ← surplus_eq_zero, ← surplus_eq_zero, Nesting.after,
    Nesting.start, Nesting.mk.injEq, Int.zero_add, Int.zero_add]
  exact ⟨fun ⟨braces, parens, code⟩ => ⟨code, braces, parens⟩,
    fun ⟨code, braces, parens⟩ => ⟨braces, parens, code⟩⟩

/-- From no point on are more brackets opened than closed: every opening one is followed by one that
closes it. -/
def EachIsClosed (opener closer : Bracket) (bs : List Bracket) : Prop :=
  ∀ back, back <:+ bs → back.count opener ≤ back.count closer

def EachWasOpened (opener closer : Bracket) (bs : List Bracket) : Prop :=
  ∀ front, front <+: bs → front.count closer ≤ front.count opener

/-- Where as many brackets are opened as closed, what is left open at some point was closed too early
before it. -/
theorem eachIsClosed_iff {opener closer : Bracket} {bs : List Bracket}
    (even : bs.count opener = bs.count closer) :
    EachIsClosed opener closer bs ↔ EachWasOpened opener closer bs := by
  constructor
  · rintro closed front ⟨back, rfl⟩
    have later := closed back (List.suffix_append front back)
    rw [List.count_append, List.count_append] at even
    omega
  · rintro opened back ⟨front, rfl⟩
    have earlier := opened front (List.prefix_append front back)
    rw [List.count_append, List.count_append] at even
    omega

/-- Lines are balanced exactly if they end in code and have as many opening as closing brackets of
either sort. Every bracket opened in balanced lines is then closed exactly if none in them is closed
before it was opened. -/
theorem isBalanced_read (fed : List Fed) :
    let n := fed.foldl Nesting.read Nesting.start
    let bs := history .code fed
    (n.isBalanced = true ↔ n.region = .code ∧
      bs.count .openBrace = bs.count .closeBrace ∧ bs.count .openParen = bs.count .closeParen) ∧
    (n.isBalanced = true →
      (EachIsClosed .openBrace .closeBrace bs ↔ EachWasOpened .openBrace .closeBrace bs) ∧
      (EachIsClosed .openParen .closeParen bs ↔ EachWasOpened .openParen .closeParen bs)) := by
  intro n bs
  have balanced : n.isBalanced = true ↔ n.region = .code ∧
      bs.count .openBrace = bs.count .closeBrace ∧ bs.count .openParen = bs.count .closeParen := by
    have run : n = Nesting.start.after bs n.region := foldl_read fed Nesting.start
    rw [← isBalanced_after, ← run]
  refine ⟨balanced, fun holds => ?_⟩
  obtain ⟨-, braces, parens⟩ := balanced.mp holds
  exact ⟨eachIsClosed_iff braces, eachIsClosed_iff parens⟩

theorem closed_of_balanced_block :
    let fed := [Fed.ofExample "foreach ($i in $items) \x7b", .ofExample "It's one of many names.",
      .plain "  $i.Name # the \x7b of a comment", .ofExample "\x7d"]
    let n := fed.foldl Nesting.read Nesting.start
    let bs := history .code fed
    n.isBalanced = true ∧ bs = [.openParen, .closeParen, .openBrace, .closeBrace] ∧
    EachIsClosed .openBrace .closeBrace bs := by
  intro fed n bs
  have balanced : n.isBalanced = true := by decide +kernel
  have brackets : bs = [.openParen, .closeParen, .openBrace, .closeBrace] := by decide +kernel
  refine ⟨balanced, brackets, ((isBalanced_read fed).2 balanced).1.mpr fun front start => ?_⟩
  change front <+: bs at start
  rw [brackets, ← List.mem_inits] at start
  revert front
  decide

/-- A block that is closed before another one is opened counts as balanced, and the second one stays
open. -/
theorem balanced_left_open :
    let fed := [Fed.plain "\x7d else \x7b"]
    (fed.foldl Nesting.read Nesting.start).isBalanced = true ∧
    ¬ EachIsClosed .openBrace .closeBrace (history .code fed) := by
  intro fed
  refine ⟨by decide, fun closed => ?_⟩
  exact absurd (closed [.openBrace] (by decide)) (by decide)

theorem feed_eq_self_iff {n : Nesting} (code : n.region = .code) (line : Text) :
    n.feed line = n ↔ (counted .code line).2 = .code ∧
      (counted .code line).1.count .openBrace = (counted .code line).1.count .closeBrace ∧
      (counted .code line).1.count .openParen = (counted .code line).1.count .closeParen := by
  obtain ⟨braces, parens, region⟩ := n
  obtain rfl : region = .code := code
  rw [feed_eq, ← surplus_eq_zero, ← surplus_eq_zero, Nesting.after, Nesting.mk.injEq]
  dsimp only
  constructor
  · rintro ⟨sameBraces, sameParens, last⟩
    exact ⟨last, by omega, by omega⟩
  · rintro ⟨last, noBraces, noParens⟩
    exact ⟨by omega, by omega, last⟩

theorem feed_opens {n : Nesting} (code : n.region = .code) (quote : Quote) :
    n.feed ['@', quote.char] = { n with region := .hereString quote } := by
  have opening : counted .code ['@', quote.char] = ([], .hereString quote) := by
    cases quote <;> decide
  rw [feed_eq, code, opening, Nesting.after_nil]

theorem foldl_feed_inside {n : Nesting} {quote : Quote} (region : n.region = .hereString quote)
    {body : List Text}
    (inside : ∀ line ∈ body, Nesting.closesHereString quote line = false) :
    body.foldl Nesting.feed n = n := by
  induction body with
  | nil => rfl
  | cons line rest ih =>
    rw [List.forall_mem_cons] at inside
    have kept : n.feed line = n := by simp [Nesting.feed, region, inside.1]
    rw [List.foldl_cons, kept, ih inside.2]

theorem feed_closes {n : Nesting} {quote : Quote} (region : n.region = .hereString quote)
    (rest : Text) : n.feed (quote.char :: '@' :: rest) = { n with region := .code } := by
  have closes : Nesting.closesHereString quote (quote.char :: '@' :: rest) = true := by
    cases quote <;> rfl
  simp [Nesting.feed, region, closes]

/-- A here-string leaves the nesting as it was, whatever stands behind its end. So the text there
counts as it does on a line of its own exactly if it has nothing to count: its brackets make up for
each other, and it leaves no text and no comment open. -/
theorem feed_hereString (n : Nesting) (code : n.region = .code) (quote : Quote) (body : List Text)
    (inside : ∀ line ∈ body, Nesting.closesHereString quote line = false) (rest : Text) :
    let read := (['@', quote.char] :: body ++ [quote.char :: '@' :: rest]).foldl Nesting.feed n
    let brackets := (counted .code rest).1
    read = n ∧ (read = n.feed rest ↔ (counted .code rest).2 = .code ∧
      brackets.count .openBrace = brackets.count .closeBrace ∧
      brackets.count .openParen = brackets.count .closeParen) := by
  intro read brackets
  -- The line that ends the here-string closes its region and does nothing else.
  have same : read = n :=
    calc read
        = (body.foldl Nesting.feed (n.feed ['@', quote.char])).feed (quote.char :: '@' :: rest) := by
          simp only [read, List.foldl_cons, List.foldl_append, List.foldl_nil]
      _ = { n with region := .code } := by
          rw [feed_opens code, foldl_feed_inside rfl inside, feed_closes rfl]
      _ = n := by rw [← code]
  refine ⟨same, ?_⟩
  rw [same, ← feed_eq_self_iff code]
  exact eq_comm

theorem feed_hereString_pipeline :
    let n := Nesting.start.feed "$names = &\x7b"
    let body : List Text := ["one (of", "  'two' \x7d"]
    let rest : Text := " | ForEach-Object \x7b $_ \x7d"
    n.region = .code ∧ n.braces = 1 ∧
    (∀ line ∈ body, Nesting.closesHereString .double line = false) ∧
    (['@', '"'] :: body ++ ['"' :: '@' :: rest]).foldl Nesting.feed n = n.feed rest := by
  intro n body rest
  have inside : ∀ line ∈ body, Nesting.closesHereString .double line = false := by decide
  refine ⟨rfl, rfl, inside, ?_⟩
  exact (feed_hereString n rfl .double body inside rest).2.mpr (by decide)

/-- The parenthesis behind the end of a here-string does not close the one before its start. -/
theorem parenthesis_behind_hereString :
    let n := Nesting.start.feed "("
    let body : List Text := ["text"]
    n.region = .code ∧ (∀ line ∈ body, Nesting.closesHereString .double line = false) ∧
    (n.feed ")").isBalanced = true ∧
    (['@', '"'] :: body ++ [['"', '@', ')']]).foldl Nesting.feed n ≠ n.feed ")" := by
  decide

end ModuleDocs.Example
