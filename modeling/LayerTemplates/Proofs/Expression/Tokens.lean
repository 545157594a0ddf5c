/-
  LayerTemplates.Proofs.Expression.Tokens
  ───────────────────────────────────────
  The tokens of a placeholder body.

  Tokens are told from each other character by character, without a look at how they are nested:
  blanks stand between them, a comment ends them, and an operand reaches as far as its characters
  do.  A body without an issue has the tokens of its chains, one chain after another.

  Main statements:
    * `Draws.tokensOf` — what is drawn has its tokens, whatever it stands before.
    * `Laid.tokens_eq` — a body has the tokens of its chains.
-/
import LayerTemplates.Proofs.Expression.Layout

namespace LayerTemplates

/-! ## §1. Telling tokens from each other. -/

/-- What is being read of a token. -/
inductive TokenReader where
  | between
  | word (value : String)
  | literal (quote : Char) (escaping : Bool) (value : String)
  | number (value : String)
  deriving Repr, DecidableEq, Inhabited

/-- The operand that is being read, as far as it was read. -/
def TokenReader.tokens : TokenReader → List Token
  | .between => []
  | .word value => [.operand { value }]
  | .literal quote _ value => [.operand (.inQuotes quote value)]
  | .number value => [.operand { value, form := .relative }]

/-- The tokens that are one character each. -/
def symbols : List (Char × Token) :=
  [('.', .delimiter .dot), (',', .delimiter .comma), ('[', .delimiter (.opening .square)),
    ('(', .delimiter (.opening .round)), (']', .closer .square), (')', .closer .round)]

/-- What a character outside operands is, and what is read behind it; nothing is read behind the
sign of a comment. -/
def TokenReader.opened (c : Char) : List Token × Option TokenReader :=
  if isBlank c then ([], some .between)
  else if c = '#' then ([], none)
  else match symbols.lookup c with
    | some token => ([token], some .between)
    | none =>
        if c = '^' then ([], some (.number ""))
        else if isQuote c then ([], some (.literal c false ""))
        else ([], some (.word (String.singleton c)))

/-- The tokens that end with a character, and what is read behind it. -/
def TokenReader.step (escape c : Char) : TokenReader → List Token × Option TokenReader
  | .between => opened c
  | .word value =>
      if isLexemeChar c then ([], some (.word (value.push c)))
      else ((word value).tokens ++ (opened c).1, (opened c).2)
  | .number value =>
      if c.isDigit then ([], some (.number (value.push c)))
      else ((number value).tokens ++ (opened c).1, (opened c).2)
  | .literal quote true value => ([], some (.literal quote false (value.push c)))
  | .literal quote false value =>
      if c = escape then ([], some (.literal quote true value))
      else if c = quote then ((literal quote false value).tokens, some .between)
      else ([], some (.literal quote false (value.push c)))

/-- The tokens of characters, the first of which perhaps go on with an operand. -/
def TokenReader.tokensOf (escape : Char) : TokenReader → List Char → List Token
  | reading, [] => reading.tokens
  | reading, c :: rest =>
      (reading.step escape c).1
        ++ ((reading.step escape c).2.map fun next => next.tokensOf escape rest).getD []

/-- The tokens of a body.  A leading sign is an operand of its own. -/
def tokens (escape : Char) (body : List Char) : List Token :=
  let rest := body.dropWhile isBlank
  if rest.head? = some '=' then .operand (.sign '=') :: TokenReader.between.tokensOf escape rest.tail
  else if rest.head? = some '#' then [.operand (.sign '#')]
  else TokenReader.between.tokensOf escape rest

/-! ## §2. Operands. -/

variable {escape : Char} {rest : List Char}

namespace TokenReader

variable {reading next : TokenReader} {c : Char} {ts : List Token}

/-- A character that is taken yields the tokens that it ends, and those of the rest come behind
them. -/
theorem tokensOf_step (h : reading.step escape c = (ts, some next)) :
    reading.tokensOf escape (c :: rest) = ts ++ next.tokensOf escape rest := by
  rw [tokensOf, h]
  rfl

/-- An operand that was read to its end makes a token of its own. -/
theorem tokensOf_stopped (h : reading.step escape c = (reading.tokens ++ (opened c).1, (opened c).2)) :
    reading.tokensOf escape (c :: rest) = reading.tokens ++ between.tokensOf escape (c :: rest) := by
  rw [tokensOf, h, List.append_assoc]
  rfl

/-- A word is one token, with all characters that it goes on with. -/
theorem tokensOf_word {w : List Char} (hw : ∀ c ∈ w, isLexemeChar c = true) (hrest : Stops rest)
    (value : String) :
    (word value).tokensOf escape (w ++ rest)
      = .operand { value := value ++ String.ofList w } :: between.tokensOf escape rest := by
  induction w generalizing value with
  | nil =>
      rw [show value ++ String.ofList [] = value from String.append_empty]
      cases rest with
      | nil => rfl
      | cons c rest => exact tokensOf_stopped (if_neg (by rw [hrest c rfl]; simp))
  | cons c w ih =>
      rw [List.forall_mem_cons] at hw
      have hstep : (word value).step escape c = ([], some (.word (value.push c))) := if_pos hw.1
      rw [← Lexer.push_append_ofList, ← ih hw.2]
      exact tokensOf_step hstep

/-- So are the digits behind a caret. -/
theorem tokensOf_number {digits : List Char} (hdigits : ∀ c ∈ digits, c.isDigit = true)
    (hrest : Stops rest) (value : String) :
    (number value).tokensOf escape (digits ++ rest)
      = .operand { value := value ++ String.ofList digits, form := .relative }
        :: between.tokensOf escape rest := by
  induction digits generalizing value with
  | nil =>
      rw [show value ++ String.ofList [] = value from String.append_empty]
      cases rest with
      | nil => rfl
      | cons c rest =>
          refine tokensOf_stopped (if_neg fun hdigit => ?_)
          exact absurd (isLexemeChar_of_isDigit hdigit) (by rw [hrest c rfl]; simp)
  | cons c digits ih =>
      rw [List.forall_mem_cons] at hdigits
      have hstep : (number value).step escape c = ([], some (.number (value.push c))) :=
        if_pos hdigits.1
      rw [← Lexer.push_append_ofList, ← ih hdigits.2]
      exact tokensOf_step hstep

/-- A literal is the token of what its characters mean, escapes taken off. -/
theorem tokensOf_literal {quote : Char} {s value : List Char} (hcloses : quote ≠ escape)
    (h : LiteralText escape quote s value) (read : String) :
    (literal quote false read).tokensOf escape (s ++ quote :: rest)
      = .operand (.inQuotes quote (read ++ String.ofList value))
        :: between.tokensOf escape rest := by
  induction h generalizing read with
  | nil =>
      have hstep : (literal quote false read).step escape quote
          = ((literal quote false read).tokens, some .between) :=
        (if_neg hcloses).trans (if_pos rfl)
      rw [show read ++ String.ofList [] = read from String.append_empty]
      exact tokensOf_step hstep
  | @plain c _ _ notEscape notQuote _ ih =>
      have hstep : (literal quote false read).step escape c
          = ([], some (.literal quote false (read.push c))) :=
        (if_neg notEscape).trans (if_neg notQuote)
      rw [← Lexer.push_append_ofList, ← ih]
      exact tokensOf_step hstep
  | @escaped c _ _ _ ih =>
      have hstep : (literal quote false read).step escape escape
          = ([], some (.literal quote true read)) := if_pos rfl
      have hnext : (literal quote true read).step escape c
          = ([], some (.literal quote false (read.push c))) := rfl
      rw [← Lexer.push_append_ofList, ← ih]
      exact (tokensOf_step hstep).trans (tokensOf_step hnext)

/-- Outside operands. -/
theorem tokensOf_opened (h : opened c = (ts, some next)) :
    between.tokensOf escape (c :: rest) = ts ++ next.tokensOf escape rest := by
  have hstep : between.step escape c = (ts, some next) := h
  exact tokensOf_step hstep

/-- Blanks stand between tokens, and are none. -/
theorem tokensOf_blanks {b : List Char} (hb : Blanks b) :
    between.tokensOf escape (b ++ rest) = between.tokensOf escape rest := by
  induction b with
  | nil => rfl
  | cons c b ih =>
      rw [← ih fun d hd => hb d (List.mem_cons_of_mem _ hd)]
      exact tokensOf_opened (if_pos (hb c List.mem_cons_self))

/-- A symbol is a token, with blanks before it or without. -/
theorem tokensOf_symbol {token : Token} (h : opened c = ([token], some .between)) {b : List Char}
    (hb : Blanks b) :
    between.tokensOf escape (b ++ c :: rest) = token :: between.tokensOf escape rest := by
  rw [tokensOf_blanks hb]
  exact tokensOf_opened h

theorem opened_of_isLexemeChar (hc : isLexemeChar c = true) :
    opened c = ([], some (.word (String.singleton c))) := by
  have hne : ∀ d, isLexemeChar d = false → c ≠ d := by
    rintro d hd rfl
    exact absurd hc (by rw [hd]; simp)
  have hlookup : symbols.lookup c = none := by
    rw [List.lookup_eq_none_iff]
    intro symbol hsymbol
    have hsymbols : ∀ symbol ∈ symbols, isLexemeChar symbol.1 = false := by decide
    exact bne_iff_ne.2 (hne _ (hsymbols symbol hsymbol))
  unfold opened
  rw [if_neg (by rw [not_isBlank_of_isLexemeChar hc]; simp), if_neg (hne '#' (by decide)), hlookup]
  dsimp only
  rw [if_neg (hne '^' (by decide)), if_neg (by rw [not_isQuote_of_isLexemeChar hc]; simp)]

theorem opened_of_isQuote (hc : isQuote c = true) :
    opened c = ([], some (.literal c false "")) := by
  have hmem : c ∈ quotes := List.contains_iff_mem.1 hc
  simp only [quotes, List.mem_cons, List.not_mem_nil, or_false] at hmem
  rcases hmem with rfl | rfl | rfl <;> rfl

end TokenReader

/-- What spells an operand is read as the operand. -/
theorem Spelling.tokensOf {p : List Char} {o : Operand} (h : Spelling escape p o)
    (hrest : Stops rest) :
    TokenReader.between.tokensOf escape (p ++ rest)
      = .operand o :: TokenReader.between.tokensOf escape rest := by
  cases h with
  | word nonempty chars =>
      cases p with
      | nil => exact absurd rfl nonempty
      | cons c w =>
          rw [List.forall_mem_cons] at chars
          have hword := Lexer.push_append_ofList "" c w
          rw [String.empty_append] at hword
          rw [← hword]
          exact (TokenReader.tokensOf_opened (TokenReader.opened_of_isLexemeChar chars.1)).trans
            (TokenReader.tokensOf_word chars.2 hrest _)
  | @literal quote s value opens closes inner nonempty =>
      rw [← String.empty_append (s := String.ofList value), ← TokenReader.tokensOf_literal closes inner,
        List.cons_append, List.append_assoc]
      exact TokenReader.tokensOf_opened (TokenReader.opened_of_isQuote opens)
  | @ancestor digits nonempty chars =>
      have hopened : TokenReader.opened '^' = ([], some (.number "")) := by decide
      rw [← String.empty_append (s := String.ofList digits), ← TokenReader.tokensOf_number chars hrest]
      exact TokenReader.tokensOf_opened hopened

/-- The first character of an operand is no blank and does not start a comment. -/
theorem Spelling.leading {p : List Char} {o : Operand} (h : Spelling escape p o) :
    ∃ c later, p = c :: later ∧ isBlank c = false ∧ c ≠ '#' := by
  cases h with
  | word nonempty chars =>
      obtain ⟨c, w, rfl⟩ := List.exists_cons_of_ne_nil nonempty
      have hc := chars c List.mem_cons_self
      refine ⟨c, w, rfl, not_isBlank_of_isLexemeChar hc, ?_⟩
      rintro rfl
      exact absurd hc (by decide)
  | @literal quote s value opens closes inner nonempty =>
      refine ⟨quote, _, rfl, ?_⟩
      have hmem : quote ∈ quotes := List.contains_iff_mem.1 opens
      simp only [quotes, List.mem_cons, List.not_mem_nil, or_false] at hmem
      rcases hmem with rfl | rfl | rfl <;> exact ⟨rfl, by decide⟩
  | ancestor => exact ⟨'^', _, rfl, by decide, by decide⟩

/-! ## §3. Chains and bodies. -/

/-- **What is drawn has its tokens**, whatever it stands before. -/
theorem Draws.tokensOf {part : Part} {x : List Char} {ts : List Token} (h : Draws escape part x ts)
    (hrest : Stops rest) :
    TokenReader.between.tokensOf escape (x ++ rest)
      = ts ++ TokenReader.between.tokensOf escape rest := by
  -- every rule spells out its characters from the left, and each of its parts stops at the next
  induction h generalizing rest with
  | done => rfl
  | @dot s last o passed b b' p x ts before behind step tail ih =>
      rw [show b ++ '.' :: (b' ++ (p ++ x)) ++ rest = b ++ '.' :: (b' ++ (p ++ (x ++ rest))) by simp,
        TokenReader.tokensOf_symbol rfl before, TokenReader.tokensOf_blanks behind,
        step.tokensOf (tail.stops hrest), ih hrest]
      rfl
  | @square s inner last o passed more b b' b'' p x y ts us before behind head inside close tail
      ihinside ih =>
      have hclose : Stops (b'' ++ ']' :: (y ++ rest)) := stops_blanks close (by decide)
      rw [show b ++ '[' :: (b' ++ (p ++ (x ++ (b'' ++ ']' :: y)))) ++ rest
          = b ++ '[' :: (b' ++ (p ++ (x ++ (b'' ++ ']' :: (y ++ rest))))) by simp,
        TokenReader.tokensOf_symbol rfl before, TokenReader.tokensOf_blanks behind,
        head.tokensOf (inside.stops hclose), ihinside hclose, TokenReader.tokensOf_symbol rfl close,
        ih hrest]
      simp
  | @call s last passed b b' x ts uncalled before behind tail ih =>
      rw [show b ++ '(' :: (b' ++ ')' :: x) ++ rest = b ++ '(' :: (b' ++ ')' :: (x ++ rest)) by simp,
        TokenReader.tokensOf_symbol rfl before, TokenReader.tokensOf_symbol rfl behind, ih hrest]
      rfl
  | @round s last passed shape b args x ts us uncalled before inside tail ihinside ih =>
      have hclose : Stops (')' :: (x ++ rest)) := stops_blanks .nil (by decide)
      rw [show b ++ '(' :: (args ++ ')' :: x) ++ rest
          = b ++ '(' :: (args ++ ')' :: (x ++ rest)) by simp,
        TokenReader.tokensOf_symbol rfl before, ihinside hclose,
        ← List.nil_append (')' :: (x ++ rest)), TokenReader.tokensOf_symbol rfl .nil, ih hrest]
      simp
  | @argument o last passed b b' p x ts before head inside behind ih =>
      have hstops : Stops (b' ++ rest) := Lexer.stops_append behind hrest
      rw [show b ++ (p ++ (x ++ b')) ++ rest = b ++ (p ++ (x ++ (b' ++ rest))) by simp,
        TokenReader.tokensOf_blanks before, head.tokensOf (inside.stops hstops), ih hstops,
        TokenReader.tokensOf_blanks behind]
      rfl
  | @more o last passed shape b b' p x args ts us before head inside behind tail ihinside ih =>
      have hcomma : Stops (b' ++ ',' :: (args ++ rest)) := stops_blanks behind (by decide)
      rw [show b ++ (p ++ (x ++ (b' ++ ',' :: args))) ++ rest
          = b ++ (p ++ (x ++ (b' ++ ',' :: (args ++ rest)))) by simp,
        TokenReader.tokensOf_blanks before, head.tokensOf (inside.stops hcomma), ihinside hcomma,
        TokenReader.tokensOf_symbol rfl behind, ih hrest]
      simp

/-- Chains that follow one another yield their tokens one chain after another. -/
theorem Strung.tokensOf {m : List Char} {chains : List Chain} (h : Strung escape m chains)
    (hrest : Stops rest) :
    TokenReader.between.tokensOf escape (m ++ rest)
      = chains.flatMap Chain.tokens ++ TokenReader.between.tokensOf escape rest := by
  induction h with
  | nil => rfl
  | @cons o last passed b p x t ts chains nonempty blanks head tail others ih =>
      have hothers : Stops (t ++ rest) := others.stops hrest
      rw [show b ++ (p ++ (x ++ t)) ++ rest = b ++ (p ++ (x ++ (t ++ rest))) by simp,
        TokenReader.tokensOf_blanks blanks, head.tokensOf (tail.stops hothers), tail.tokensOf hothers, ih]
      simp [Chain.of]

/-- What may stand behind the last chain, blanks and a comment, yields no token. -/
theorem Ending.tokensOf {t : List Char} (h : Ending t) :
    TokenReader.between.tokensOf escape t = [] := by
  cases h with
  | blanks hb =>
      rw [← List.append_nil t, TokenReader.tokensOf_blanks hb]
      rfl
  | comment hb =>
      rw [TokenReader.tokensOf_blanks hb]
      rfl

/-- Chains at the end of a body. -/
theorem Spelling.tokensOf_first {o : Operand} {last : Step} {passed : List Step}
    {p x m t : List Char} {ts : List Token} {chains : List Chain} (head : Spelling escape p o)
    (tail : Draws escape (.suffixes (o.step .plain) passed last) x ts)
    (others : Strung escape m chains) (ending : Ending t) :
    TokenReader.between.tokensOf escape (p ++ (x ++ (m ++ t)))
      = (Chain.of o ts passed last :: chains).flatMap Chain.tokens := by
  have hothers : Stops (m ++ t) := others.stops ending.stops
  rw [head.tokensOf (tail.stops hothers), tail.tokensOf hothers, others.tokensOf ending.stops,
    ending.tokensOf]
  simp [Chain.of]

/-- A leading sign is a token of its own, with blanks in front of it or not. -/
theorem tokens_sign {b rest : List Char} (hb : Blanks b) :
    tokens escape (b ++ '=' :: rest)
      = .operand (.sign '=') :: TokenReader.between.tokensOf escape rest := by
  unfold tokens
  rw [List.dropWhile_append_of_pos hb]
  rfl

/-- **A body has the tokens of its chains.** -/
theorem Laid.tokens_eq {body : List Char} {chains : List Chain} (h : Laid escape body chains) :
    tokens escape body = chains.flatMap Chain.tokens := by
  cases h with
  | sign before ending =>
      rw [tokens_sign before, ending.tokensOf]
      rfl
  | insert before behind head tail others ending =>
      rw [tokens_sign before, TokenReader.tokensOf_blanks behind, head.tokensOf_first tail others ending]
      rfl
  | operands before head unsigned tail apart others ending =>
      rw [← head.tokensOf_first tail others ending]
      obtain ⟨c, later, rfl, hblank, hcomment⟩ := head.leading
      unfold tokens
      rw [List.dropWhile_append_of_pos before, List.cons_append,
        List.dropWhile_cons_of_neg (by rw [hblank]; simp)]
      exact (if_neg unsigned).trans (if_neg fun h => hcomment (Option.some.inj h))
  | comment before =>
      unfold tokens
      rw [List.dropWhile_append_of_pos before]
      rfl

end LayerTemplates
