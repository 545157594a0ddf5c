/-
  LayerTemplates.Proofs.Expression.Steps
  ──────────────────────────────────────
  What one character does to the lexer, said once.

  What holds of the lexer after a character is shown for every kind of character on its own:
  for those inside a literal, for those between operands, and from these for all of them.  The
  position of a character is kept before anything else is looked at, so what is shown is shown
  of the lexer that knows it already.

  Main statements:
    * `feedQuoted_told` — what a character does inside a literal, told by the character.
    * `feedBetween_told` — what a character does between operands, told by the character.
    * `feedQuoted_cases`, `feedBetween_cases` — the same for what holds of every character.
    * `feed_cases` — what a character does, by what is being read.
    * `feedAll_keeps` — what every character keeps all of them keep.
-/
import LayerTemplates.Expression.Lexer

namespace LayerTemplates

/-- All links of a lexeme: the three that lead on, and the two that lead back. -/
def Lexeme.wires (l : Lexeme) : List (Option LexemeId) :=
  [l.child, l.firstArg, l.next, l.parent, l.prev]

/-- A lexeme is linked to nothing, as all of them are when they are allocated. -/
def Lexeme.Unlinked (l : Lexeme) : Prop := l.wires = Lexeme.wires {}

theorem Lexeme.Unlinked.child {l : Lexeme} (h : l.Unlinked) : l.child = none :=
  (List.cons.inj h).1

namespace Lexer

variable {motive : Lexer → Prop} (lx : Lexer) (c : Char) (position : Nat)

/-- What closing a literal does to it. -/
def closing (quote : Char) (stop : Nat) (l : Lexeme) : Lexeme :=
  { l with span := ⟨l.span.start, stop⟩, form := if quote == rawQuote then .plain else l.form }

/-- **A character inside a literal** is taken as it is after an escape character, is an escape
character itself, closes the literal, or is added to it. -/
theorem feedQuoted_told (id : LexemeId) (quote : Char) (escaping : Bool)
    (escaped : escaping = true →
      motive { lx.pushChar id c position with mode := .quoted id quote false })
    (escape : escaping = false → c = lx.escape →
      motive { lx with mode := .quoted id quote true })
    (empty : escaping = false → c ≠ lx.escape → c = quote →
      motive (({ lx with arena := lx.arena.modify id (closing quote (position + c.utf8Size)) }.note
        (.emptyLiteral quote) position).endOperand))
    (closed : escaping = false → c ≠ lx.escape → c = quote →
      ((lx.arena.modify id (closing quote (position + c.utf8Size))).get id).value.isEmpty = false →
        motive
          { lx with
            arena := lx.arena.modify id (closing quote (position + c.utf8Size)) }.endOperand)
    (pushed : escaping = false → c ≠ lx.escape → c ≠ quote →
      motive (lx.pushChar id c position)) :
    motive (lx.feedQuoted id quote escaping c position) := by
  unfold feedQuoted
  split
  · next htrue => exact escaped htrue
  next hfalse =>
  replace hfalse : escaping = false := Bool.eq_false_iff.2 hfalse
  split
  · next hescape => exact escape hfalse (beq_iff_eq.1 hescape)
  next hescape =>
  replace hescape : c ≠ lx.escape := fun heq => hescape (beq_iff_eq.2 heq)
  split
  · next hquote =>
      have hclose := beq_iff_eq.1 hquote
      show motive (if ((lx.arena.modify id (closing quote (position + c.utf8Size))).get
        id).value.isEmpty = true then _ else _ : Lexer).endOperand
      split
      · exact empty hfalse hescape hclose
      · next hfilled => exact closed hfalse hescape hclose (Bool.eq_false_iff.2 hfilled)
  · next hquote => exact pushed hfalse hescape fun heq => hquote (beq_iff_eq.2 heq)

/-- What a character does inside a literal, whatever character it is.  Closing changes how the
operand is written and how far it reaches, but not its characters. -/
theorem feedQuoted_cases (id : LexemeId) (quote : Char) (escaping : Bool)
    (escaped : motive { lx.pushChar id c position with mode := .quoted id quote false })
    (escape : motive { lx with mode := .quoted id quote true })
    (empty : ∀ f : Lexeme → Lexeme,
      (∀ l, f l = { l with span := (f l).span, form := (f l).form }) →
        motive (({ lx with arena := lx.arena.modify id f }.note
          (.emptyLiteral quote) position).endOperand))
    (closed : ∀ f : Lexeme → Lexeme,
      (∀ l, f l = { l with span := (f l).span, form := (f l).form }) →
        ((lx.arena.modify id f).get id).value.isEmpty = false →
          motive { lx with arena := lx.arena.modify id f }.endOperand)
    (pushed : motive (lx.pushChar id c position)) :
    motive (lx.feedQuoted id quote escaping c position) := by
  apply lx.feedQuoted_told (motive := motive)
  case escaped => exact fun _ => escaped
  case escape => exact fun _ _ => escape
  case empty => exact fun _ _ _ => empty _ fun _ => rfl
  case closed => exact fun _ _ _ hfilled => closed _ (fun _ => rfl) hfilled
  case pushed => exact fun _ _ _ => pushed

/-- **A character between operands** is a blank, starts a comment, is a delimiter or a bracket, or
starts an operand. -/
theorem feedBetween_told
    (blank : isBlank c = true → lx.pending ≠ .adjacent → motive lx)
    (spaced : isBlank c = true → lx.pending = .adjacent → motive { lx with pending := .blank })
    (sign : c = '=' → motive (lx.operatorSign c position))
    (signed : c = '#' → lx.pending = .start →
      motive { lx.operatorSign c position with mode := .comment "" })
    (remark : c = '#' → lx.pending ≠ .start → motive { lx with mode := .comment "" })
    (delimited : ∀ delimiter : Delimiter, delimiter.symbol = c →
      motive (lx.delimit delimiter position))
    (separated : c = ',' → motive (lx.comma position))
    (closed : ∀ closer : Bracket, closer.closeSymbol = c →
      motive (lx.closeBracket closer position))
    (caret : c = '^' → motive
      { lx.beginOperand
          { form := .relative, kind := .ancestor, span := ⟨position, position + c.utf8Size⟩ }
          position with mode := .number lx.arena.size })
    (literal : isQuote c = true → motive
      { lx.beginOperand
          { form := .quoted, quote := some c, span := ⟨position, position + c.utf8Size⟩ }
          position with mode := .quoted lx.arena.size c false })
    (word : c ≠ '#' → isQuote c = false →
      motive { (lx.beginOperand (.startingAt .plain position) position).pushChar
        lx.arena.size c position with mode := .bare lx.arena.size }) :
    motive (lx.feedBetween c position) := by
  unfold feedBetween
  dsimp only
  by_cases hblank : isBlank c = true
  · rw [if_pos hblank]
    split
    · next hpending => exact spaced hblank hpending
    · next hpending => exact blank hblank hpending
  rw [if_neg hblank]
  by_cases hsign : (c == '=' && lx.pending == .start) = true
  · rw [if_pos hsign]
    exact sign (beq_iff_eq.1 (Bool.and_eq_true_iff.1 hsign).1)
  rw [if_neg hsign]
  by_cases hcomment : (c == '#') = true
  · rw [if_pos hcomment]
    split
    · next hpending => exact signed (beq_iff_eq.1 hcomment) hpending
    · next hpending => exact remark (beq_iff_eq.1 hcomment) hpending
  rw [if_neg hcomment]
  have hnumber : c ≠ '#' := fun heq => hcomment (beq_iff_eq.2 heq)
  -- the character is compared with one symbol after the other
  split
  · next hdot => exact delimited .dot (beq_iff_eq.1 hdot).symm
  split
  · next hsquare => exact delimited (.opening .square) (beq_iff_eq.1 hsquare).symm
  split
  · next hround => exact delimited (.opening .round) (beq_iff_eq.1 hround).symm
  split
  · next hcomma => exact separated (beq_iff_eq.1 hcomma)
  split
  · next hsquare => exact closed .square (beq_iff_eq.1 hsquare).symm
  split
  · next hround => exact closed .round (beq_iff_eq.1 hround).symm
  split
  · next hcaret => exact caret (beq_iff_eq.1 hcaret)
  split
  · next hquote => exact literal hquote
  · next hquote => exact word hnumber (Bool.eq_false_iff.2 hquote)

/-- What a character does between operands, whatever character it is. -/
theorem feedBetween_cases
    (same : motive lx)
    (spaced : lx.pending = .adjacent → motive { lx with pending := .blank })
    (sign : motive (lx.operatorSign c position))
    (signed : lx.pending = .start → motive { lx.operatorSign c position with mode := .comment "" })
    (remark : lx.pending ≠ .start → motive { lx with mode := .comment "" })
    (delimited : ∀ delimiter, motive (lx.delimit delimiter position))
    (separated : motive (lx.comma position))
    (closed : ∀ closer, motive (lx.closeBracket closer position))
    (opened : ∀ (lexeme : Lexeme) (mode : Mode), lexeme.Unlinked →
      (mode = .number lx.arena.size ∨ mode = .quoted lx.arena.size c false) →
        motive { lx.beginOperand lexeme position with mode })
    (word : motive { (lx.beginOperand (.startingAt .plain position) position).pushChar
      lx.arena.size c position with mode := .bare lx.arena.size }) :
    motive (lx.feedBetween c position) := by
  apply lx.feedBetween_told (motive := motive)
  case blank => exact fun _ _ => same
  case spaced => exact fun _ => spaced
  case sign => exact fun _ => sign
  case signed => exact fun _ => signed
  case remark => exact fun _ => remark
  case delimited => exact fun delimiter _ => delimited delimiter
  case separated => exact fun _ => separated
  case closed => exact fun closer _ => closed closer
  case caret => exact fun _ => opened _ _ rfl (Or.inl rfl)
  case literal => exact fun _ => opened _ _ rfl (Or.inr rfl)
  case word => exact fun _ _ => word

/-- **A character goes on with what is being read**, or ends it and is read between operands. -/
theorem feed_cases {fed : Lexer} (hfed : { lx with lastPosition := position } = fed)
    (quoted : ∀ id quote escaping, fed.mode = .quoted id quote escaping →
      motive (fed.feedQuoted id quote escaping c position))
    (pushed : ∀ id, fed.mode = .number id ∨ fed.mode = .bare id →
      motive (fed.pushChar id c position))
    (numbered : ∀ id, fed.mode = .number id →
      motive ((fed.endNumber id position).feedBetween c position))
    (named : ∀ id, fed.mode = .bare id → motive (fed.endOperand.feedBetween c position))
    (remark : ∀ text, fed.mode = .comment text →
      motive { fed with mode := .comment (text.push c) })
    (between : fed.mode = .between → motive (fed.feedBetween c position)) :
    motive (lx.feed c position) := by
  unfold feed
  rw [hfed]
  dsimp only
  cases hmode : fed.mode with
  | quoted id quote escaping => exact quoted id quote escaping hmode
  | number id =>
      dsimp only
      split
      · exact pushed id (Or.inl hmode)
      · exact numbered id hmode
  | bare id =>
      dsimp only
      split
      · exact pushed id (Or.inr hmode)
      · exact named id hmode
  | comment text => exact remark text hmode
  | between => exact between hmode

/-- What every character keeps all of them keep. -/
theorem feedAll_keeps
    (step : ∀ lx c position, motive lx → motive (feed lx c position)) (chars : List Char) :
    ∀ (lx : Lexer) (position : Nat), motive lx → motive (lx.feedAll position chars) := by
  induction chars with
  | nil => intro lx position h; exact h
  | cons c rest ih => intro lx position h; exact ih _ _ (step lx c position h)

end Lexer

end LayerTemplates
