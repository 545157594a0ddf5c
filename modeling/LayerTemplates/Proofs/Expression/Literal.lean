/-
  LayerTemplates.Proofs.Expression.Literal
  ────────────────────────────────────────
  Whether a quoted literal is open depends on the characters that were fed, and on nothing
  else.

  Of everything the lexer knows, its operands, its brackets and its arena, quoting needs only
  what `Quoting` keeps: literals open with a quote outside comments and close with the same
  quote, unless an escape character stands before it.  Linking operands, delimiters and
  violations of the grammar leave it alone.

  Main statements:
    * `Lexer.quoting_feed` — one character moves the quoting on, whatever the lexer knows.
    * `Lexer.inLiteral_feedAll` — neither the arena nor the position matters to it.
-/
import LayerTemplates.Proofs.Expression.Accepting
import LayerTemplates.Proofs.Expression.Steps

namespace LayerTemplates

/-! ## §1. Quoting. -/

/-- As much of what the lexer is reading as quoting depends on. -/
inductive Quoting where
  /-- No literal is open. -/
  | outside
  /-- A literal is open; after an escape character the next one is taken as it is. -/
  | inside (quote : Char) (escaping : Bool)
  /-- A comment, in which quotes are ordinary text. -/
  | comment
  deriving Repr, DecidableEq, Inhabited

namespace Quoting

/-- The quoting after one more character. -/
def next (escape : Char) : Quoting → Char → Quoting
  | outside, c => if c == '#' then comment else if isQuote c then inside c false else outside
  | inside quote true, _ => inside quote false
  | inside quote false, c =>
      if c == escape then inside quote true
      else if c == quote then outside
      else inside quote false
  | comment, _ => comment

/-- Inside a literal only the escape character and the quote that opened it mean something; an
escape character that is that quote is read as an escape. -/
theorem next_inside (escape quote c : Char) :
    (inside quote false).next escape c
      = if c == escape then inside quote true
        else if c == quote then outside
        else inside quote false := rfl

/-- Whether a literal is open. -/
def isInside : Quoting → Bool
  | inside _ _ => true
  | outside | comment => false

variable {escape c : Char}

/-- A character that opens neither a comment nor a literal. -/
theorem next_outside (hcomment : (c == '#') = false) (hquote : isQuote c = false) :
    outside.next escape c = outside := by
  simp [next, hcomment, hquote]

/-- A quote opens a literal, if it does not start a comment. -/
theorem next_outside_of_isQuote (hcomment : (c == '#') = false) (hquote : isQuote c = true) :
    outside.next escape c = inside c false := by
  simp [next, hcomment, hquote]

/-- Characters of words are neither quotes nor number signs. -/
theorem next_outside_of_isLexemeChar (h : isLexemeChar c = true) :
    outside.next escape c = outside := by
  refine next_outside ?_ (not_isQuote_of_isLexemeChar h)
  simp only [beq_eq_false_iff_ne]
  rintro rfl
  exact absurd h (by decide)

/-- A blank is neither a quote nor a number sign, so it changes nothing outside literals. -/
theorem next_outside_of_isBlank (h : isBlank c = true) : outside.next escape c = outside := by
  -- a blank is none of the listed quotes, and no number sign
  have hblanks : (blanks.all fun b => !(b == '#') && !isQuote b) = true := by decide
  have hc := List.all_eq_true.1 hblanks c (List.contains_iff_mem.1 h)
  simp only [Bool.and_eq_true, Bool.not_eq_true'] at hc
  exact next_outside hc.1 hc.2

end Quoting

/-- The quoting of what is being read. -/
def Mode.quoting : Mode → Quoting
  | .quoted _ quote escaping => .inside quote escaping
  | .comment _ => .comment
  | .between | .bare _ | .number _ => .outside

namespace Lexer

variable (lx : Lexer)

/-- What the scanner asks for, before it takes a closing tag for one, is read off the quoting. -/
theorem inLiteral_eq : lx.inLiteral = lx.mode.quoting.isInside := by
  unfold inLiteral
  cases lx.mode <;> rfl

/-! ## §2. What leaves the mode alone. -/

/-- What the lexer is reading, and the escape character it takes. -/
def reads : Mode × Char := (lx.mode, lx.escape)

theorem reads_ite_note (p : Prop) [Decidable p] (cause : Cause) (position : Nat) :
    (if p then lx.note cause position else lx).reads = lx.reads := by
  split <;> rfl

theorem reads_setAnchor (id : LexemeId) : (lx.setAnchor id).reads = lx.reads := by
  unfold setAnchor
  split <;> rfl

theorem reads_joinSibling (id : LexemeId) : (lx.joinSibling id).reads = lx.reads := by
  unfold joinSibling
  dsimp only
  cases lx.groups <;> exact reads_setAnchor _ id

/-- Linking an operand changes links and issues, and leaves what is being read as it is. -/
theorem reads_joinOperand (id : LexemeId) (position : Nat) :
    (lx.joinOperand id position).reads = lx.reads := by
  unfold joinOperand
  split
  · exact reads_setAnchor _ id
  · exact reads_joinSibling _ id
  · split
    · exact lx.reads_joinSibling id
    · exact reads_joinSibling _ id
  · split <;> rfl
  · exact lx.reads_joinSibling id
  · split <;> exact reads_setAnchor _ id
  · split <;> exact reads_setAnchor _ id

theorem reads_beginOperand (lexeme : Lexeme) (position : Nat) :
    (lx.beginOperand lexeme position).reads = lx.reads :=
  reads_joinOperand { lx with arena := lx.arena.alloc lexeme } _ _

/-- The escape character of a body never changes. -/
theorem escape_beginOperand (lexeme : Lexeme) (position : Nat) :
    (lx.beginOperand lexeme position).escape = lx.escape :=
  congrArg Prod.snd (lx.reads_beginOperand lexeme position)

theorem reads_openBracket (bracket : Bracket) (anchor : LexemeId) (position : Nat) :
    (lx.openBracket bracket anchor position).reads = lx.reads := by
  cases bracket with
  | square => rfl
  | round => exact lx.reads_ite_note _ _ _

/-- A dot or an opening bracket, in place or not, does not change what is being read. -/
theorem reads_delimit (delimiter : Delimiter) (position : Nat) :
    (lx.delimit delimiter position).reads = lx.reads := by
  unfold delimit
  split
  · rfl
  · rfl
  all_goals
    split
    · rfl
    · split
      · rfl
      · cases delimiter with
        | opening bracket => exact lx.reads_openBracket _ _ _
        | dot | comma => rfl

/-- Neither does a comma. -/
theorem reads_comma (position : Nat) : (lx.comma position).reads = lx.reads := by
  unfold comma
  repeat' split
  all_goals rfl

theorem reads_noteDoubled (closer : Bracket) (position : Nat) :
    (lx.noteDoubled closer position).reads = lx.reads := by
  unfold noteDoubled
  repeat' split
  all_goals rfl

/-- Neither does a closing bracket, whatever it closes and whatever is noted of it. -/
theorem reads_closeBracket (closer : Bracket) (position : Nat) :
    (lx.closeBracket closer position).reads = lx.reads := by
  have hdoubled := lx.reads_noteDoubled closer position
  unfold closeBracket
  split
  · exact hdoubled
  · dsimp only
    split <;> exact hdoubled

/-! ## §3. Characters. -/

/-- The next character moves the quoting on by that character alone. -/
def Moves (lx after : Lexer) (c : Char) : Prop :=
  after.mode.quoting = lx.mode.quoting.next lx.escape c ∧ after.escape = lx.escape

variable {lx} {after : Lexer} {c : Char}

/-- The same is being read, and the character has no meaning for quoting. -/
theorem Moves.of_reads (h : after.reads = lx.reads)
    (hnext : lx.mode.quoting.next lx.escape c = lx.mode.quoting) : Moves lx after c := by
  obtain ⟨hmode, hescape⟩ := Prod.mk.inj h
  refine ⟨?_, hescape⟩
  rw [hnext, hmode]

/-- What was being read may end first, if no literal was open. -/
theorem Moves.ended {before : Lexer} (h : Moves before after c)
    (hquoting : before.mode.quoting = lx.mode.quoting) (hescape : before.escape = lx.escape) :
    Moves lx after c := by
  unfold Moves at h ⊢
  rwa [hquoting, hescape] at h

variable (lx)

/-- Inside a literal the lexer looks at the escape character first, then at the quote, as quoting
does. -/
theorem moves_feedQuoted {id : LexemeId} {quote : Char} {escaping : Bool}
    (h : lx.mode = .quoted id quote escaping) (c : Char) (position : Nat) :
    Moves lx (lx.feedQuoted id quote escaping c position) c := by
  have hquoting : lx.mode.quoting = .inside quote escaping := by rw [h]; rfl
  -- how a literal is closed is of no interest here
  have hcloses : ∀ after : Lexer, escaping = false → c ≠ lx.escape → c = quote →
      after.mode.quoting = .outside → after.escape = lx.escape → Moves lx after c := by
    rintro after rfl hescape rfl hafter hsame
    refine ⟨?_, hsame⟩
    rw [hquoting, Quoting.next_inside, if_neg (by simpa using hescape), if_pos (by simp), hafter]
  apply lx.feedQuoted_told (motive := fun after => Moves lx after c)
  case escaped =>
    rintro rfl
    exact ⟨by rw [hquoting]; rfl, rfl⟩
  case escape =>
    rintro rfl rfl
    refine ⟨?_, rfl⟩
    rw [hquoting, Quoting.next_inside, if_pos (by simp)]
    rfl
  case empty => exact fun hopen hescape hclose => hcloses _ hopen hescape hclose rfl rfl
  case closed => exact fun hopen hescape hclose _ => hcloses _ hopen hescape hclose rfl rfl
  case pushed =>
    rintro rfl hescape hclose
    refine Moves.of_reads rfl ?_
    rw [hquoting, Quoting.next_inside, if_neg (by simpa using hescape),
      if_neg (by simpa using hclose)]

/-- Outside literals all characters but the number sign and the quotes leave the quoting as it is,
for whatever reason they are read. -/
theorem moves_feedBetween (h : lx.mode.quoting = .outside) (c : Char) (position : Nat) :
    Moves lx (lx.feedBetween c position) c := by
  -- every character but the number sign and the quotes goes on outside of literals
  have hstays : ∀ after : Lexer, after.reads = lx.reads →
      Quoting.outside.next lx.escape c = .outside → Moves lx after c :=
    fun after hafter hnext => Moves.of_reads hafter (by rw [h, hnext])
  apply lx.feedBetween_told (motive := fun after => Moves lx after c)
  case blank => exact fun hblank _ => hstays _ rfl (Quoting.next_outside_of_isBlank hblank)
  case spaced => exact fun hblank _ => hstays _ rfl (Quoting.next_outside_of_isBlank hblank)
  case sign =>
    rintro rfl
    exact ⟨by rw [h]; rfl, lx.escape_beginOperand _ _⟩
  case signed =>
    rintro rfl _
    exact ⟨by rw [h]; rfl, lx.escape_beginOperand _ _⟩
  case remark =>
    rintro rfl _
    exact ⟨by rw [h]; rfl, rfl⟩
  case delimited =>
    rintro delimiter rfl
    refine hstays _ (lx.reads_delimit _ _) ?_
    cases delimiter with
    | dot | comma => rfl
    | opening bracket => cases bracket <;> rfl
  case separated =>
    rintro rfl
    exact hstays _ (lx.reads_comma _) rfl
  case closed =>
    rintro closer rfl
    refine hstays _ (lx.reads_closeBracket _ _) ?_
    cases closer <;> rfl
  case caret =>
    rintro rfl
    exact ⟨by rw [h]; rfl, lx.escape_beginOperand _ _⟩
  case literal =>
    intro hquote
    have hnumber : (c == '#') = false := by
      rw [beq_eq_false_iff_ne]
      rintro rfl
      exact absurd hquote (by decide)
    refine ⟨?_, lx.escape_beginOperand _ _⟩
    rw [h, Quoting.next_outside_of_isQuote hnumber hquote]
    rfl
  case word =>
    intro hnumber hquote
    refine ⟨?_, lx.escape_beginOperand _ _⟩
    rw [h, Quoting.next_outside (beq_eq_false_iff_ne.2 hnumber) hquote]
    rfl

/-- **One character moves the quoting on**, whatever else the lexer knows. -/
theorem quoting_feed (c : Char) (position : Nat) : Moves lx (lx.feed c position) c := by
  -- the position of the character is kept first, and no quoting depends on it
  have hkept : ({ lx with lastPosition := position } : Lexer).reads = lx.reads := rfl
  unfold feed
  dsimp only
  generalize ({ lx with lastPosition := position } : Lexer) = fed at hkept
  obtain ⟨hreads, hescape⟩ := Prod.mk.inj hkept
  refine (?_ : Moves fed _ c).ended (congrArg Mode.quoting hreads) hescape
  rw [← hreads]
  cases hmode : fed.mode with
  | quoted id quote escaping => exact fed.moves_feedQuoted hmode c position
  | number id =>
      dsimp only
      split
      · next hdigit =>
          refine Moves.of_reads rfl ?_
          rw [hmode]
          exact Quoting.next_outside_of_isLexemeChar (isLexemeChar_of_isDigit hdigit)
      · have hended : (fed.endNumber id position).mode = .between
            ∧ (fed.endNumber id position).escape = fed.escape := by
          unfold endNumber
          split <;> exact ⟨rfl, rfl⟩
        refine (moves_feedBetween _ (by rw [hended.1]; rfl) c position).ended ?_ hended.2
        rw [hmode, hended.1]
        rfl
  | bare id =>
      dsimp only
      split
      · next hchar =>
          refine Moves.of_reads rfl ?_
          rw [hmode]
          exact Quoting.next_outside_of_isLexemeChar hchar
      · refine (fed.endOperand.moves_feedBetween rfl c position).ended ?_ rfl
        rw [hmode]
        rfl
  | comment text => exact ⟨by rw [hmode]; rfl, hescape.symm⟩
  | between => exact fed.moves_feedBetween (by rw [hmode]; rfl) c position

/-! ## §4. Bodies. -/

/-- By induction on the characters: the quoting behind them is that of a machine with no memory but
its own. -/
theorem quoting_feedAll (chars : List Char) :
    ∀ (lx : Lexer) (position : Nat),
      (lx.feedAll position chars).mode.quoting
        = chars.foldl (Quoting.next lx.escape) lx.mode.quoting := by
  induction chars with
  | nil => intro lx position; rfl
  | cons c rest ih =>
      intro lx position
      obtain ⟨hquoting, hescape⟩ := lx.quoting_feed c position
      rw [feedAll, ih, hquoting, hescape]
      rfl

/-- **Whether a literal is open after some characters** depends neither on the arena nor on the
position of the first of them. -/
theorem inLiteral_feedAll (escape : Char) (a a' : Arena) (position position' : Nat)
    (chars : List Char) :
    (feedAll { arena := a, escape } position chars).inLiteral
      = (feedAll { arena := a', escape } position' chars).inLiteral := by
  rw [inLiteral_eq, inLiteral_eq, quoting_feedAll, quoting_feedAll]

end Lexer

end LayerTemplates
