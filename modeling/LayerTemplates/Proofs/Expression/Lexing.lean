/-
  LayerTemplates.Proofs.Expression.Lexing
  ───────────────────────────────────────
  The lexer finds nothing wrong in exactly the bodies of the grammar.

  From here on the simulation is followed: one character keeps the lexer and the machine
  together or leaves an issue where the machine stops, a whole body does so by induction, and
  at the end of the body the checks of the lexer ask for what the machine asks for.

  Main statements:
    * `agrees_feed` — one character.
    * `Sim.finish_iff` — the rest of a body.
    * `read_issues_eq_nil_iff` — a body is read without an issue if it is of the grammar.
-/
import LayerTemplates.Proofs.Expression.Accepting
import LayerTemplates.Proofs.Expression.Remaining
import LayerTemplates.Proofs.Expression.Simulation

namespace LayerTemplates

variable {escape : Char} {lx : Lexer} {s s' : Config} {id : LexemeId}

/-! ## §1. The start of an operand. -/

/-- What is being read is no part of being in step. -/
theorem InStep.withMode (h : InStep escape lx s) (mode : Mode) (reading : Phase) :
    InStep escape { lx with mode } { s with reading } :=
  ⟨h.escape, h.clean, h.pending, h.groups, h.linked, h.last, h.lead⟩

theorem Config.begin_reading {reading : Phase} {word : Option (List Char)}
    (h : s.begin reading word = some s') : s'.reading = reading := by
  unfold begin at h
  split at h
  case h_2 =>
    split at h
    · exact congrArg Config.reading (Option.some.inj h).symm
    · exact absurd h (by simp)
  case h_3 => exact absurd h (by simp)
  all_goals exact congrArg Config.reading (Option.some.inj h).symm

/-- A word that begins with a character is the empty word with the character behind it. -/
theorem Config.begin_word (s : Config) (c : Char) :
    s.begin .word (some [c])
      = (s.begin .word (some [])).map fun s' => { s' with lead := s'.lead.map (· ++ [c]) } := by
  unfold begin
  cases s.pending with
  | start | adjacent | delimiter d => rfl
  | blank =>
      dsimp only
      split <;> rfl

theorem agrees_number (h : InStep escape lx s) (hplaced : Placed lx.pending lx.groups lx.last)
    (span : Span) (position : Nat) :
    Agrees escape
      { lx.beginOperand { form := .relative, kind := .ancestor, span } position with
        mode := .number lx.arena.size }
      (s.begin (.number false) none) := by
  cases hs : s.begin (.number false) none with
  | none => exact h.begin_refused hs _ _
  | some s' =>
      have hbegun := h.begin hplaced { form := .relative, kind := .ancestor, span } rfl
        (Lexeme.word?_of_form (by simp)) hs position
      refine ⟨hbegun.inStep.withMode _ s'.reading, ?_⟩
      show ReadsAlike _ s' _ s'.reading
      rw [Config.begin_reading hs]
      refine .number hbegun.anchored hbegun.inside (congrArg (·.2.1) hbegun.spelling) ?_
      rw [show (Arena.get _ _).value = "" from congrArg (·.1) hbegun.spelling]
      rfl

theorem agrees_literal (h : InStep escape lx s) (hplaced : Placed lx.pending lx.groups lx.last)
    (quote : Char) (span : Span) (position : Nat) :
    Agrees escape
      { lx.beginOperand { form := .quoted, quote := some quote, span } position with
        mode := .quoted lx.arena.size quote false }
      (s.begin (.literal quote false false) none) := by
  cases hs : s.begin (.literal quote false false) none with
  | none => exact h.begin_refused hs _ _
  | some s' =>
      have hbegun := h.begin hplaced { form := .quoted, quote := some quote, span } rfl
        (Lexeme.word?_of_form (by simp)) hs position
      refine ⟨hbegun.inStep.withMode _ s'.reading, ?_⟩
      show ReadsAlike _ s' _ s'.reading
      rw [Config.begin_reading hs]
      refine .literal hbegun.anchored hbegun.inside ?_ ?_
      · rw [show (Arena.get _ _).quote = some quote from congrArg (·.2.2) hbegun.spelling]
        simp
      · rw [show (Arena.get _ _).value = "" from congrArg (·.1) hbegun.spelling]
        rfl

/-- The lexer has begun a bare word and taken its first character. -/
theorem InStep.begin_word (h : InStep escape lx s) (hplaced : Placed lx.pending lx.groups lx.last)
    (hs : s.begin .word (some []) = some s') (c : Char) (position : Nat) :
    Begun escape (.startingAt .plain position) lx.arena.size
        (lx.beginOperand (.startingAt .plain position) position) s'
      ∧ InStep escape
        ((lx.beginOperand (.startingAt .plain position) position).pushChar lx.arena.size c position)
        { s' with lead := s'.lead.map (· ++ [c]) } := by
  have hbegun := h.begin hplaced (.startingAt .plain position) rfl rfl hs position
  exact ⟨hbegun, hbegun.inStep.pushChar_word hbegun.inside hbegun.leads c position⟩

theorem agrees_word (h : InStep escape lx s) (hplaced : Placed lx.pending lx.groups lx.last)
    (c : Char) (position : Nat) :
    Agrees escape
      { (lx.beginOperand (.startingAt .plain position) position).pushChar lx.arena.size c
          position with
        mode := .bare lx.arena.size }
      (s.begin .word (some [c])) := by
  rw [Config.begin_word]
  cases hs : s.begin .word (some []) with
  | none => exact h.begin_refused hs _ _
  | some s' =>
      obtain ⟨hbegun, hin⟩ := h.begin_word hplaced hs c position
      refine ⟨hin.withMode _ s'.reading, ?_⟩
      show ReadsAlike _ _ _ s'.reading
      rw [Config.begin_reading hs]
      refine .word hbegun.anchored ?_ fun hlead => hbegun.leads fun hnone => hlead ?_
      · exact Nat.lt_of_lt_of_eq hbegun.inside (Arena.size_modify _ _ _).symm
      · show s'.lead.map _ = none
        rw [hnone]
        rfl

/-- A leading sign is an operand of one character. -/
theorem InStep.signed (h : InStep escape lx s) (hplaced : Placed lx.pending lx.groups lx.last)
    (hstart : s.pending = .start) (c : Char) (position : Nat) :
    InStep escape (lx.operatorSign c position) (s.signed c)
      ∧ (lx.operatorSign c position).anchor ≠ none := by
  have hs : s.begin .word (some [])
      = some { s with reading := .word, called := false, lead := some [] } := by
    unfold Config.begin
    rw [hstart]
  obtain ⟨hbegun, hin⟩ := h.begin_word hplaced hs c position
  exact ⟨⟨hin.escape, hin.clean, rfl, hin.groups, hin.linked, hin.last, hin.lead⟩,
    hbegun.anchored⟩

/-! ## §2. Characters. -/

theorem agrees_blank (h : InStep escape lx s) (hplaced : Placed lx.pending lx.groups lx.last)
    (hmode : lx.mode = .between) (hreading : s.reading = .between) :
    Sim escape (if lx.pending = .adjacent then { lx with pending := .blank } else lx) s.spaced := by
  unfold Config.spaced
  by_cases hp : lx.pending = .adjacent
  · rw [if_pos hp, if_pos (h.pending.symm.trans hp)]
    refine ⟨⟨h.escape, h.clean, rfl, h.groups, h.linked, h.last, h.lead⟩, ?_⟩
    show ReadsAlike _ _ lx.mode s.reading
    rw [hmode, hreading]
    rcases hplaced.before with hp' | ⟨-, x, hx⟩
    · rw [hp] at hp'
      rcases hp' with hp' | ⟨d, hp'⟩ <;> exact absurd hp' (by simp)
    · exact .between (.operand hx (Or.inr rfl))
  · rw [if_neg hp, if_neg fun hs => hp (h.pending.trans hs)]
    refine ⟨h, ?_⟩
    rw [hmode, hreading]
    exact .between hplaced

theorem agrees_sign (h : InStep escape lx s) (hplaced : Placed lx.pending lx.groups lx.last)
    (hreading : s.reading = .between) (hstart : s.pending = .start) (c : Char)
    (position : Nat) : Sim escape (lx.operatorSign c position) (s.signed c) := by
  obtain ⟨hin, hanchor⟩ := h.signed hplaced hstart c position
  refine ⟨hin, ?_⟩
  show ReadsAlike _ _ _ s.reading
  rw [hreading]
  obtain ⟨x, hx⟩ := Option.ne_none_iff_exists'.1 hanchor
  rw [Lexer.anchor_eq] at hx
  exact .between (.operand hx (Or.inr rfl))

theorem agrees_comment (h : InStep escape lx s) (hplaced : Placed lx.pending lx.groups lx.last)
    (position : Nat) :
    Sim escape
      { (if lx.pending = .start then lx.operatorSign '#' position else lx) with
        mode := .comment "" }
      { (if s.pending = .start then s.signed '#' else s) with reading := .comment } := by
  by_cases hp : s.pending = .start
  · obtain ⟨hin, -⟩ := h.signed hplaced hp '#' position
    rw [if_pos hp, if_pos (h.pending.trans hp)]
    refine ⟨hin.withMode _ _, .comment ?_⟩
    rw [hin.pending]
    simp
  · have hp' : lx.pending ≠ .start := fun hstart => hp (h.pending.symm.trans hstart)
    rw [if_neg hp, if_neg hp']
    exact ⟨h.withMode _ _, .comment hp'⟩

/-- **A character outside operands**: the lexer goes on as the machine does. -/
theorem agrees_between (h : InStep escape lx s) (hplaced : Placed lx.pending lx.groups lx.last)
    (hmode : lx.mode = .between) (hreading : s.reading = .between) (c : Char) (position : Nat) :
    Agrees escape (lx.feedBetween c position) (s.between c) := by
  have heq : ∀ d : Char, ((c == d) = true) = (c = d) := fun d => propext beq_iff_eq
  have hsign : ((c == '=' && lx.pending == .start) = true) = (c = '=' ∧ s.pending = .start) := by
    rw [← h.pending]
    exact propext (by rw [Bool.and_eq_true, beq_iff_eq, beq_iff_eq])
  -- both make the same tests in the same order
  unfold Lexer.feedBetween Config.between
  simp only [heq, hsign]
  by_cases hblank : isBlank c = true
  · rw [if_pos hblank, if_pos hblank]
    exact agrees_blank h hplaced hmode hreading
  rw [if_neg hblank, if_neg hblank]
  by_cases hc : c = '=' ∧ s.pending = .start
  · rw [if_pos hc, if_pos hc]
    exact agrees_sign h hplaced hreading hc.2 c position
  rw [if_neg hc, if_neg hc]
  by_cases hc : c = '#'
  · rw [if_pos hc, if_pos hc, hc]
    exact agrees_comment h hplaced position
  rw [if_neg hc, if_neg hc]
  by_cases hc : c = '.'
  · rw [if_pos hc, if_pos hc]
    exact agrees_delimit h hplaced hmode hreading (by simp) position
  rw [if_neg hc, if_neg hc]
  by_cases hc : c = '['
  · rw [if_pos hc, if_pos hc]
    exact agrees_delimit h hplaced hmode hreading (by simp) position
  rw [if_neg hc, if_neg hc]
  by_cases hc : c = '('
  · rw [if_pos hc, if_pos hc]
    exact agrees_delimit h hplaced hmode hreading (by simp) position
  rw [if_neg hc, if_neg hc]
  by_cases hc : c = ','
  · rw [if_pos hc, if_pos hc]
    exact agrees_comma h hplaced hmode hreading position
  rw [if_neg hc, if_neg hc]
  by_cases hc : c = ']'
  · rw [if_pos hc, if_pos hc]
    exact agrees_close h hplaced hmode hreading .square position
  rw [if_neg hc, if_neg hc]
  by_cases hc : c = ')'
  · rw [if_pos hc, if_pos hc]
    exact agrees_close h hplaced hmode hreading .round position
  rw [if_neg hc, if_neg hc]
  by_cases hc : c = '^'
  · rw [if_pos hc, if_pos hc]
    exact agrees_number h hplaced _ position
  rw [if_neg hc, if_neg hc]
  by_cases hquote : isQuote c = true
  · rw [if_pos hquote, if_pos hquote]
    exact agrees_literal h hplaced c _ position
  rw [if_neg hquote, if_neg hquote]
  exact agrees_word h hplaced c position

/-- An operand has ended, and the character after it stands outside operands. -/
theorem agrees_ended (h : InStep escape lx s) (hanchor : lx.anchor ≠ none) (c : Char)
    (position : Nat) :
    Agrees escape (lx.endOperand.feedBetween c position) (s.ended.between c) := by
  have hsim := h.ended hanchor
  cases hsim.reading with
  | between placed => exact agrees_between hsim.toInStep placed rfl rfl c position

/-- A character of an operand that is no bare word. -/
theorem InStep.pushChar_unled (h : InStep escape lx s) (hid : id < lx.arena.size)
    (hother : (lx.arena.get id).quote ≠ none ∨ (lx.arena.get id).form ≠ .plain) (c : Char)
    (position : Nat) :
    InStep escape (lx.pushChar id c position) s ∧ id < (lx.pushChar id c position).arena.size
      ∧ ((lx.pushChar id c position).arena.get id).quote = (lx.arena.get id).quote
      ∧ ((lx.pushChar id c position).arena.get id).form = (lx.arena.get id).form
      ∧ true = !((lx.pushChar id c position).arena.get id).value.isEmpty := by
  refine ⟨h.modify_unled rfl ?_, Nat.lt_of_lt_of_eq hid (Arena.size_modify _ _ _).symm,
    Arena.comp_get_modify _ _ _ Lexeme.quote rfl, Arena.comp_get_modify _ _ _ Lexeme.form rfl, ?_⟩
  · rcases hother with hquote | hform
    · rw [Lexeme.word?_of_quote hquote]
      exact Lexeme.word?_of_quote hquote
    · rw [Lexeme.word?_of_form hform]
      exact Lexeme.word?_of_form hform
  · unfold Lexer.pushChar
    dsimp only
    rw [Arena.get_modify_self _ _ hid]
    simp

/-- The quote that closes a literal, which has to have a value. -/
theorem agrees_closed {quote : Char} {filled : Bool} (h : InStep escape lx s)
    (hanchor : lx.anchor ≠ none) (hquoted : (lx.arena.get id).quote ≠ none)
    (hvalue : filled = !(lx.arena.get id).value.isEmpty) (span : Lexeme → Span)
    (form : Lexeme → LexemeForm) (position : Nat) :
    let closed : Lexer :=
      { lx with arena := lx.arena.modify id fun l => { l with span := span l, form := form l } }
    Agrees escape
      (if (closed.arena.get id).value.isEmpty = true then
        closed.note (.emptyLiteral quote) position else closed).endOperand
      (if filled = true then some s.ended else none) := by
  intro closed
  have hin : InStep escape closed s := by
    refine h.modify_unled rfl ?_
    rw [Lexeme.word?_of_quote hquoted]
    exact Lexeme.word?_of_quote hquoted
  have hempty : (closed.arena.get id).value.isEmpty = (lx.arena.get id).value.isEmpty :=
    Arena.comp_get_modify lx.arena id id (fun l => l.value.isEmpty) rfl
  rw [hempty, hvalue]
  by_cases hnone : (lx.arena.get id).value.isEmpty = true
  · rw [if_pos hnone, if_neg (by simp [hnone])]
    exact closed.note_ne_nil _ _
  · rw [if_neg hnone, if_pos (by simp [hnone])]
    exact hin.ended hanchor

/-- **A character inside a quoted literal**: the lexer goes on as the machine does. -/
theorem agrees_quoted {quote : Char} {escaping filled : Bool} (h : InStep escape lx s)
    (hmode : lx.mode = .quoted id quote escaping)
    (hreading : s.reading = .literal quote escaping filled) (hanchor : lx.anchor ≠ none)
    (hid : id < lx.arena.size) (hquoted : (lx.arena.get id).quote ≠ none)
    (hvalue : filled = !(lx.arena.get id).value.isEmpty) (c : Char) (position : Nat) :
    Agrees escape (lx.feedQuoted id quote escaping c position) (s.step escape c) := by
  obtain ⟨hin, hid', hquote', -, hfilled⟩ := h.pushChar_unled hid (Or.inl hquoted) c position
  have hpushed : ((lx.pushChar id c position).arena.get id).quote ≠ none := by
    rw [hquote']
    exact hquoted
  unfold Lexer.feedQuoted Config.step
  rw [hreading]
  cases escaping with
  | true => exact ⟨hin.withMode _ _, .literal hanchor hid' hpushed hfilled⟩
  | false =>
      dsimp only
      rw [if_neg (by simp)]
      by_cases hescape : c = escape
      · rw [if_pos hescape, if_pos (beq_iff_eq.2 (hescape.trans h.escape.symm))]
        exact ⟨h.withMode _ _, .literal hanchor hid hquoted hvalue⟩
      rw [if_neg hescape, if_neg fun heq => hescape ((beq_iff_eq.1 heq).trans h.escape)]
      by_cases hclose : c = quote
      · rw [if_pos hclose, if_pos (beq_iff_eq.2 hclose)]
        exact agrees_closed h hanchor hquoted hvalue
          (fun l => ⟨l.span.start, position + c.utf8Size⟩)
          (fun l => if quote == rawQuote then .plain else l.form) position
      rw [if_neg hclose, if_neg fun heq => hclose (beq_iff_eq.1 heq)]
      refine ⟨hin.withMode (lx.pushChar id c position).mode _, ?_⟩
      show ReadsAlike _ _ lx.mode _
      rw [hmode]
      exact .literal hanchor hid' hpushed hfilled

/-- A character after the digits of a caret, of which there has to be one. -/
theorem agrees_endNumber {filled : Bool} (h : InStep escape lx s) (hanchor : lx.anchor ≠ none)
    (hvalue : filled = !(lx.arena.get id).value.isEmpty) (c : Char) (position : Nat) :
    Agrees escape ((lx.endNumber id position).feedBetween c position)
      (if filled = true then s.ended.between c else none) := by
  unfold Lexer.endNumber
  rw [hvalue]
  by_cases hnone : (lx.arena.get id).value.isEmpty = true
  · rw [if_pos hnone, if_neg (by simp [hnone])]
    exact (Lexer.issues_feedBetween _ c position).ne_nil (lx.note_ne_nil _ _)
  · rw [if_neg hnone, if_pos (by simp [hnone])]
    exact agrees_ended h hanchor c position

/-- **One character**: the lexer goes on as the machine does, or has noted an issue where the
machine stops. -/
theorem agrees_feed (h : Sim escape lx s) (c : Char) (position : Nat) :
    Agrees escape (lx.feed c position) (s.step escape c) := by
  obtain ⟨hin, hreads⟩ := h
  have hfed : InStep escape { lx with lastPosition := position } s :=
    ⟨hin.escape, hin.clean, hin.pending, hin.groups, hin.linked, hin.last, hin.lead⟩
  -- what is read decides which branch of either is taken
  obtain ⟨arena, escape', mode, pending, last, groups, roots, issues, lastPosition⟩ := lx
  obtain ⟨reading, pending', called, lead, brackets⟩ := s
  dsimp only at hreads hfed
  cases hreads with
  | between placed => exact agrees_between hfed placed rfl rfl c position
  | @word id anchored inside leads =>
      unfold Lexer.feed Config.step
      dsimp only
      by_cases hchar : isLexemeChar c = true
      · rw [if_pos hchar, if_pos hchar]
        refine ⟨hfed.pushChar_word inside leads c position, ?_⟩
        refine .word anchored (Nat.lt_of_lt_of_eq inside (Arena.size_modify _ _ _).symm)
          fun hlead => leads fun hnone => hlead ?_
        show lead.map _ = none
        rw [show lead = none from hnone]
        rfl
      · rw [if_neg hchar, if_neg hchar]
        exact agrees_ended hfed anchored c position
  | literal anchored inside quoted value =>
      exact agrees_quoted hfed rfl rfl anchored inside quoted value c position
  | @number id filled anchored inside relative value =>
      unfold Lexer.feed Config.step
      dsimp only
      by_cases hdigit : c.isDigit = true
      · rw [if_pos hdigit, if_pos hdigit]
        have hform : (arena.get id).form ≠ .plain := by
          rw [show (arena.get id).form = .relative from relative]
          simp
        obtain ⟨hpushed, inside', -, hform', hfilled⟩ :=
          hfed.pushChar_unled inside (Or.inr hform) c position
        exact ⟨hpushed.withMode _ _, .number anchored inside' (hform'.trans relative) hfilled⟩
      · rw [if_neg hdigit, if_neg hdigit]
        exact agrees_endNumber hfed anchored value c position
  | comment started => exact ⟨hfed.withMode _ _, .comment started⟩

/-! ## §3. Whole bodies. -/

theorem InStep.roots_ne_nil (h : InStep escape lx s) (hgroups : lx.groups = [])
    (hanchor : lx.anchor ≠ none) : lx.roots ≠ [] := by
  intro hroots
  rw [Lexer.anchor_eq, hgroups] at hanchor
  apply hanchor
  show lx.last = none
  rw [h.last, hroots]
  rfl

/-- The checks at the end of a body ask for no more than an operand outside brackets. -/
theorem InStep.whole_iff (h : InStep escape lx s) (hplaced : Placed lx.pending lx.groups lx.last)
    (hmode : lx.mode = .between) :
    (lx.issues = [] ∧ (∀ d, lx.pending ≠ .delimiter d) ∧ lx.groups = []
        ∧ (lx.roots = [] → lx.expression.comment ≠ none))
      ↔ s.groups = [] ∧ (s.pending = .adjacent ∨ s.pending = .blank) := by
  have hcomment : lx.expression.comment = none := by
    unfold Lexer.expression
    rw [hmode]
  have hbrackets : lx.groups = [] ↔ s.groups = [] := by
    rw [← h.groups, List.map_eq_nil_iff]
  rw [← h.pending, ← hbrackets]
  constructor
  · rintro ⟨-, hended, hgroups, hroots⟩
    refine ⟨hgroups, ?_⟩
    rcases hplaced.before with (hp | ⟨d, hp⟩) | ⟨hp, -⟩
    · rw [hp] at hplaced
      have hlast := h.last
      rw [hplaced.start_eq.2] at hlast
      exact absurd hcomment (hroots (List.getLast?_eq_none_iff.1 hlast.symm))
    · exact absurd hp (hended d)
    · exact hp
  · rintro ⟨hgroups, hp⟩
    refine ⟨h.clean, fun d hd => ?_, hgroups, fun hroots => ?_⟩
    · rw [hd] at hp
      exact absurd hp (by simp)
    · rcases hplaced.before with hp' | ⟨-, x, hx⟩
      · rcases hp with hp | hp <;> simp [hp] at hp'
      · refine absurd hroots (h.roots_ne_nil hgroups ?_)
        rw [Lexer.anchor_eq, hx]
        simp

/-- The end of a body ends an operand. -/
theorem InStep.whole_ended_iff (h : InStep escape lx s) (hanchor : lx.anchor ≠ none) :
    (lx.endOperand.issues = [] ∧ (∀ d, lx.endOperand.pending ≠ .delimiter d)
        ∧ lx.endOperand.groups = []
        ∧ (lx.endOperand.roots = [] → lx.endOperand.expression.comment ≠ none))
      ↔ s.groups = [] := by
  have hsim := h.ended hanchor
  cases hsim.reading with
  | between placed =>
      exact (hsim.toInStep.whole_iff placed rfl).trans (and_iff_left (Or.inl rfl))

/-- **The end of a body**: the lexer has nothing to note where the machine may end. -/
theorem Sim.finish_iff (h : Sim escape lx s) (position : Nat) :
    (lx.finish position).issues = [] ↔ s.Complete := by
  obtain ⟨hin, hreads⟩ := h
  refine (lx.issues_finish_eq_nil_iff position).trans ?_
  obtain ⟨arena, escape', mode, pending, last, groups, roots, issues, lastPosition⟩ := lx
  obtain ⟨reading, pending', called, lead, brackets⟩ := s
  dsimp only at hreads
  cases hreads with
  | between placed => exact hin.whole_iff placed rfl
  | word anchored _ _ => exact (hin.whole_ended_iff anchored).trans (and_iff_left trivial).symm
  | literal anchored _ _ _ =>
      exact iff_of_false (fun hwhole => Lexer.note_ne_nil _ _ _ hwhole.1) fun hs => hs.2
  | @number id filled anchored _ _ value =>
      unfold Lexer.settle Lexer.endNumber Config.Complete
      dsimp only
      rw [value]
      by_cases hnone : (arena.get id).value.isEmpty = true
      · rw [if_pos hnone]
        exact iff_of_false (fun hwhole => Lexer.note_ne_nil _ _ _ hwhole.1)
          fun hs => absurd hs.2 (by simp [hnone])
      · rw [if_neg hnone]
        exact (hin.whole_ended_iff anchored).trans (and_iff_left (by simp [hnone])).symm
  | comment started =>
      -- the comment itself is what the body holds, if it holds nothing else
      obtain rfl : pending = pending' := hin.pending
      have hbrackets : groups = [] ↔ brackets = [] := by
        rw [← show groups.map Group.bracket = brackets from hin.groups, List.map_eq_nil_iff]
      constructor
      · rintro ⟨-, hended, hgroups, -⟩
        refine ⟨hbrackets.1 hgroups, ?_⟩
        cases pending with
        | start => exact absurd rfl started
        | blank => exact Or.inr rfl
        | adjacent => exact Or.inl rfl
        | delimiter d => exact absurd rfl (hended d)
      · rintro ⟨hgroups, hp⟩
        refine ⟨hin.clean, fun d hd => ?_, hbrackets.2 hgroups, fun _ hnone => ?_⟩
        · rw [show pending = .delimiter d from hd] at hp
          simp at hp
        · exact absurd (show some _ = none from hnone) (by simp)

/-- **The rest of a body** leaves no issue if the machine accepts it. -/
theorem Sim.feedAll_iff (chars : List Char) (stop : Nat) :
    ∀ (lx : Lexer) (s : Config) (position : Nat), Sim escape lx s →
      (((lx.feedAll position chars).finish stop).issues = [] ↔ s.Accepts escape chars) := by
  -- once the machine has stopped the lexer has an issue, and keeps it to the end
  induction chars with
  | nil => intro lx s position h; exact h.finish_iff stop
  | cons c rest ih =>
      intro lx s position h
      have hagrees := agrees_feed h c position
      show (((lx.feed c position).feedAll _ rest).finish stop).issues = [] ↔ _
      unfold Config.Accepts
      cases hstep : s.step escape c with
      | none =>
          rw [hstep] at hagrees
          refine iff_of_false ?_ fun haccepts => ?_
          · exact Lexer.issues_finish_ne_nil _
              ((Lexer.issues_feedAll rest _ (position + c.utf8Size)).ne_nil hagrees) stop
          · obtain ⟨s', hs', -⟩ := haccepts
            exact absurd hs' (by simp)
      | some s' =>
          rw [hstep] at hagrees
          refine (ih _ s' _ hagrees).trans ⟨fun haccepts => ⟨s', rfl, haccepts⟩, ?_⟩
          rintro ⟨s'', hs'', haccepts⟩
          obtain rfl := Option.some.inj hs''
          exact haccepts

/-- Before the first character the lexer and the machine agree. -/
theorem sim_start (escape : Char) : Sim escape { arena := {}, escape } {} where
  escape := rfl
  clean := rfl
  pending := rfl
  groups := rfl
  linked := ⟨.nil, fun x hx => absurd hx (by simp [anchorOf])⟩
  last := rfl
  lead := rfl
  reading := .between .start

/-- **A body is read without an issue exactly if it is of the grammar.** -/
theorem read_issues_eq_nil_iff (body : String) (escape : Char) :
    (Expression.read body escape).2.issues = [] ↔ IsBody escape body.toList := by
  unfold Expression.read
  refine (Sim.feedAll_iff body.toList _ _ _ 0 (sim_start escape)).trans ?_
  exact ⟨isBody_of_accepts, IsBody.accepts⟩

end LayerTemplates
