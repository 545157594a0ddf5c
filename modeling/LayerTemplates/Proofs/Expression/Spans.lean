/-
  LayerTemplates.Proofs.Expression.Spans
  ──────────────────────────────────────
  Where the operands of a body stand, and what stands there.

  The range of an operand grows with every character that is added to it, with the quote that
  opens it and the quote that closes it, and with its caret; an escape character moves the
  position on and adds nothing.  All along, the characters that were read are those of the
  operands, each in its range, with other characters between them.  The operand that is being
  read reaches to the last character, but for an escape character that waits for the next one.

  Main statements:
    * `Along.get` — every mark stands in the characters at its range.
    * `Along.pairwise` — the ranges are not empty, and one ends before the next one starts.
    * `LaidOut.feed` — a character keeps the operands where they stand.
    * `LaidOut.along` — so they stand when a body ends, whatever was wrong with it.
-/
import LayerTemplates.Proofs.Expression.Literal
import LayerTemplates.Proofs.Expression.Locality
import LayerTemplates.Proofs.Expression.Spelling
import LayerTemplates.Proofs.Layer.Scanning

namespace LayerTemplates

/-! ## §1. Literals. -/

section Literal

variable {escape quote c : Char} {s s' value value' : List Char}

theorem LiteralText.append (h : LiteralText escape quote s value)
    (h' : LiteralText escape quote s' value') :
    LiteralText escape quote (s ++ s') (value ++ value') := by
  induction h with
  | nil => exact h'
  | plain notEscape notQuote rest ih => exact .plain notEscape notQuote ih
  | escaped rest ih => exact .escaped ih

/-- One more character of a literal. -/
theorem LiteralText.push (h : LiteralText escape quote s value) (hescape : c ≠ escape)
    (hquote : c ≠ quote) : LiteralText escape quote (s ++ [c]) (value ++ [c]) :=
  h.append (.plain hescape hquote .nil)

/-- One more character behind an escape character. -/
theorem LiteralText.pushEscaped (h : LiteralText escape quote s value) (c : Char) :
    LiteralText escape quote (s ++ [escape, c]) (value ++ [c]) :=
  h.append (.escaped .nil)

end Literal

theorem push_ne_empty (value : String) (c : Char) : value.push c ≠ "" := fun hempty =>
  absurd (congrArg String.length hempty) (by simp)

/-! ## §2. What stands at a range. -/

variable (escape : Char)

/-- What stands in a text for a lexeme that is complete: its value, behind a caret if it counts
levels; or its value between quotes, with escape characters that are dropped. -/
inductive Mark.WrittenAs (mark : Mark) : List Char → Prop
  | text (form : mark.form = .text) (quote : mark.quote = none) (nonempty : mark.value ≠ "") :
      WrittenAs mark mark.value.toList
  | word (form : mark.form = .plain) (quote : mark.quote = none) (nonempty : mark.value ≠ "") :
      WrittenAs mark mark.value.toList
  | ancestor (form : mark.form = .relative) (quote : mark.quote = none) :
      WrittenAs mark ('^' :: mark.value.toList)
  | literal {q : Char} {s : List Char} (form : mark.form = if q = rawQuote then .plain else .quoted)
      (quote : mark.quote = some q) (opens : isQuote q = true)
      (inner : LiteralText escape q s mark.value.toList) : WrittenAs mark (q :: (s ++ [q]))

/-- What stands in a text for a literal that is not closed. -/
inductive Mark.LeftOpen (mark : Mark) : List Char → Prop
  | literal {q : Char} {s : List Char} (form : mark.form = .quoted) (quote : mark.quote = some q)
      (opens : isQuote q = true) (inner : LiteralText escape q s mark.value.toList) :
      LeftOpen mark (q :: s)

/-- Marks stand in some characters one after another, with other characters between them.  The
last one may be a literal that is not closed. -/
inductive Along : List Mark → List Char → Bool → Prop
  | nil : Along [] [] false
  | skip {marks : List Mark} {front : List Char} (c : Char) (before : Along marks front false) :
      Along marks (front ++ [c]) false
  | mark {marks : List Mark} {mark : Mark} {front piece : List Char}
      (before : Along marks front false) (written : mark.WrittenAs escape piece)
      (span : mark.span = ⟨byteCount front, byteCount front + byteCount piece⟩) :
      Along (marks ++ [mark]) (front ++ piece) false
  | opened {marks : List Mark} {mark : Mark} {front piece trail : List Char}
      (before : Along marks front false) (written : mark.LeftOpen escape piece)
      (span : mark.span = ⟨byteCount front, byteCount front + byteCount piece⟩) :
      Along (marks ++ [mark]) (front ++ (piece ++ trail)) true

/-- A range of a text holds a piece of it. -/
def Span.Holds (span : Span) (text piece : List Char) : Prop :=
  ∃ before after, text = before ++ (piece ++ after)
    ∧ span = ⟨byteCount before, byteCount before + byteCount piece⟩

variable {escape} {mark : Mark} {marks : List Mark} {front piece text : List Char} {isOpen : Bool}

theorem Span.Holds.append {span : Span} (h : span.Holds text piece) (rest : List Char) :
    span.Holds (text ++ rest) piece := by
  obtain ⟨before, after, rfl, hspan⟩ := h
  exact ⟨before, after ++ rest, by simp only [List.append_assoc], hspan⟩

theorem Span.Holds.stop_le {span : Span} (h : span.Holds text piece) :
    span.stop ≤ byteCount text := by
  obtain ⟨before, after, rfl, rfl⟩ := h
  simp only [byteCount_append]
  omega

/-- Something stands at the range of every lexeme. -/
theorem Mark.WrittenAs.ne_nil (h : mark.WrittenAs escape piece) : piece ≠ [] := by
  cases h with
  | text _ _ nonempty => exact fun hnil => nonempty (String.toList_eq_nil_iff.1 hnil)
  | word _ _ nonempty => exact fun hnil => nonempty (String.toList_eq_nil_iff.1 hnil)
  | ancestor => exact List.cons_ne_nil _ _
  | literal => exact List.cons_ne_nil _ _

theorem Mark.LeftOpen.ne_nil (h : mark.LeftOpen escape piece) : piece ≠ [] := by
  cases h
  exact List.cons_ne_nil _ _

theorem byteCount_pos {chars : List Char} (h : chars ≠ []) : 0 < byteCount chars := by
  cases chars with
  | nil => exact absurd rfl h
  | cons c rest =>
      have hc := c.utf8Size_pos
      rw [byteCount_cons]
      omega

namespace Along

/-- More characters without an operand. -/
theorem skips (h : Along escape marks front false) (rest : List Char) :
    Along escape marks (front ++ rest) false := by
  induction rest generalizing front with
  | nil => rwa [List.append_nil]
  | cons c rest ih =>
      have hmore := ih (h.skip c)
      rwa [List.append_assoc] at hmore

/-- **Every mark stands in the characters at its range.** -/
theorem get (h : Along escape marks text isOpen) :
    ∀ (id : Nat) (m : Mark), marks[id]? = some m → ∃ piece, m.span.Holds text piece
      ∧ (m.WrittenAs escape piece
        ∨ isOpen = true ∧ id + 1 = marks.length ∧ m.LeftOpen escape piece) := by
  induction h with
  | nil => exact fun id m hm => absurd hm (by simp)
  | skip c before ih =>
      intro id m hm
      obtain ⟨piece, hholds, hwritten⟩ := ih id m hm
      exact ⟨piece, hholds.append [c], hwritten.imp_right fun h => absurd h.1 (by simp)⟩
  | @mark marks mark front piece before written span ih =>
      intro id m hm
      by_cases hid : id < marks.length
      · rw [List.getElem?_append_left hid] at hm
        obtain ⟨piece', hholds, hwritten⟩ := ih id m hm
        exact ⟨piece', hholds.append piece, hwritten.imp_right fun h => absurd h.1 (by simp)⟩
      · -- the index is that of the last mark
        have hlast := (List.getElem?_eq_some_iff.1 hm).1
        rw [List.length_append, List.length_singleton] at hlast
        obtain rfl : id = marks.length := by omega
        obtain rfl : mark = m := by simpa using hm
        exact ⟨piece, ⟨front, [], by rw [List.append_nil], span⟩, Or.inl written⟩
  | @opened marks mark front piece trail before written span ih =>
      intro id m hm
      by_cases hid : id < marks.length
      · rw [List.getElem?_append_left hid] at hm
        obtain ⟨piece', hholds, hwritten⟩ := ih id m hm
        exact ⟨piece', hholds.append _, Or.inl (hwritten.resolve_right (by simp))⟩
      · have hlast := (List.getElem?_eq_some_iff.1 hm).1
        rw [List.length_append, List.length_singleton] at hlast
        obtain rfl : id = marks.length := by omega
        obtain rfl : mark = m := by simpa using hm
        exact ⟨piece, ⟨front, trail, rfl, span⟩, Or.inr ⟨rfl, by simp, written⟩⟩

theorem stop_le (h : Along escape marks text isOpen) (hmark : mark ∈ marks) :
    mark.span.stop ≤ byteCount text := by
  obtain ⟨id, hid⟩ := List.getElem?_of_mem hmark
  obtain ⟨piece, hholds, -⟩ := h.get id mark hid
  exact hholds.stop_le

theorem start_lt_stop (h : Along escape marks text isOpen) (hmark : mark ∈ marks) :
    mark.span.start < mark.span.stop := by
  obtain ⟨id, hid⟩ := List.getElem?_of_mem hmark
  obtain ⟨piece, ⟨before, after, -, hspan⟩, hwritten⟩ := h.get id mark hid
  have hpos : 0 < byteCount piece := byteCount_pos <| by
    rcases hwritten with hwritten | ⟨-, -, hwritten⟩
    · exact hwritten.ne_nil
    · exact hwritten.ne_nil
  rw [hspan]
  exact Nat.lt_add_of_pos_right hpos

/-- **One range ends before the next one starts.** -/
theorem pairwise (h : Along escape marks text isOpen) :
    marks.Pairwise fun m m' => m.span.stop ≤ m'.span.start := by
  induction h with
  | nil => exact .nil
  | skip c before ih => exact ih
  | mark before written span ih | opened before written span ih =>
      refine List.pairwise_append.2 ⟨ih, List.pairwise_singleton _ _, ?_⟩
      intro m hm m' hm'
      obtain rfl := List.mem_singleton.1 hm'
      rw [span]
      exact before.stop_le hm

end Along

/-! ## §3. The operand that is being read. -/

variable (escape) in
/-- What was read so far of the operand that is being read, and of an escape character behind
it. -/
inductive Mark.ReadAs (mark : Mark) : Mode → List Char → List Char → Prop
  | bare {id : LexemeId} (form : mark.form = .plain) (quote : mark.quote = none)
      (nonempty : mark.value ≠ "") : ReadAs mark (.bare id) mark.value.toList []
  | number {id : LexemeId} (form : mark.form = .relative) (quote : mark.quote = none) :
      ReadAs mark (.number id) ('^' :: mark.value.toList) []
  | quoted {id : LexemeId} {q : Char} {s trail : List Char} {escaping : Bool}
      (form : mark.form = .quoted) (quote : mark.quote = some q) (opens : isQuote q = true)
      (inner : LiteralText escape q s mark.value.toList)
      (behind : trail = if escaping then [escape] else []) :
      ReadAs mark (.quoted id q escaping) (q :: s) trail

variable (escape) in
/-- The operands of a lexer stand in the characters that were read. -/
inductive LaidOut (lx : Lexer) (front : List Char) : Prop
  | resting (idle : lx.mode.operand? = none) (along : Along escape lx.arena.marks front false)
  | reading {earlier : List Mark} {mark : Mark} {before piece trail : List Char}
      (operand : lx.mode.operand? = some earlier.length)
      (marks : lx.arena.marks = earlier ++ [mark]) (front_eq : front = before ++ (piece ++ trail))
      (along : Along escape earlier before false)
      (span : mark.span = ⟨byteCount before, byteCount before + byteCount piece⟩)
      (read : Mark.ReadAs escape mark lx.mode piece trail)

/-- A piece that one more character ends is one that reaches behind this character. -/
theorem span_ending {before : List Char} {c : Char} {span : Span}
    (hspan : span.start = byteCount before) (h : front ++ [c] = before ++ piece) :
    (⟨span.start, byteCount front + c.utf8Size⟩ : Span)
      = ⟨byteCount before, byteCount before + byteCount piece⟩ := by
  have hcount := congrArg byteCount h
  rw [byteCount_append, byteCount_append, byteCount_cons] at hcount
  rw [hspan, ← hcount]
  rfl

/-- An operand with one more character, which reaches to an offset. -/
def Mark.push (mark : Mark) (c : Char) (stop : Nat) : Mark :=
  { mark with value := mark.value.push c, span := ⟨mark.span.start, stop⟩ }

/-- A literal with its closing quote. -/
def Mark.closed (mark : Mark) (quote : Char) (stop : Nat) : Mark :=
  { mark with
    span := ⟨mark.span.start, stop⟩
    form := if quote = rawQuote then .plain else mark.form }

namespace Lexer

variable {lx lx' : Lexer} {earlier : List Mark}

theorem marks_pushChar (h : lx.arena.marks = earlier ++ [mark]) (c : Char) (position : Nat) :
    (lx.pushChar earlier.length c position).arena.marks
      = earlier ++ [mark.push c (position + c.utf8Size)] :=
  Arena.marks_modify_last h (fun m => m.push c (position + c.utf8Size)) fun _ => rfl

theorem marks_closing (h : lx.arena.marks = earlier ++ [mark]) (quote : Char) (stop : Nat) :
    (lx.arena.modify earlier.length (closing quote stop)).marks
      = earlier ++ [mark.closed quote stop] := by
  refine Arena.marks_modify_last h (fun m => m.closed quote stop) fun l => ?_
  simp only [Lexeme.mark, closing, Mark.closed, beq_iff_eq]

/-- A new word stands where its first character does. -/
theorem marks_beginWord (lx : Lexer) (c : Char) (position : Nat) :
    ((lx.beginOperand (.startingAt .plain position) position).pushChar lx.arena.size c
        position).arena.marks
      = lx.arena.marks ++ [⟨"".push c, .plain, none, ⟨position, position + c.utf8Size⟩⟩] := by
  rw [← Arena.length_marks]
  exact marks_pushChar (lx.marks_beginOperand _ position) c position

theorem arena_endNumber (lx : Lexer) (id : LexemeId) (position : Nat) :
    (lx.endNumber id position).arena = lx.arena := by
  unfold endNumber
  split <;> rfl

end Lexer

/-! ## §4. Characters. -/

namespace LaidOut

variable {lx lx' : Lexer}

/-- **The operands stand in the characters**, whether the last one is complete or not. -/
theorem along (h : LaidOut escape lx front) : Along escape lx.arena.marks front lx.inLiteral := by
  unfold Lexer.inLiteral
  cases h with
  | resting idle along =>
      cases hmode : lx.mode with
      | between | comment text => exact along
      | bare id | number id => exact absurd (hmode ▸ idle) (by simp [Mode.operand?])
      | quoted id q escaping => exact absurd (hmode ▸ idle) (by simp [Mode.operand?])
  | @reading earlier mark before piece trail operand marks front_eq along span read =>
      rw [marks, front_eq]
      generalize lx.mode = mode at read
      cases read with
      | bare form quote nonempty =>
          rw [List.append_nil]
          exact along.mark (.word form quote nonempty) span
      | number form quote =>
          rw [List.append_nil]
          exact along.mark (.ancestor form quote) span
      | quoted form quote opens inner behind =>
          exact along.opened (.literal form quote opens inner) span

/-- Outside of literals no operand is open. -/
theorem ended (h : LaidOut escape lx front) (hliteral : lx.inLiteral = false) :
    Along escape lx.arena.marks front false :=
  hliteral ▸ h.along

/-- A character that belongs to no operand. -/
theorem passes (h : Along escape lx.arena.marks front false)
    (hmarks : lx'.arena.marks = lx.arena.marks) (idle : lx'.mode.operand? = none) (c : Char) :
    LaidOut escape lx' (front ++ [c]) :=
  .resting idle (hmarks ▸ h.skip c)

/-- The operand that is being read reaches to the last character. -/
theorem reaching {earlier : List Mark} {before : List Char}
    (operand : lx.mode.operand? = some earlier.length)
    (marks : lx.arena.marks = earlier ++ [mark]) (front_eq : front = before ++ piece)
    (along : Along escape earlier before false)
    (span : mark.span = ⟨byteCount before, byteCount before + byteCount piece⟩)
    (read : mark.ReadAs escape lx.mode piece []) : LaidOut escape lx front := by
  refine .reading operand marks ?_ along span read
  rw [List.append_nil]
  exact front_eq

/-- A word or a number with one more character. -/
theorem push (h : LaidOut escape lx front) {id : LexemeId}
    (hmode : lx.mode = .number id ∨ lx.mode = .bare id) (c : Char) :
    LaidOut escape (lx.pushChar id c (byteCount front)) (front ++ [c]) := by
  cases h with
  | resting idle along => rcases hmode with hmode | hmode <;> simp [hmode, Mode.operand?] at idle
  | @reading earlier mark before piece trail operand marks front_eq along span read =>
      have hid : id = earlier.length := by
        rcases hmode with hmode | hmode <;> simpa [hmode, Mode.operand?] using operand
      subst hid
      -- either way nothing stands behind the operand, and its piece ends with its value
      have hgrown : trail = [] ∧ (mark.push c (byteCount front + c.utf8Size)).ReadAs escape
          lx.mode (piece ++ [c]) [] := by
        rcases hmode with hmode | hmode <;> rw [hmode] at read ⊢
        · cases read with
          | number form quote =>
              refine ⟨rfl, ?_⟩
              rw [List.cons_append, ← String.toList_push]
              exact .number form quote
        · cases read with
          | bare form quote nonempty =>
              refine ⟨rfl, ?_⟩
              rw [← String.toList_push]
              exact .bare form quote (push_ne_empty _ c)
      obtain ⟨rfl, hread⟩ := hgrown
      have hfront : front ++ [c] = before ++ (piece ++ [c]) := by
        rw [front_eq, List.append_nil, List.append_assoc]
      exact reaching operand (Lexer.marks_pushChar marks c _) hfront along
        (span_ending (congrArg Span.start span) hfront) hread

/-- The quote that closes a literal stands behind its characters. -/
theorem closes {earlier : List Mark} {before s : List Char} {q : Char}
    (marks : lx.arena.marks = earlier ++ [mark]) (along : Along escape earlier before false)
    (hstart : mark.span.start = byteCount before) (form : mark.form = .quoted)
    (quote : mark.quote = some q) (opens : isQuote q = true)
    (inner : LiteralText escape q s mark.value.toList) (hfront : front = before ++ (q :: s)) :
    Along escape
      (lx.arena.modify earlier.length (Lexer.closing q (byteCount front + q.utf8Size))).marks
      (front ++ [q]) false := by
  have hclosed : front ++ [q] = before ++ (q :: (s ++ [q])) := by
    rw [hfront, List.append_assoc, List.cons_append]
  rw [Lexer.marks_closing marks, hclosed]
  refine along.mark (.literal ?_ quote opens inner) (span_ending hstart hclosed)
  unfold Mark.closed
  rw [form]

/-- A character inside a literal. -/
theorem feedQuoted (h : LaidOut escape lx front) (hescape : lx.escape = escape) {id : LexemeId}
    {q : Char} {escaping : Bool} (hmode : lx.mode = .quoted id q escaping) (c : Char) :
    LaidOut escape (lx.feedQuoted id q escaping c (byteCount front)) (front ++ [c]) := by
  cases h with
  | resting idle along => simp [hmode, Mode.operand?] at idle
  | @reading earlier mark before piece trail operand marks front_eq along span read =>
      obtain rfl : id = earlier.length := by simpa [hmode, Mode.operand?] using operand
      have hpushed := Lexer.marks_pushChar marks c (byteCount front)
      have hread := read
      rw [hmode] at hread
      cases hread with
      | @quoted _ _ s _ _ form quote opens inner behind =>
          have hstart := congrArg Span.start span
          -- an escape character that was read and not yet used stands at the end of what was read
          have hplain : escaping = false → front = before ++ (q :: s) := by
            rintro rfl
            rw [front_eq, behind, if_neg Bool.false_ne_true, List.append_nil]
          apply lx.feedQuoted_told (motive := fun after => LaidOut escape after (front ++ [c]))
          case escaped =>
            intro hescaping
            have hfront : front ++ [c] = before ++ (q :: (s ++ [escape, c])) := by
              rw [front_eq, behind, if_pos hescaping]
              simp only [List.append_assoc, List.cons_append, List.nil_append]
            have hinner : LiteralText escape q (s ++ [escape, c]) (mark.value.push c).toList := by
              rw [String.toList_push]
              exact inner.pushEscaped c
            exact reaching rfl hpushed hfront along (span_ending hstart hfront)
              (.quoted form quote opens hinner rfl)
          case escape =>
            intro hescaping heq
            have hread : mark.ReadAs escape (.quoted earlier.length q true) (q :: s) [escape] :=
              .quoted form quote opens inner rfl
            refine .reading rfl marks ?_ along span hread
            rw [hplain hescaping, heq, hescape, List.append_assoc]
          case empty =>
            rintro hescaping - rfl
            exact .resting rfl
              (closes marks along hstart form quote opens inner (hplain hescaping))
          case closed =>
            rintro hescaping - rfl -
            exact .resting rfl
              (closes marks along hstart form quote opens inner (hplain hescaping))
          case pushed =>
            intro hescaping hescaped hquote
            have hfront : front ++ [c] = before ++ (q :: (s ++ [c])) := by
              rw [hplain hescaping, List.append_assoc, List.cons_append]
            have hinner : LiteralText escape q (s ++ [c]) (mark.value.push c).toList := by
              rw [String.toList_push]
              exact inner.push (hescape ▸ hescaped) hquote
            subst hescaping
            refine reaching operand hpushed hfront along (span_ending hstart hfront) ?_
            show Mark.ReadAs escape _ lx.mode _ _
            rw [hmode]
            exact .quoted form quote opens hinner rfl

/-- **A character between operands** starts one, or belongs to none. -/
theorem feedBetween (h : Along escape lx.arena.marks front false)
    (idle : lx.mode.operand? = none) (c : Char) :
    LaidOut escape (lx.feedBetween c (byteCount front)) (front ++ [c]) := by
  have hsame : ∀ after : Lexer, after.reads = lx.reads → after.mode.operand? = none := by
    intro after hreads
    rw [show after.mode = lx.mode from congrArg Prod.fst hreads]
    exact idle
  have hid : lx.arena.size = lx.arena.marks.length := (Arena.length_marks _).symm
  have hreach : (⟨byteCount front, byteCount front + c.utf8Size⟩ : Span)
      = ⟨byteCount front, byteCount front + byteCount [c]⟩ := rfl
  -- a sign is a word of one character that is complete
  have hwritten : Mark.WrittenAs escape ⟨"".push c, .plain, none,
      ⟨byteCount front, byteCount front + c.utf8Size⟩⟩ ("".push c).toList :=
    .word rfl rfl (push_ne_empty "" c)
  have hsign : Along escape (lx.operatorSign c (byteCount front)).arena.marks (front ++ [c])
      false := by
    have hmarks : (lx.operatorSign c (byteCount front)).arena.marks = _ :=
      lx.marks_beginWord c (byteCount front)
    rw [String.toList_push] at hwritten
    rw [hmarks]
    exact h.mark hwritten hreach
  apply lx.feedBetween_told (motive := fun after => LaidOut escape after (front ++ [c]))
  case blank => exact fun _ _ => .resting idle (h.skip c)
  case spaced => exact fun _ _ => .resting idle (h.skip c)
  case sign => exact fun _ => .resting rfl hsign
  case signed => exact fun _ _ => .resting rfl hsign
  case remark => exact fun _ _ => .resting rfl (h.skip c)
  case delimited =>
    exact fun delimiter _ => passes h (lx.marks_delimit delimiter _)
      (hsame _ (lx.reads_delimit delimiter _)) c
  case separated => exact fun _ => passes h (lx.marks_comma _) (hsame _ (lx.reads_comma _)) c
  case closed =>
    exact fun closer _ => passes h (lx.marks_closeBracket closer _)
      (hsame _ (lx.reads_closeBracket closer _)) c
  case caret =>
    rintro rfl
    exact reaching (congrArg some hid) (lx.marks_beginOperand _ _) rfl h hreach (.number rfl rfl)
  case literal =>
    intro hquote
    exact reaching (congrArg some hid) (lx.marks_beginOperand _ _) rfl h hreach
      (.quoted rfl rfl hquote .nil rfl)
  case word =>
    intro _ _
    have hread : Mark.ReadAs escape ⟨"".push c, .plain, none,
        ⟨byteCount front, byteCount front + c.utf8Size⟩⟩ (.bare lx.arena.size)
        ("".push c).toList [] := .bare rfl rfl (push_ne_empty "" c)
    rw [String.toList_push] at hread
    exact reaching (congrArg some hid) (lx.marks_beginWord c _) rfl h hreach hread

/-- **One more character** finds the operands where they stand, and what they stand for. -/
theorem feed (h : LaidOut escape lx front) (hescape : lx.escape = escape) (c : Char) :
    LaidOut escape (lx.feed c (byteCount front)) (front ++ [c]) := by
  generalize hkept : ({ lx with lastPosition := byteCount front } : Lexer) = fed
  have hfed : LaidOut escape fed front := by
    rw [← hkept]
    cases h with
    | resting idle along => exact .resting idle along
    | reading operand marks front_eq along span read =>
        exact .reading operand marks front_eq along span read
  have hliteral : ∀ mode, fed.mode = mode → Lexer.inLiteral { fed with mode } = false →
      Along escape fed.arena.marks front false := by
    rintro mode rfl hnone
    exact hfed.ended hnone
  apply lx.feed_cases (motive := fun after => LaidOut escape after (front ++ [c])) c _ hkept
  case quoted =>
    intro id q escaping hmode
    exact hfed.feedQuoted (hkept ▸ hescape) hmode c
  case pushed => exact fun id hmode => hfed.push hmode c
  case numbered =>
    intro id hmode
    refine feedBetween ?_ (by rw [Lexer.mode_endNumber]; rfl) c
    rw [Lexer.arena_endNumber]
    exact hliteral _ hmode rfl
  case named =>
    intro id hmode
    have hended : Along escape fed.endOperand.arena.marks front false := hliteral _ hmode rfl
    exact feedBetween hended rfl c
  case remark => exact fun text hmode => .resting rfl ((hliteral _ hmode rfl).skip c)
  case between => exact fun hmode => feedBetween (hliteral _ hmode rfl) (by rw [hmode]; rfl) c

/-- **More characters** do the same. -/
theorem feedAll (h : LaidOut escape lx front) (chars : List Char) (hescape : lx.escape = escape) :
    LaidOut escape (lx.feedAll (byteCount front) chars) (front ++ chars) := by
  induction chars generalizing lx front with
  | nil =>
      rw [List.append_nil]
      exact h
  | cons c rest ih =>
      have hmore := ih (h.feed hescape c) ((lx.quoting_feed c _).2.trans hescape)
      rw [byteCount_append, List.append_assoc] at hmore
      exact hmore

/-- **The operands of a body stand in it**, behind the operands that were there before.  Only a
literal that is open at the end is not complete. -/
theorem along_feedAll {base : Arena} (h : Along escape base.marks front false)
    (chars : List Char) :
    let lx := Lexer.feedAll { arena := base, escape } (byteCount front) chars
    Along escape lx.arena.marks (front ++ chars) lx.inLiteral := by
  have hstart : LaidOut escape { arena := base, escape } front := .resting rfl h
  exact (hstart.feedAll chars rfl).along

end LaidOut

end LayerTemplates
