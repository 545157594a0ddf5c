/-
  LayerTemplates.Proofs.Expression.Positions
  ──────────────────────────────────────────
  Where in a body its issues point.

  Issues are noted at four kinds of places: at the character that was just fed, behind a caret
  that has no digits, at the last character of a literal that is not closed, and at the end of the
  body.  Each is a place between two characters of the body, and none is noted in front of an
  earlier one.  The symbol of an issue, if it has one, is the character that stands there; a caret
  stands in front of the place, and the delimiter that a body ends with may be further away.

  Main statements:
    * `LaidOut.caret` — a number without digits ends with its caret.
    * `Reporting.feed` — a character is reported where it stands.
    * `Reporting.finish`, `Reporting.abandon` — where the issues of a body point.
-/
import LayerTemplates.Proofs.Expression.Moving
import LayerTemplates.Proofs.Expression.Spans

namespace LayerTemplates

/-! ## §1. Places in a body. -/

/-- The symbol of a cause, if it has one, is found at a place of a body: before it if it is a
caret, and otherwise behind it.  A delimiter that a body ends with is noted at the end. -/
def Cause.PointsAt (cause : Cause) (before after : List Char) : Prop :=
  ∀ symbol, cause.symbol = some symbol →
    match cause.kind with
    | .invalidAncestorReference => before.getLast? = some symbol
    | .danglingDelimiter => after = []
    | _ => after.head? = some symbol

/-- The position of an issue is a place between the characters of a body. -/
def Issue.PointsInto (issue : Issue) (body : List Char) : Prop :=
  ∃ before after, body = before ++ after ∧ issue.position = byteCount before
    ∧ issue.cause.PointsAt before after

variable {before after body front rest : List Char} {c : Char} {issue : Issue}

/-- An issue that names the character at its position or none. -/
theorem Issue.At.pointsInto (h : issue.At c (byteCount front))
    (hbody : body = front ++ c :: rest) : issue.PointsInto body := by
  refine ⟨front, c :: rest, hbody, h.position_eq, fun symbol hsymbol => ?_⟩
  obtain ⟨rfl, hplace⟩ := h.names symbol hsymbol
  unfold Cause.isInPlace at hplace
  -- the two kinds that point elsewhere are excluded
  split
  · next hkind => exact absurd hplace (by simp [hkind])
  · next hkind => exact absurd hplace (by simp [hkind])
  · rfl

/-- An issue without a symbol points anywhere between characters. -/
theorem Issue.pointsInto_of_none {cause : Cause} (hsymbol : cause.symbol = none)
    (hbody : body = before ++ after) : Issue.PointsInto ⟨cause, byteCount before⟩ body :=
  ⟨before, after, hbody, rfl, fun _ hsome => absurd (hsymbol.symm.trans hsome) (by simp)⟩

/-- A caret points behind itself. -/
theorem Issue.pointsInto_caretAlone (hcaret : before.getLast? = some '^')
    (hbody : body = before ++ after) : Issue.PointsInto ⟨.caretAlone, byteCount before⟩ body := by
  refine ⟨before, after, hbody, rfl, fun symbol hsymbol => ?_⟩
  obtain rfl : '^' = symbol := Option.some.inj hsymbol
  exact hcaret

/-- **A number without digits ends with its caret.** -/
theorem LaidOut.caret {escape : Char} {lx : Lexer} {id : LexemeId} (h : LaidOut escape lx front)
    (hmode : lx.mode = .number id) (hempty : (lx.arena.get id).value.isEmpty = true) :
    front.getLast? = some '^' := by
  cases h with
  | resting idle along => simp [hmode, Mode.operand?] at idle
  | @reading earlier mark before piece trail operand marks front_eq along span read =>
      obtain rfl : id = earlier.length := by simpa [hmode, Mode.operand?] using operand
      have hmark : (lx.arena.get earlier.length).mark = mark := by
        rw [Arena.mark_get, marks]
        simp
      have hvalue : mark.value = "" := by
        rw [← hmark]
        exact String.isEmpty_iff.1 hempty
      rw [hmode] at read
      cases read with
      | number form quote =>
          rw [front_eq, hvalue]
          simp

/-! ## §2. The last character. -/

namespace Lexer

variable (lx : Lexer)

theorem lastPosition_setAnchor (id : LexemeId) :
    (lx.setAnchor id).lastPosition = lx.lastPosition := by
  unfold setAnchor
  split <;> rfl

theorem lastPosition_joinSibling (id : LexemeId) :
    (lx.joinSibling id).lastPosition = lx.lastPosition := by
  unfold joinSibling
  dsimp only
  cases lx.groups <;> exact lastPosition_setAnchor _ id

theorem lastPosition_beginOperand (lexeme : Lexeme) (position : Nat) :
    (lx.beginOperand lexeme position).lastPosition = lx.lastPosition := by
  unfold beginOperand joinOperand
  split
  · exact lastPosition_setAnchor _ _
  · exact lastPosition_joinSibling _ _
  · split <;> exact lastPosition_joinSibling _ _
  · split <;> rfl
  · exact lastPosition_joinSibling _ _
  · split <;> exact lastPosition_setAnchor _ _
  · split <;> exact lastPosition_setAnchor _ _

/-- Between operands only a new literal opens one. -/
theorem lastPosition_feedBetween (hmode : lx.inLiteral = false) (c : Char) (position : Nat)
    (hliteral : (lx.feedBetween c position).inLiteral = true) :
    (lx.feedBetween c position).lastPosition = lx.lastPosition := by
  have hnone : ∀ after : Lexer, after.reads = lx.reads → after.inLiteral = true →
      after.lastPosition = lx.lastPosition := by
    intro after hreads htrue
    unfold inLiteral at htrue hmode
    rw [show after.mode = lx.mode from congrArg Prod.fst hreads, hmode] at htrue
    exact absurd htrue (by simp)
  revert hliteral
  apply lx.feedBetween_cases (motive := fun after => after.inLiteral = true →
    after.lastPosition = lx.lastPosition)
  case same => exact fun _ => rfl
  case spaced => exact fun _ _ => rfl
  case sign => exact fun _ => lx.lastPosition_beginOperand _ position
  case signed => exact fun _ _ => lx.lastPosition_beginOperand _ position
  case remark => exact fun _ _ => rfl
  case delimited => exact fun delimiter => hnone _ (lx.reads_delimit delimiter position)
  case separated => exact hnone _ (lx.reads_comma position)
  case closed => exact fun closer => hnone _ (lx.reads_closeBracket closer position)
  case opened => exact fun lexeme _ _ _ _ => lx.lastPosition_beginOperand lexeme position
  case word => exact fun _ => lx.lastPosition_beginOperand _ position

/-- In a literal the last position is that of the last character. -/
theorem lastPosition_feed (c : Char) (position : Nat)
    (hliteral : (lx.feed c position).inLiteral = true) :
    (lx.feed c position).lastPosition = position := by
  generalize hkept : ({ lx with lastPosition := position } : Lexer) = fed
  have hlast : fed.lastPosition = position := by rw [← hkept]
  revert hliteral
  apply lx.feed_cases (motive := fun after => after.inLiteral = true →
    after.lastPosition = position) c position hkept
  case quoted =>
    intro id quote escaping _ _
    rw [← hlast]
    apply fed.feedQuoted_cases (motive := fun after => after.lastPosition = fed.lastPosition)
    case empty => exact fun _ _ => rfl
    case closed => exact fun _ _ _ => rfl
    all_goals rfl
  case pushed => exact fun _ _ _ => hlast
  case numbered =>
    intro id _ hliteral
    have hended : (fed.endNumber id position).inLiteral = false
        ∧ (fed.endNumber id position).lastPosition = fed.lastPosition := by
      unfold endNumber
      split <;> exact ⟨rfl, rfl⟩
    rw [lastPosition_feedBetween _ hended.1 c position hliteral, hended.2, hlast]
  case named =>
    intro id _ hliteral
    rw [lastPosition_feedBetween _ rfl c position hliteral]
    exact hlast
  case remark => exact fun _ _ _ => hlast
  case between =>
    intro hmode hliteral
    have hnone : fed.inLiteral = false := by
      unfold inLiteral
      rw [hmode]
    rw [lastPosition_feedBetween _ hnone c position hliteral, hlast]

/-! ## §3. Issues of a body. -/

/-- What a lexer has noted points into a body, in order, and not behind an offset. -/
structure Reports (lx : Lexer) (body : List Char) (bound : Nat) : Prop where
  points : ∀ issue ∈ lx.issues, issue.PointsInto body
  sorted : lx.issues.Pairwise fun issue later => issue.position ≤ later.position
  bounded : ∀ issue ∈ lx.issues, issue.position ≤ bound

variable {lx} {next : Lexer} {bound position : Nat}

/-- More issues at one place, which is not in front of the earlier ones. -/
theorem Reports.notes (h : lx.Reports body bound) (hle : bound ≤ position)
    (hnotes : Notes (fun issue => issue.position = position ∧ issue.PointsInto body) lx next) :
    next.Reports body position := by
  obtain ⟨added, heq, hadded⟩ := hnotes
  have hbounded : ∀ issue ∈ lx.issues, issue.position ≤ position := by
    intro issue hissue
    have := h.bounded issue hissue
    omega
  refine ⟨fun issue hissue => ?_, ?_, fun issue hissue => ?_⟩
  · rw [heq] at hissue
    rcases List.mem_append.1 hissue with hissue | hissue
    · exact h.points issue hissue
    · exact (hadded issue hissue).2
  · rw [heq]
    refine List.pairwise_append.2 ⟨h.sorted, ?_, fun issue hissue later hlater => ?_⟩
    · -- the new ones are all noted at the same place
      refine List.pairwise_of_forall_mem_list fun issue hissue later hlater => ?_
      exact Nat.le_of_eq ((hadded issue hissue).1.trans (hadded later hlater).1.symm)
    · rw [(hadded later hlater).1]
      exact hbounded issue hissue
  · rw [heq] at hissue
    rcases List.mem_append.1 hissue with hissue | hissue
    · exact hbounded issue hissue
    · exact Nat.le_of_eq (hadded issue hissue).1

variable {escape : Char}

/-- A lexer has read the front of a body, and noted what is wrong with it. -/
structure Reporting (escape : Char) (body : List Char) (lx : Lexer) (front : List Char) : Prop where
  laid : LaidOut escape lx front
  escape_eq : lx.escape = escape
  reports : lx.Reports body (byteCount front)
  /-- In a literal the last character that was read is known. -/
  last : lx.inLiteral = true → ∃ before after, front = before ++ after
    ∧ lx.lastPosition = byteCount before ∧ lx.Reports body (byteCount before)

/-- **A character is reported where it stands.** -/
theorem Reporting.feed (h : Reporting escape body lx front) (hbody : body = front ++ c :: rest) :
    Reporting escape body (lx.feed c (byteCount front)) (front ++ [c]) := by
  have hreports : (lx.feed c (byteCount front)).Reports body (byteCount front) := by
    refine h.reports.notes (Nat.le_refl _) ((lx.notes_feed c _).mono ?_)
    rintro issue (hat | ⟨rfl, id, hmode, hempty⟩)
    · exact ⟨hat.position_eq, hat.pointsInto hbody⟩
    · exact ⟨rfl, Issue.pointsInto_caretAlone (h.laid.caret hmode hempty) hbody⟩
  have hescape := (lx.quoting_feed c (byteCount front)).2.trans h.escape_eq
  refine ⟨h.laid.feed h.escape_eq c, hescape, ?_, fun hliteral => ?_⟩
  · rw [byteCount_append]
    exact ⟨hreports.points, hreports.sorted, fun issue hissue =>
      Nat.le_add_right_of_le (hreports.bounded issue hissue)⟩
  · exact ⟨front, [c], rfl, lx.lastPosition_feed c _ hliteral, hreports⟩

/-- Nothing was noted at the start of a body. -/
theorem Reporting.start (escape : Char) (body : List Char) :
    Reporting escape body { arena := {}, escape } [] where
  laid := .resting rfl .nil
  escape_eq := rfl
  reports := ⟨fun _ h => absurd h (by simp), .nil, fun _ h => absurd h (by simp)⟩
  last h := absurd h (by simp [inLiteral])

theorem Reporting.feedAll (chars : List Char) :
    ∀ {lx : Lexer} {front : List Char}, Reporting escape body lx front → body = front ++ chars →
      Reporting escape body (lx.feedAll (byteCount front) chars) body := by
  induction chars with
  | nil =>
      intro lx front h hbody
      rw [List.append_nil] at hbody
      subst hbody
      exact h
  | cons c rest ih =>
      intro lx front h hbody
      have hmore := ih (h.feed hbody) (by rw [hbody, List.append_assoc]; rfl)
      rw [byteCount_append] at hmore
      exact hmore

theorem reporting_feedAll (escape : Char) (body : List Char) :
    Reporting escape body (Lexer.feedAll { arena := {}, escape } 0 body) body :=
  Reporting.feedAll body (Reporting.start escape body) rfl

/-! ## §4. The end of a body. -/

/-- A literal that is open is noted at the last character that was read. -/
theorem Reporting.openLiteral (h : Reporting escape body lx body) (hliteral : lx.inLiteral = true) :
    (lx.note .openLiteral lx.lastPosition).Reports body (byteCount body) := by
  obtain ⟨before, after, heq, hlast, hreports⟩ := h.last hliteral
  have hpoints : Issue.PointsInto ⟨.openLiteral, lx.lastPosition⟩ body := by
    rw [hlast]
    exact Issue.pointsInto_of_none rfl heq
  have hnoted := hreports.notes (Nat.le_of_eq hlast.symm) (lx.notes_note ⟨rfl, hpoints⟩)
  refine ⟨hnoted.points, hnoted.sorted, fun issue hissue => ?_⟩
  have hle := hnoted.bounded issue hissue
  have hbody := congrArg byteCount heq
  rw [byteCount_append] at hbody
  omega

/-- What is being read ends where the body does. -/
theorem Reporting.settle (h : Reporting escape body lx body) :
    (lx.settle (byteCount body)).Reports body (byteCount body) := by
  unfold Lexer.settle
  cases hmode : lx.mode with
  | quoted id quote escaping =>
      have hnoted := h.openLiteral (by unfold inLiteral; rw [hmode])
      exact ⟨hnoted.points, hnoted.sorted, hnoted.bounded⟩
  | number id =>
      refine h.reports.notes (Nat.le_refl _) ((lx.notes_endNumber id _).mono ?_)
      rintro issue ⟨rfl, hempty⟩
      exact ⟨rfl, Issue.pointsInto_caretAlone (h.laid.caret hmode hempty)
        (List.append_nil body).symm⟩
  | bare id => exact ⟨h.reports.points, h.reports.sorted, h.reports.bounded⟩
  | between | comment text => exact h.reports

theorem Reporting.complete (h : Reporting escape body lx body) :
    (lx.complete (byteCount body)).Reports body (byteCount body) := by
  refine h.settle.notes (Nat.le_refl _) ((lx.notes_complete _).mono fun issue hend => ?_)
  refine ⟨hend.position_eq, body, [], (List.append_nil body).symm, hend.position_eq, ?_⟩
  intro symbol hsymbol
  rcases hend.names with hnone | hkind
  · exact absurd (hnone.symm.trans hsymbol) (by simp)
  · rw [hkind]

end Lexer

/-! ## §5. Bodies. -/

/-- **The issues of a complete body** point into it, in order. -/
theorem Expression.read_issues (body : String) (escape : Char) :
    (∀ issue ∈ (Expression.read body escape).2.issues, issue.PointsInto body.toList)
      ∧ (Expression.read body escape).2.issues.Pairwise
          fun issue later => issue.position ≤ later.position := by
  have hreports := (Lexer.reporting_feedAll escape body.toList).complete
  rw [byteCount_toList] at hreports
  exact ⟨hreports.points, hreports.sorted⟩

/-- **The issues of a body that is cut off** point into it, in order. -/
theorem Lexer.abandon_issues (body : List Char) (escape : Char) :
    (∀ issue ∈ (Lexer.feedAll { arena := {}, escape } 0 body).abandon.issues,
        issue.PointsInto body)
      ∧ (Lexer.feedAll { arena := {}, escape } 0 body).abandon.issues.Pairwise
          fun issue later => issue.position ≤ later.position := by
  have hreporting := Lexer.reporting_feedAll escape body
  generalize Lexer.feedAll { arena := {}, escape } 0 body = lx at hreporting
  unfold Lexer.abandon
  split
  · next hliteral =>
      have hnoted := hreporting.openLiteral hliteral
      exact ⟨hnoted.points, hnoted.sorted⟩
  · exact ⟨hreporting.reports.points, hreporting.reports.sorted⟩

end LayerTemplates
