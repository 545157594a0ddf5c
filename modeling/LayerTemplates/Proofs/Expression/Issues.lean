/-
  LayerTemplates.Proofs.Expression.Issues
  ───────────────────────────────────────
  The lexer goes on after a violation, and what it noted stays noted.

  Whatever a character does, the issues that it adds are noted at its own position.  They name
  that character or none; a caret without digits is the exception, for it is noticed at the
  character behind it.

  Main statements:
    * `Lexer.notes_feed` — which issues a character adds.
    * `Lexer.issues_feedAll` — characters add issues at the end only.
    * `Lexer.issues_finish_eq_nil_iff` — when a body has no issue in the end.
-/
import LayerTemplates.Proofs.Expression.Steps

namespace LayerTemplates

/-! ## §1. What is noted. -/

/-- The symbol of a cause, if it has one, stands where the cause is noted: not before it, as a
caret does, and not somewhere else, as a delimiter does that ends a body. -/
def Cause.isInPlace (cause : Cause) : Bool :=
  cause.kind != .invalidAncestorReference && cause.kind != .danglingDelimiter

/-- A cause names no symbol but the one that stands where it is noted. -/
def Cause.Names (cause : Cause) (c : Char) : Prop :=
  ∀ symbol, cause.symbol = some symbol → symbol = c ∧ cause.isInPlace = true

/-- An issue is noted at the position of a character and names no other one. -/
structure Issue.At (c : Char) (position : Nat) (issue : Issue) : Prop where
  position_eq : issue.position = position
  names : issue.cause.Names c

/-- An issue is noted at the end of a body, and names no symbol but a delimiter before it. -/
structure Issue.AtEnd (position : Nat) (issue : Issue) : Prop where
  position_eq : issue.position = position
  names : issue.cause.symbol = none ∨ issue.cause.kind = .danglingDelimiter

/-- A cause that names no symbol names nothing else than the character at hand, whichever it is. -/
theorem Cause.names_of_none {cause : Cause} (h : cause.symbol = none) (c : Char) :
    cause.Names c := by
  intro symbol hsymbol
  rw [h] at hsymbol
  exact absurd hsymbol (by simp)

/-- A cause may name the character at hand, as long as it is noted where that stands. -/
theorem Cause.names_of_some {cause : Cause} {c : Char} (h : cause.symbol = some c)
    (hplace : cause.isInPlace = true) : cause.Names c := by
  intro symbol hsymbol
  rw [h] at hsymbol
  exact ⟨(Option.some.inj hsymbol).symm, hplace⟩

namespace Lexer

/-- The lexer has noted some more issues of a kind behind those it had. -/
def Notes (P : Issue → Prop) (lx after : Lexer) : Prop :=
  ∃ added, after.issues = lx.issues ++ added ∧ ∀ issue ∈ added, P issue

section Notes

variable {P Q : Issue → Prop} {lx between after : Lexer}

/-- A step that notes nothing adds no issue, so none that would have to be of the kind. -/
theorem Notes.same (h : after.issues = lx.issues) : Notes P lx after :=
  ⟨[], by rw [h, List.append_nil], fun _ hissue => absurd hissue (by simp)⟩

/-- What two steps add one after the other is of a kind if each of them adds only such. -/
theorem Notes.trans (h : Notes P lx between) (h' : Notes P between after) :
    Notes P lx after := by
  obtain ⟨added, heq, hadded⟩ := h
  obtain ⟨added', heq', hadded'⟩ := h'
  refine ⟨added ++ added', by rw [heq', heq, List.append_assoc], fun issue hissue => ?_⟩
  rcases List.mem_append.1 hissue with hissue | hissue
  · exact hadded issue hissue
  · exact hadded' issue hissue

/-- What is known of the issues that were added may be weakened. -/
theorem Notes.mono (h : Notes P lx after) (hPQ : ∀ issue, P issue → Q issue) :
    Notes Q lx after := by
  obtain ⟨added, heq, hadded⟩ := h
  exact ⟨added, heq, fun issue hissue => hPQ issue (hadded issue hissue)⟩

/-- What was noted stays noted. -/
theorem Notes.keeps (h : Notes P lx after) : lx.issues <+: after.issues := by
  obtain ⟨added, heq, -⟩ := h
  exact ⟨added, heq.symm⟩

/-- Only the issues count, whatever else the lexer does behind them. -/
theorem Notes.of_issues {other : Lexer} (h : Notes P lx other)
    (hissues : after.issues = other.issues) : Notes P lx after :=
  h.trans (.same hissues)

end Notes

variable (lx : Lexer)

/-- Nothing takes an issue back, so a lexer that notes one has one. -/
theorem note_ne_nil (cause : Cause) (position : Nat) : (lx.note cause position).issues ≠ [] :=
  List.append_ne_nil_of_right_ne_nil _ (by simp)

theorem notes_note {P : Issue → Prop} {cause : Cause} {position : Nat} (h : P ⟨cause, position⟩) :
    Notes P lx (lx.note cause position) :=
  ⟨[⟨cause, position⟩], rfl, by simpa using h⟩

/-- Where the lexer notes an issue under a condition, the issue is of the kind or there is none. -/
theorem notes_ite_note {P : Issue → Prop} (p : Prop) [Decidable p] {cause : Cause} {position : Nat}
    (h : P ⟨cause, position⟩) : Notes P lx (if p then lx.note cause position else lx) := by
  split
  · exact lx.notes_note h
  · exact .same rfl

/-- An issue that names no symbol. -/
theorem notes_unnamed (c : Char) {cause : Cause} (h : cause.symbol = none) (position : Nat) :
    Notes (Issue.At c position) lx (lx.note cause position) :=
  lx.notes_note ⟨rfl, Cause.names_of_none h c⟩

/-- An issue that names the symbol where it is noted. -/
theorem notes_named {c : Char} {cause : Cause} (h : cause.symbol = some c)
    (hplace : cause.isInPlace = true) (position : Nat) :
    Notes (Issue.At c position) lx (lx.note cause position) :=
  lx.notes_note ⟨rfl, Cause.names_of_some h hplace⟩

/-! ## §2. Operands. -/

@[simp] theorem issues_setAnchor (id : LexemeId) : (lx.setAnchor id).issues = lx.issues := by
  unfold setAnchor
  split <;> rfl

@[simp] theorem issues_joinSibling (id : LexemeId) : (lx.joinSibling id).issues = lx.issues := by
  unfold joinSibling
  dsimp only
  cases lx.groups <;> exact issues_setAnchor _ id

/-- An operand is out of place where it touches the one before it, or follows a blank inside
brackets; neither issue names a symbol. -/
theorem notes_joinOperand (id : LexemeId) (c : Char) (position : Nat) :
    Notes (Issue.At c position) lx (lx.joinOperand id position) := by
  unfold joinOperand
  split
  · exact .same (issues_setAnchor _ id)
  · exact (lx.notes_unnamed c rfl position).of_issues (issues_joinSibling _ id)
  · split
    · exact .same (lx.issues_joinSibling id)
    · exact (lx.notes_unnamed c rfl position).of_issues (issues_joinSibling _ id)
  · split <;> exact .same rfl
  · exact .same (lx.issues_joinSibling id)
  · split <;> exact .same (issues_setAnchor _ id)
  · split <;> exact .same (issues_setAnchor _ id)

theorem notes_beginOperand (lexeme : Lexeme) (c : Char) (position : Nat) :
    Notes (Issue.At c position) lx (lx.beginOperand lexeme position) :=
  notes_joinOperand { lx with arena := lx.arena.alloc lexeme } _ c position

theorem issues_beginOperand (lexeme : Lexeme) (position : Nat) :
    lx.issues <+: (lx.beginOperand lexeme position).issues :=
  (lx.notes_beginOperand lexeme ' ' position).keeps

/-- A leading sign is an operand, and ending it notes nothing. -/
theorem notes_operatorSign (c : Char) (position : Nat) :
    Notes (Issue.At c position) lx (lx.operatorSign c position) :=
  lx.notes_beginOperand _ c position

/-- Only a caret without digits is noted where digits end. -/
theorem notes_endNumber (id : LexemeId) (position : Nat) :
    Notes (fun issue => issue = ⟨.caretAlone, position⟩ ∧ (lx.arena.get id).value.isEmpty = true)
      lx (lx.endNumber id position) := by
  unfold endNumber
  split
  · next hempty => exact lx.notes_note ⟨rfl, hempty⟩
  · exact .same rfl

/-! ## §3. Delimiters. -/

/-- A second argument list is noted at its bracket, and its cause names no other symbol. -/
theorem notes_openBracket (bracket : Bracket) (anchor : LexemeId) (position : Nat) :
    Notes (Issue.At bracket.openSymbol position) lx (lx.openBracket bracket anchor position) := by
  cases bracket with
  | square => exact .same rfl
  | round =>
      exact lx.notes_ite_note _ ⟨rfl, Cause.names_of_some rfl rfl⟩

/-- Whatever is wrong with a dot or an opening bracket, it is noted where the delimiter stands and
with its symbol at most. -/
theorem notes_delimit (delimiter : Delimiter) (position : Nat) :
    Notes (Issue.At delimiter.symbol position) lx (lx.delimit delimiter position) := by
  unfold delimit
  split
  · exact lx.notes_named rfl rfl position
  · exact lx.notes_named rfl rfl position
  all_goals
    split
    · exact lx.notes_named rfl rfl position
    · split
      · exact lx.notes_named rfl rfl position
      · cases delimiter with
        | opening bracket => exact lx.notes_openBracket _ _ _
        | dot | comma => exact .same rfl

theorem issues_delimit (delimiter : Delimiter) (position : Nat) :
    lx.issues <+: (lx.delimit delimiter position).issues :=
  (lx.notes_delimit delimiter position).keeps

/-- A comma that is first, that follows a delimiter or that is outside argument lists is noted where
it stands. -/
theorem notes_comma (position : Nat) :
    Notes (Issue.At ',' position) lx (lx.comma position) := by
  unfold comma
  split
  · exact lx.notes_named rfl rfl position
  · exact lx.notes_named rfl rfl position
  all_goals
    split
    · exact .same rfl
    · exact lx.notes_named rfl rfl position

theorem issues_comma (position : Nat) : lx.issues <+: (lx.comma position).issues :=
  (lx.notes_comma position).keeps

/-- A closing bracket behind a delimiter is told with its own symbol, not with that of the
delimiter. -/
theorem notes_noteDoubled (closer : Bracket) (position : Nat) :
    Notes (Issue.At closer.closeSymbol position) lx (lx.noteDoubled closer position) := by
  unfold noteDoubled
  split
  · split
    · exact .same rfl
    · exact lx.notes_named rfl rfl position
  all_goals exact .same rfl

/-- Behind the first check a closing bracket notes at most that none is open, or that another one
is. -/
theorem notes_noteDoubled_closeBracket (closer : Bracket) (position : Nat) :
    Notes (Issue.At closer.closeSymbol position) (lx.noteDoubled closer position)
      (lx.closeBracket closer position) := by
  unfold closeBracket
  split
  · cases closer <;> exact notes_named _ rfl rfl position
  · dsimp only
    split
    · exact .same rfl
    · exact notes_named _ rfl rfl position

theorem issues_noteDoubled_closeBracket (closer : Bracket) (position : Nat) :
    (lx.noteDoubled closer position).issues <+: (lx.closeBracket closer position).issues :=
  (lx.notes_noteDoubled_closeBracket closer position).keeps

/-- A closing bracket notes up to two issues, both of them about itself. -/
theorem notes_closeBracket (closer : Bracket) (position : Nat) :
    Notes (Issue.At closer.closeSymbol position) lx (lx.closeBracket closer position) :=
  (lx.notes_noteDoubled closer position).trans (lx.notes_noteDoubled_closeBracket closer position)

theorem issues_closeBracket (closer : Bracket) (position : Nat) :
    lx.issues <+: (lx.closeBracket closer position).issues :=
  (lx.notes_closeBracket closer position).keeps

/-! ## §4. Characters. -/

/-- Inside a literal only its end may be wrong, and then it is the quote that is named: nothing
stood before it. -/
theorem notes_feedQuoted (id : LexemeId) (quote : Char) (escaping : Bool) (c : Char)
    (position : Nat) :
    Notes (Issue.At c position) lx (lx.feedQuoted id quote escaping c position) := by
  apply lx.feedQuoted_told (motive := Notes (Issue.At c position) lx)
  case escaped => exact fun _ => .same rfl
  case escape => exact fun _ _ => .same rfl
  case empty =>
    rintro - - rfl
    exact lx.notes_named rfl rfl position
  case closed => exact fun _ _ _ _ => .same rfl
  case pushed => exact fun _ _ _ => .same rfl

/-- Outside operands every character is told by its own case, so whatever is noted is noted about
it. -/
theorem notes_feedBetween (c : Char) (position : Nat) :
    Notes (Issue.At c position) lx (lx.feedBetween c position) := by
  apply lx.feedBetween_told (motive := Notes (Issue.At c position) lx)
  case blank => exact fun _ _ => .same rfl
  case spaced => exact fun _ _ => .same rfl
  case sign => exact fun _ => lx.notes_operatorSign c position
  case signed => exact fun _ _ => lx.notes_operatorSign c position
  case remark => exact fun _ _ => .same rfl
  case delimited =>
    rintro delimiter rfl
    exact lx.notes_delimit delimiter position
  case separated =>
    rintro rfl
    exact lx.notes_comma position
  case closed =>
    rintro closer rfl
    exact lx.notes_closeBracket closer position
  case caret => exact fun _ => lx.notes_beginOperand _ c position
  case literal => exact fun _ => lx.notes_beginOperand _ c position
  case word => exact fun _ _ => lx.notes_beginOperand _ c position

theorem issues_feedBetween (c : Char) (position : Nat) :
    lx.issues <+: (lx.feedBetween c position).issues :=
  (lx.notes_feedBetween c position).keeps

/-- **What a character adds to the issues** is noted where it stands, and names it or nothing;
but behind a caret it may also be that the digits are missing. -/
theorem notes_feed (c : Char) (position : Nat) :
    Notes (fun issue => issue.At c position ∨ issue = ⟨.caretAlone, position⟩
        ∧ ∃ id, lx.mode = .number id ∧ (lx.arena.get id).value.isEmpty = true)
      lx (lx.feed c position) := by
  generalize hfed : ({ lx with lastPosition := position } : Lexer) = fed
  have hsame : lx.issues = fed.issues ∧ lx.mode = fed.mode ∧ lx.arena = fed.arena := by
    rw [← hfed]
    exact ⟨rfl, rfl, rfl⟩
  obtain ⟨hissues, hmode, harena⟩ := hsame
  rw [hmode, harena]
  have hstart : ∀ {P}, Notes P lx fed := .same hissues.symm
  refine hstart.trans ?_
  have hplain : ∀ after, Notes (Issue.At c position) fed after → Notes (fun issue =>
      issue.At c position ∨ issue = ⟨.caretAlone, position⟩
        ∧ ∃ id, fed.mode = .number id ∧ (fed.arena.get id).value.isEmpty = true) fed after :=
    fun after h => h.mono fun issue hissue => Or.inl hissue
  apply lx.feed_cases (motive := fun after => Notes _ fed after) c position hfed
  case quoted =>
    exact fun id quote escaping _ => hplain _ (fed.notes_feedQuoted id quote escaping c _)
  case pushed => exact fun _ _ => .same rfl
  -- the one case with two issues: the number that ends, and what the character itself adds
  case numbered =>
    intro id hnumber
    refine ((fed.notes_endNumber id position).mono fun issue hissue => ?_).trans
      ((notes_feedBetween _ c position).mono fun issue hissue => Or.inl hissue)
    exact Or.inr ⟨hissue.1, id, hnumber, hissue.2⟩
  case named => exact fun _ _ => hplain _ (fed.endOperand.notes_feedBetween c position)
  case remark => exact fun _ _ => .same rfl
  case between => exact fun _ => hplain _ (fed.notes_feedBetween c position)

/-- By induction on the characters: each of them adds behind what is there. -/
theorem issues_feedAll (chars : List Char) :
    ∀ (lx : Lexer) (position : Nat), lx.issues <+: (lx.feedAll position chars).issues := by
  induction chars with
  | nil => intro lx position; exact List.prefix_rfl
  | cons c rest ih =>
      intro lx position
      exact (lx.notes_feed c position).keeps.trans (ih _ _)

/-! ## §5. The end of a body. -/

/-- Ending what is being read takes no issue back. -/
theorem issues_settle (position : Nat) : lx.issues <+: (lx.settle position).issues := by
  unfold settle
  split
  · exact List.prefix_append _ _
  · exact (lx.notes_endNumber _ _).keeps
  all_goals exact List.prefix_rfl

/-- **The checks of a complete body** note what they find at its end, and name no symbol but a
delimiter that the body ends with. -/
theorem notes_complete (position : Nat) :
    Notes (Issue.AtEnd position) (lx.settle position) (lx.complete position) := by
  unfold complete
  generalize lx.settle position = settled
  -- the two later checks, behind whatever the first one has noted
  have hlater : ∀ other : Lexer, Notes (Issue.AtEnd position) settled other →
      Notes (Issue.AtEnd position) settled
        (let lx := if other.groups.isEmpty then other
          else other.note (.openAtEnd (other.groups.map Group.bracket).reverse) position
        if lx.roots.isEmpty && lx.expression.comment.isNone then lx.note .emptyBody position
        else lx) := by
    intro other hother
    dsimp only
    have hbrackets : Notes (Issue.AtEnd position) settled (if other.groups.isEmpty then other
        else other.note (.openAtEnd (other.groups.map Group.bracket).reverse) position) := by
      split
      · exact hother
      · exact hother.trans (other.notes_note ⟨rfl, Or.inl rfl⟩)
    exact hbrackets.trans (notes_ite_note _ _ ⟨rfl, Or.inl rfl⟩)
  obtain ⟨arena, escape, mode, pending, last, groups, roots, issues, lastPosition⟩ := settled
  cases pending with
  | delimiter delimiter => exact hlater _ (notes_note _ ⟨rfl, Or.inr rfl⟩)
  | start | blank | adjacent => exact hlater _ (.same rfl)

/-- A check that notes what it finds leaves no issue exactly where there was none and it finds
nothing. -/
theorem issues_ite_note_eq_nil_iff (p : Prop) [Decidable p] (cause : Cause) (position : Nat) :
    (if p then lx.note cause position else lx).issues = [] ↔ lx.issues = [] ∧ ¬ p := by
  by_cases hp : p
  · rw [if_pos hp]
    exact iff_of_false (lx.note_ne_nil cause position) fun h => h.2 hp
  · rw [if_neg hp]
    exact (and_iff_left hp).symm

/-- **A body has no issue** if nothing was noted up to its end and nothing is open there. -/
theorem issues_finish_eq_nil_iff (position : Nat) :
    (lx.finish position).issues = []
      ↔ (lx.settle position).issues = [] ∧ (∀ d, (lx.settle position).pending ≠ .delimiter d)
        ∧ (lx.settle position).groups = []
        ∧ ((lx.settle position).roots = [] → (lx.settle position).expression.comment ≠ none) := by
  unfold finish complete
  generalize lx.settle position = settled
  -- the last check is the outermost of the three notes; the two others depend on the state only
  obtain ⟨arena, escape, mode, pending, last, groups, roots, issues, lastPosition⟩ := settled
  dsimp only
  refine (issues_ite_note_eq_nil_iff _ _ _ _).trans ?_
  cases pending with
  | delimiter d =>
      cases groups <;> simp [note]
  | start | blank | adjacent =>
      cases groups <;> simp [note, expression]

/-- The end of a body takes no issue back. -/
theorem issues_finish_ne_nil (h : lx.issues ≠ []) (position : Nat) :
    (lx.finish position).issues ≠ [] := fun hfinish =>
  (lx.issues_settle position).ne_nil h ((lx.issues_finish_eq_nil_iff position).1 hfinish).1

end Lexer

end LayerTemplates
