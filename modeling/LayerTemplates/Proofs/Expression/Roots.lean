/-
  LayerTemplates.Proofs.Expression.Roots
  ──────────────────────────────────────
  A body without issues has an expression.

  The roots of a body are never taken back.  As long as there is none, the lexer has met nothing
  but blanks and delimiters that stand first, and it is where it was in the beginning.  A comment
  is no exception: where nothing stands before it, its sign is a root.  So a body that ends
  without a root has the issue that it is empty, whatever else it has.

  Main statements:
    * `Lexer.roots_feed` — a character takes no root back.
    * `Lexer.Rooted.feed` — without a root the lexer is where it was in the beginning.
    * `Lexer.roots_ne_nil_of_finish` — a body without issues has a root.
-/
import LayerTemplates.Proofs.Expression.Issues

namespace LayerTemplates

namespace Lexer

variable (lx : Lexer)

/-! ## §1. Roots are never taken back. -/

@[simp] theorem roots_setAnchor (id : LexemeId) : (lx.setAnchor id).roots = lx.roots := by
  unfold setAnchor
  split <;> rfl

/-- A sibling is a root outside brackets only. -/
theorem roots_joinSibling (id : LexemeId) :
    (lx.joinSibling id).roots = lx.roots ∨ (lx.joinSibling id).roots = lx.roots ++ [id] := by
  unfold joinSibling
  dsimp only
  split
  · right
    rw [roots_setAnchor]
  · left
    rw [roots_setAnchor]

/-- An operand becomes a root where it stands first or behind blanks outside brackets; otherwise it
is linked to something else. -/
theorem roots_joinOperand (id : LexemeId) (position : Nat) :
    (lx.joinOperand id position).roots = lx.roots
      ∨ (lx.joinOperand id position).roots = lx.roots ++ [id] := by
  unfold joinOperand
  split
  · right
    rw [roots_setAnchor]
  · exact (lx.note _ _).roots_joinSibling id
  · split
    · exact lx.roots_joinSibling id
    · exact (lx.note _ _).roots_joinSibling id
  · left
    split <;> rfl
  · exact lx.roots_joinSibling id
  · left
    split <;> rw [roots_setAnchor]
  · left
    split <;> rw [roots_setAnchor]

/-- Starting an operand takes no root back, and adds at most one. -/
theorem roots_beginOperand (lexeme : Lexeme) (position : Nat) :
    lx.roots <+: (lx.beginOperand lexeme position).roots := by
  have hjoined := roots_joinOperand { lx with arena := lx.arena.alloc lexeme } lx.arena.size
    position
  unfold beginOperand
  rcases hjoined with hsame | hmore
  · exact ⟨[], by rw [hsame, List.append_nil]⟩
  · rw [hmore]
    exact List.prefix_append _ _

theorem roots_operatorSign (c : Char) (position : Nat) :
    lx.roots <+: (lx.operatorSign c position).roots := lx.roots_beginOperand _ _

@[simp] theorem roots_endNumber (id : LexemeId) (position : Nat) :
    (lx.endNumber id position).roots = lx.roots := by
  unfold endNumber
  split <;> rfl

/-- A bracket belongs to an operand that is there already, so it is no root. -/
@[simp] theorem roots_openBracket (bracket : Bracket) (anchor : LexemeId) (position : Nat) :
    (lx.openBracket bracket anchor position).roots = lx.roots := by
  cases bracket with
  | square => rfl
  | round =>
      unfold openBracket
      dsimp only
      split <;> rfl

@[simp] theorem roots_delimit (delimiter : Delimiter) (position : Nat) :
    (lx.delimit delimiter position).roots = lx.roots := by
  unfold delimit
  split
  · rfl
  · rfl
  all_goals
    split
    · rfl
    · split
      · rfl
      · cases delimiter with
        | opening bracket => exact lx.roots_openBracket bracket _ position
        | dot | comma => rfl

@[simp] theorem roots_comma (position : Nat) : (lx.comma position).roots = lx.roots := by
  unfold comma
  repeat' split
  all_goals rfl

@[simp] theorem roots_closeBracket (closer : Bracket) (position : Nat) :
    (lx.closeBracket closer position).roots = lx.roots := by
  have hdoubled : (lx.noteDoubled closer position).roots = lx.roots := by
    unfold noteDoubled
    repeat' split
    all_goals rfl
  unfold closeBracket
  split
  · exact hdoubled
  · dsimp only
    split <;> exact hdoubled

/-- Inside a literal nothing is linked. -/
@[simp] theorem roots_feedQuoted (id : LexemeId) (quote : Char) (escaping : Bool) (c : Char)
    (position : Nat) : (lx.feedQuoted id quote escaping c position).roots = lx.roots := by
  apply lx.feedQuoted_cases (motive := fun after => after.roots = lx.roots)
  case empty => exact fun _ _ => rfl
  case closed => exact fun _ _ _ => rfl
  all_goals rfl

/-- Of the characters outside operands only those that start one may add a root. -/
theorem roots_feedBetween (c : Char) (position : Nat) :
    lx.roots <+: (lx.feedBetween c position).roots := by
  have hsame : ∀ other : Lexer, other.roots = lx.roots → lx.roots <+: other.roots :=
    fun other hother => hother ▸ List.prefix_rfl
  apply lx.feedBetween_cases (motive := fun after => lx.roots <+: after.roots)
  case same => exact List.prefix_rfl
  case spaced => exact fun _ => List.prefix_rfl
  case sign => exact lx.roots_operatorSign c position
  case signed => exact fun _ => lx.roots_operatorSign c position
  case remark => exact fun _ => List.prefix_rfl
  case delimited => exact fun _ => hsame _ (lx.roots_delimit _ position)
  case separated => exact hsame _ (lx.roots_comma position)
  case closed => exact fun _ => hsame _ (lx.roots_closeBracket _ position)
  case opened => exact fun _ _ _ _ => lx.roots_beginOperand _ position
  case word => exact lx.roots_beginOperand _ position

/-- **A character takes no root back.** -/
theorem roots_feed (c : Char) (position : Nat) : lx.roots <+: (lx.feed c position).roots := by
  generalize hfed : ({ lx with lastPosition := position } : Lexer) = fed
  rw [show lx.roots = fed.roots from hfed ▸ rfl]
  apply lx.feed_cases (motive := fun after => fed.roots <+: after.roots) c position hfed
  case quoted =>
    intro id quote escaping _
    exact ⟨[], by rw [roots_feedQuoted, List.append_nil]⟩
  case pushed => exact fun _ _ => List.prefix_rfl
  case numbered =>
    intro id _
    rw [← fed.roots_endNumber id position]
    exact (fed.endNumber id position).roots_feedBetween c position
  case named => exact fun _ _ => fed.endOperand.roots_feedBetween c position
  case remark => exact fun _ _ => List.prefix_rfl
  case between => exact fun _ => fed.roots_feedBetween c position

/-! ## §2. Before the first root. -/

/-- The lexer is where it was in the beginning, if there is no root. -/
def Rooted : Prop := lx.roots = [] → lx.mode = .between ∧ lx.pending = .start ∧ lx.groups = []

variable {lx}

/-- A lexer that starts has no root and is where it is in the beginning. -/
theorem rooted_start (arena : Arena) (escape : Char) : Rooted { arena, escape } :=
  fun _ => ⟨rfl, rfl, rfl⟩

/-- The first operand is a root. -/
theorem roots_beginOperand_ne_nil (hpending : lx.pending = .start) (lexeme : Lexeme)
    (position : Nat) : (lx.beginOperand lexeme position).roots ≠ [] := by
  unfold beginOperand joinOperand
  rw [show ({ lx with arena := lx.arena.alloc lexeme } : Lexer).pending = .start from hpending]
  dsimp only
  rw [roots_setAnchor]
  simp

/-- A delimiter that stands first changes nothing but the issues. -/
theorem Rooted.feedBetween (hmode : lx.mode = .between) (hpending : lx.pending = .start)
    (hgroups : lx.groups = []) (c : Char) (position : Nat) :
    (lx.feedBetween c position).Rooted := by
  -- the first operand is a root; whatever else a character is, there is nothing it could change
  have hbegun : ∀ (other : Lexer) (lexeme : Lexeme),
      other.roots = (lx.beginOperand lexeme position).roots → other.Rooted := by
    intro other lexeme hother hnone
    rw [hother] at hnone
    exact absurd hnone (roots_beginOperand_ne_nil hpending lexeme position)
  have hstays : ∀ other : Lexer, other.mode = lx.mode → other.pending = lx.pending →
      other.groups = lx.groups → other.Rooted := by
    intro other hmode' hpending' hgroups' _
    exact ⟨hmode'.trans hmode, hpending'.trans hpending, hgroups'.trans hgroups⟩
  apply lx.feedBetween_cases (motive := Rooted)
  case same => exact hstays _ rfl rfl rfl
  case spaced =>
    intro hadjacent
    rw [hpending] at hadjacent
    exact absurd hadjacent (by simp)
  case sign => exact hbegun _ _ rfl
  case signed => exact fun _ => hbegun _ _ rfl
  case remark => exact fun hstarted => absurd hpending hstarted
  case delimited =>
    intro delimiter
    unfold delimit
    rw [hpending]
    exact hstays _ rfl rfl rfl
  case separated =>
    unfold Lexer.comma
    rw [hpending]
    exact hstays _ rfl rfl rfl
  case closed =>
    intro closer
    unfold Lexer.closeBracket noteDoubled
    rw [hgroups, hpending]
    exact hstays _ rfl hpending.symm rfl
  case opened => exact fun _ _ _ _ => hbegun _ _ rfl
  case word => exact hbegun _ _ rfl

/-- **Without a root the lexer is where it was in the beginning.** -/
theorem Rooted.feed (h : lx.Rooted) (c : Char) (position : Nat) :
    (lx.feed c position).Rooted := by
  intro hnone
  have hbefore : lx.roots = [] := List.prefix_nil.1 (hnone ▸ lx.roots_feed c position)
  obtain ⟨hmode, hpending, hgroups⟩ := h hbefore
  have heq : lx.feed c position
      = Lexer.feedBetween { lx with lastPosition := position } c position := by
    obtain ⟨arena, escape, mode, pending, last, groups, roots, issues, lastPosition⟩ := lx
    obtain rfl : mode = .between := hmode
    rfl
  have hfed : (Lexer.feedBetween { lx with lastPosition := position } c position).Rooted :=
    .feedBetween (by exact hmode) (by exact hpending) (by exact hgroups) c position
  rw [heq] at hnone ⊢
  exact hfed hnone

/-- By induction on the characters, from any lexer that is rooted. -/
theorem rooted_feedAll (chars : List Char) :
    ∀ (lx : Lexer) (position : Nat), lx.Rooted → (lx.feedAll position chars).Rooted :=
  feedAll_keeps (fun _ c position h => h.feed c position) chars

/-! ## §3. The end of a body. -/

@[simp] theorem roots_settle (lx : Lexer) (position : Nat) :
    (lx.settle position).roots = lx.roots := by
  unfold settle
  split
  · rfl
  · exact lx.roots_endNumber _ _
  all_goals rfl

/-- The checks at the end of a body note issues, and leave its roots as they are. -/
@[simp] theorem roots_finish (lx : Lexer) (position : Nat) :
    (lx.finish position).roots = lx.roots := by
  rw [← lx.roots_settle position]
  unfold finish complete
  generalize lx.settle position = settled
  dsimp only
  repeat' split
  all_goals rfl

/-- **A body without issues has a root.** -/
theorem roots_ne_nil_of_finish (h : lx.Rooted) {position : Nat}
    (hclean : (lx.finish position).issues = []) : (lx.finish position).roots ≠ [] := by
  rw [roots_finish]
  intro hnone
  obtain ⟨hmode, -, -⟩ := h hnone
  have hempty := ((lx.issues_finish_eq_nil_iff position).1 hclean).2.2.2
  rw [roots_settle] at hempty
  -- nothing is being read, so there is no comment either
  apply hempty hnone
  unfold settle
  rw [hmode]
  dsimp only
  unfold Lexer.expression
  rw [hmode]

end Lexer

end LayerTemplates
