/-
  LayerTemplates.Proofs.Expression.Marks
  ──────────────────────────────────────
  What a lexeme was read as, apart from how it is linked.

  The mark of a lexeme is its characters, how they are written, and the range that they take.
  The marks of an arena stand in the order of allocation.  Allocating adds one mark at the end;
  linking lexemes, and saying what part they play, changes none.

  Main statements:
    * `Arena.marks_alloc`, `Arena.marks_modify_last` — how the list of marks grows.
    * `Lexer.marks_joinOperand`, `Lexer.marks_delimit` — linking leaves the marks alone.
-/
import LayerTemplates.Proofs.Expression.Links

namespace LayerTemplates

/-! ## §1. Marks. -/

/-- What a lexeme was read as. -/
structure Mark where
  value : String
  form : LexemeForm
  quote : Option Char
  span : Span
  deriving Repr, DecidableEq

/-- The mark of a lexeme. -/
def Lexeme.mark (l : Lexeme) : Mark := ⟨l.value, l.form, l.quote, l.span⟩

@[simp] theorem Lexeme.mark_grouped (kind : LexemeKind) (l : Lexeme) :
    (l.grouped kind).mark = l.mark := by
  unfold Lexeme.grouped
  split <;> rfl

namespace Arena

/-- The marks of all lexemes, in allocation order. -/
def marks (a : Arena) : List Mark := a.lexemes.toList.map Lexeme.mark

@[simp] theorem length_marks (a : Arena) : a.marks.length = a.size := by
  simp [marks, size]

/-- The mark of any lexeme is found in the list. -/
theorem mark_get (a : Arena) (id : LexemeId) :
    (a.get id).mark = (a.marks[id]?).getD (Lexeme.mark {}) := by
  unfold marks get
  rw [List.getElem?_map, Array.getElem?_toList]
  cases a.lexemes[id]? <;> rfl

/-- Inside the arena every lexeme has a mark in the list, at its own index. -/
theorem marks_getElem? {a : Arena} {id : LexemeId} (hid : id < a.size) :
    a.marks[id]? = some (a.get id).mark := by
  have hlt : id < a.marks.length := by rwa [length_marks]
  rw [mark_get, List.getElem?_eq_getElem hlt]
  rfl

/-- Allocating a lexeme is the one operation that adds a mark, and it adds it last. -/
@[simp] theorem marks_alloc (a : Arena) (l : Lexeme) : (a.alloc l).marks = a.marks ++ [l.mark] := by
  simp [marks, alloc]

/-- A change that keeps the mark of every lexeme keeps the list. -/
theorem marks_modify (a : Arena) (id : LexemeId) {f : Lexeme → Lexeme}
    (hf : ∀ l, (f l).mark = l.mark) : (a.modify id f).marks = a.marks := by
  apply List.ext_getElem?
  intro j
  by_cases hj : j < a.size
  · have hj' : j < (a.modify id f).size := by rwa [size_modify]
    rw [marks_getElem? hj, marks_getElem? hj']
    exact congrArg some (comp_get_modify a id j Lexeme.mark (hf _))
  · rw [List.getElem?_eq_none (by rw [length_marks, size_modify]; omega),
      List.getElem?_eq_none (by rw [length_marks]; omega)]

/-- A change to the newest lexeme changes the last mark only. -/
theorem marks_modify_last {a : Arena} {earlier : List Mark} {mark : Mark}
    (h : a.marks = earlier ++ [mark]) {f : Lexeme → Lexeme} (g : Mark → Mark)
    (hf : ∀ l, (f l).mark = g l.mark) :
    (a.modify earlier.length f).marks = earlier ++ [g mark] := by
  have hsize : a.size = earlier.length + 1 := by
    rw [← length_marks, h, List.length_append]
    rfl
  have hlast : (a.get earlier.length).mark = mark := by
    rw [mark_get, h]
    simp
  apply List.ext_getElem?
  intro j
  by_cases hj : j < a.size
  · rw [marks_getElem? (by rwa [size_modify])]
    by_cases heq : j = earlier.length
    · have hlt : earlier.length < a.size := by omega
      rw [heq, get_modify_self _ _ hlt, hf, hlast]
      simp
    · have hlt : j < earlier.length := by omega
      have hold := marks_getElem? hj
      rw [h, List.getElem?_append_left hlt] at hold
      rw [get_modify_of_ne _ _ heq, List.getElem?_append_left hlt, hold]
  · rw [List.getElem?_eq_none (by rw [length_marks, size_modify]; omega),
      List.getElem?_eq_none (by rw [List.length_append]; simp; omega)]

/-- The kind of a lexeme is no part of its mark. -/
@[simp] theorem marks_grouped (a : Arena) (id : LexemeId) (kind : LexemeKind) :
    (a.modify id (Lexeme.grouped kind)).marks = a.marks :=
  marks_modify a id fun l => l.mark_grouped kind

@[simp] theorem marks_attachNext (a : Arena) (prev next : LexemeId) :
    (a.attachNext prev next).marks = a.marks :=
  (marks_modify _ next (by intro l; rfl)).trans (marks_modify a prev (by intro l; rfl))

/-- Neither are its links, whichever of them is set. -/
@[simp] theorem marks_attachChild (a : Arena) (parent child : LexemeId) :
    (a.attachChild parent child).marks = a.marks :=
  (marks_modify _ child (by intro l; rfl)).trans (marks_modify a parent (by intro l; rfl))

@[simp] theorem marks_attachFirstArg (a : Arena) (function arg : LexemeId) :
    (a.attachFirstArg function arg).marks = a.marks :=
  (marks_modify _ arg (by intro l; exact Lexeme.mark_grouped _ _)).trans
    (marks_modify a function (by intro l; rfl))

end Arena

/-! ## §2. Linking. -/

namespace Lexer

open Arena

/-- The anchor is kept outside the arena. -/
theorem arena_setAnchor (lx : Lexer) (id : LexemeId) : (lx.setAnchor id).arena = lx.arena := by
  unfold setAnchor
  split <;> rfl

/-- A sibling is linked and gets the kind of its bracket, and no mark changes by that. -/
theorem marks_joinSibling (lx : Lexer) (id : LexemeId) :
    (lx.joinSibling id).arena.marks = lx.arena.marks := by
  unfold joinSibling
  dsimp only
  cases lx.anchor with
  | none =>
      dsimp only
      split <;> rw [arena_setAnchor]
      exact marks_grouped _ _ _
  | some prev =>
      dsimp only
      split <;> rw [arena_setAnchor]
      · exact marks_attachNext _ _ _
      · exact (marks_grouped _ _ _).trans (marks_attachNext _ _ _)

/-- **Linking an operand leaves the marks alone.** -/
theorem marks_joinOperand (lx : Lexer) (id : LexemeId) (position : Nat) :
    (lx.joinOperand id position).arena.marks = lx.arena.marks := by
  unfold joinOperand
  split
  · rw [arena_setAnchor]
  · exact marks_joinSibling (lx.note _ _) id
  · split
    · exact marks_joinSibling lx id
    · exact marks_joinSibling (lx.note _ _) id
  · split
    · exact marks_attachChild _ _ _
    · rfl
  · exact marks_joinSibling lx id
  · split <;> rw [arena_setAnchor]
    exact (marks_grouped _ _ _).trans (marks_attachChild _ _ _)
  · split <;> rw [arena_setAnchor]
    exact marks_attachFirstArg _ _ _

/-- A new operand adds its mark. -/
theorem marks_beginOperand (lx : Lexer) (lexeme : Lexeme) (position : Nat) :
    (lx.beginOperand lexeme position).arena.marks = lx.arena.marks ++ [lexeme.mark] :=
  (marks_joinOperand { lx with arena := lx.arena.alloc lexeme } _ _).trans (marks_alloc _ _)

/-! ## §3. Delimiters. -/

/-- An argument list makes a function of its owner, which is read as before. -/
theorem marks_openBracket (lx : Lexer) (bracket : Bracket) (anchor : LexemeId)
    (position : Nat) : (lx.openBracket bracket anchor position).arena.marks = lx.arena.marks := by
  cases bracket with
  | square => rfl
  | round =>
      unfold openBracket
      dsimp only
      split <;> exact marks_modify _ _ fun _ => rfl

/-- **Delimiters leave the marks alone.** -/
theorem marks_delimit (lx : Lexer) (delimiter : Delimiter) (position : Nat) :
    (lx.delimit delimiter position).arena.marks = lx.arena.marks := by
  unfold delimit
  split
  · rfl
  · rfl
  all_goals
    split
    · rfl
    · split
      · rfl
      · cases delimiter with
        | opening bracket => exact marks_openBracket lx bracket _ position
        | dot | comma => rfl

theorem marks_comma (lx : Lexer) (position : Nat) :
    (lx.comma position).arena.marks = lx.arena.marks := by
  unfold comma
  repeat' split
  all_goals rfl

/-- Closing a bracket does not touch the arena. -/
theorem marks_closeBracket (lx : Lexer) (closer : Bracket) (position : Nat) :
    (lx.closeBracket closer position).arena.marks = lx.arena.marks := by
  have hdoubled : (lx.noteDoubled closer position).arena = lx.arena := by
    unfold noteDoubled
    repeat' split
    all_goals rfl
  refine congrArg Arena.marks (Eq.trans ?_ hdoubled)
  unfold closeBracket
  split
  · rfl
  · dsimp only
    split <;> rfl

end Lexer

end LayerTemplates
