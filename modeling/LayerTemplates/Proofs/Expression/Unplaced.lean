/-
  LayerTemplates.Proofs.Expression.Unplaced
  ─────────────────────────────────────────
  Where the characters of a body stand does not matter to the lexer.

  The lexer keeps the offsets of what it reads, as ranges of lexemes and as positions of issues,
  but it never looks at them.  So it does the same without them: what it does on a lexer whose
  offsets are forgotten is what it does on the lexer itself, with the offsets forgotten afterwards.

  Main statements:
    * `Lexer.unplaced_feed` — a character does the same wherever it stands.
    * `Lexer.finish_unplaced` — the checks at the end find the same wherever the body ends.
    * `Directive.classify_unplaced` — a directive does not depend on ranges.
-/
import LayerTemplates.Expression.Lexer

namespace LayerTemplates

/-! ## §1. What is forgotten. -/

/-- A lexeme without its range. -/
def Lexeme.unplaced (l : Lexeme) : Lexeme := { l with span := ⟨0, 0⟩ }

/-- The lexemes of an arena without their ranges. -/
def Arena.unplaced (a : Arena) : Arena := ⟨a.lexemes.map Lexeme.unplaced⟩

/-- An issue without its position. -/
def Issue.unplaced (issue : Issue) : Issue := { issue with position := 0 }

/-- What was read of a body, without the positions of the issues. -/
def Expression.unplaced (e : Expression) : Expression :=
  { e with issues := e.issues.map Issue.unplaced }

/-- A lexer that has forgotten where everything stands. -/
def Lexer.unplaced (lx : Lexer) : Lexer :=
  { lx with
    arena := lx.arena.unplaced
    issues := lx.issues.map Issue.unplaced
    lastPosition := 0 }

/-! ## §2. Arenas. -/

/-- The kind that a group gives to a lexeme does not depend on where the lexeme stands. -/
@[simp] theorem Lexeme.unplaced_grouped (l : Lexeme) (kind : LexemeKind) :
    (l.grouped kind).unplaced = l.unplaced.grouped kind := by
  unfold grouped unplaced
  dsimp only
  split <;> rfl

namespace Arena

variable (a : Arena)

@[simp] theorem size_unplaced : a.unplaced.size = a.size := by
  simp [unplaced, size]

/-- Also outside the arena, where both sides have the same default lexeme. -/
@[simp] theorem get_unplaced (id : LexemeId) : a.unplaced.get id = (a.get id).unplaced := by
  unfold get unplaced
  rw [Array.getElem?_map]
  cases a.lexemes[id]? <;> rfl

/-- What a lexeme reads is kept, so the lexer finds an empty literal empty either way. -/
theorem value_get_unplaced (id : LexemeId) : (a.unplaced.get id).value = (a.get id).value := by
  rw [get_unplaced]
  rfl

@[simp] theorem unplaced_idem : a.unplaced.unplaced = a.unplaced := by
  unfold unplaced
  rw [Array.map_map]
  rfl

@[simp] theorem unplaced_alloc (l : Lexeme) :
    (a.alloc l).unplaced = a.unplaced.alloc l.unplaced := by
  unfold unplaced alloc
  rw [Array.map_push]

/-- A change carries over to what is left of a lexeme, although it may set the range that is
forgotten. -/
theorem unplaced_modify (id : LexemeId) {f g : Lexeme → Lexeme}
    (hf : ∀ l, (f l).unplaced = g l.unplaced) :
    (a.modify id f).unplaced = a.unplaced.modify id g := by
  unfold unplaced modify
  congr 1
  apply Array.ext_getElem?
  intro j
  rw [Array.getElem?_map, Array.getElem?_modify, Array.getElem?_modify, Array.getElem?_map]
  split
  · rw [Option.map_map, Option.map_map]
    exact congrArg (fun h => Option.map h _) (funext hf)
  · rfl

/-- A change that leaves ranges alone. -/
theorem unplaced_modify_self (id : LexemeId) {f : Lexeme → Lexeme}
    (hf : ∀ l, (f l).unplaced = f l.unplaced) :
    (a.modify id f).unplaced = a.unplaced.modify id f := a.unplaced_modify id hf

@[simp] theorem unplaced_modify_grouped (id : LexemeId) (kind : LexemeKind) :
    (a.modify id (Lexeme.grouped kind)).unplaced
      = a.unplaced.modify id (Lexeme.grouped kind) :=
  a.unplaced_modify_self id fun l => l.unplaced_grouped kind

@[simp] theorem unplaced_attachChild (parent child : LexemeId) :
    (a.attachChild parent child).unplaced = a.unplaced.attachChild parent child := by
  unfold attachChild
  rw [unplaced_modify_self, unplaced_modify_self] <;> exact fun _ => rfl

@[simp] theorem unplaced_attachFirstArg (function arg : LexemeId) :
    (a.attachFirstArg function arg).unplaced = a.unplaced.attachFirstArg function arg := by
  unfold attachFirstArg
  rw [unplaced_modify_self, unplaced_modify_self]
  · exact fun _ => rfl
  · exact fun _ => Lexeme.unplaced_grouped _ _

@[simp] theorem unplaced_attachNext (prev next : LexemeId) :
    (a.attachNext prev next).unplaced = a.unplaced.attachNext prev next := by
  have hlinked : (a.modify prev fun l => { l with next := some next }).unplaced
      = a.unplaced.modify prev fun l => { l with next := some next } :=
    a.unplaced_modify_self prev fun _ => rfl
  unfold attachNext
  dsimp only
  rw [← hlinked, get_unplaced]
  exact unplaced_modify_self _ _ fun _ => rfl

/-- Child links are kept, so following them passes the same lexemes. -/
theorem chain_unplaced (fuel : Nat) :
    ∀ id, a.unplaced.chain Lexeme.child fuel id = a.chain Lexeme.child fuel id := by
  induction fuel with
  | zero => exact fun _ => rfl
  | succ fuel ih =>
      intro id
      rw [chain, chain, get_unplaced, show (a.get id).unplaced.child = (a.get id).child from rfl]
      cases (a.get id).child with
      | none => rfl
      | some following => exact congrArg (id :: ·) (ih following)

@[simp] theorem deepest_unplaced (id : LexemeId) : a.unplaced.deepest id = a.deepest id := by
  unfold deepest
  rw [chain_unplaced, size_unplaced]

/-- Which operator a body starts with is read off the value of a lexeme. -/
@[simp] theorem operatorAt?_unplaced (id : LexemeId) :
    a.unplaced.operatorAt? id = a.operatorAt? id := by
  unfold operatorAt?
  rw [get_unplaced]
  rfl

end Arena

/-- **A directive does not depend on ranges.** -/
theorem Directive.classify_unplaced (a : Arena) (roots : List LexemeId) :
    classify a.unplaced roots = classify a roots := by
  unfold classify
  cases roots with
  | nil => rfl
  | cons first others =>
      dsimp only
      rw [Arena.operatorAt?_unplaced]

/-! ## §3. Operands. -/

namespace Lexer

variable (lx : Lexer)

@[simp] theorem arena_unplaced : lx.unplaced.arena = lx.arena.unplaced := rfl

@[simp] theorem escape_unplaced : lx.unplaced.escape = lx.escape := rfl

@[simp] theorem mode_unplaced : lx.unplaced.mode = lx.mode := rfl

@[simp] theorem pending_unplaced : lx.unplaced.pending = lx.pending := rfl

@[simp] theorem groups_unplaced : lx.unplaced.groups = lx.groups := rfl

@[simp] theorem roots_unplaced : lx.unplaced.roots = lx.roots := rfl

@[simp] theorem unplaced_idem : lx.unplaced.unplaced = lx.unplaced := by
  unfold unplaced
  dsimp only
  rw [Arena.unplaced_idem, List.map_map]
  rfl

/-- An issue is noted with its cause; at which position is forgotten. -/
theorem unplaced_note (cause : Cause) (position : Nat) :
    (lx.note cause position).unplaced = lx.unplaced.note cause 0 := by
  simp [note, unplaced, Issue.unplaced]

theorem anchor_unplaced : lx.unplaced.anchor = lx.anchor := rfl

theorem unplaced_setAnchor (id : LexemeId) :
    (lx.setAnchor id).unplaced = lx.unplaced.setAnchor id := by
  obtain ⟨arena, escape, mode, pending, last, groups, roots, issues, lastPosition⟩ := lx
  cases groups <;> rfl

/-- A character is added to an operand, and how far the operand reaches is forgotten. -/
theorem unplaced_pushChar (id : LexemeId) (c : Char) (position : Nat) :
    (lx.pushChar id c position).unplaced = (lx.unplaced.pushChar id c 0).unplaced := by
  have harena : ∀ (a : Arena) (stop : Nat), (a.modify id fun l =>
      { l with value := l.value.push c, span := ⟨l.span.start, stop⟩ }).unplaced
        = a.unplaced.modify id fun l => { l with value := l.value.push c } := fun a stop =>
    a.unplaced_modify id fun _ => rfl
  simp [pushChar, unplaced, harena, Function.comp_def, Issue.unplaced]

theorem unplaced_endOperand : lx.endOperand.unplaced = lx.unplaced.endOperand := rfl

/-- A caret without digits is noticed by the value of its operand, which is kept. -/
theorem unplaced_endNumber (id : LexemeId) (position : Nat) :
    (lx.endNumber id position).unplaced = lx.unplaced.endNumber id 0 := by
  unfold endNumber
  rw [arena_unplaced, Arena.value_get_unplaced]
  split
  · rw [unplaced_endOperand, unplaced_note]
  · rfl

/-- Which operand is linked to which depends on indices and on open brackets, both of which are
kept. -/
theorem unplaced_joinSibling (id : LexemeId) :
    (lx.joinSibling id).unplaced = lx.unplaced.joinSibling id := by
  obtain ⟨arena, escape, mode, pending, last, groups, roots, issues, lastPosition⟩ := lx
  -- outside brackets the operand follows the last root, inside them the last of the bracket
  cases groups with
  | nil => cases last <;> simp [joinSibling, anchor, setAnchor, unplaced]
  | cons group outer =>
      obtain ⟨bracket, owner, last'⟩ := group
      cases last' <;> simp [joinSibling, anchor, setAnchor, unplaced]

/-- Linking reads what stands before the operand, never where it stands; only the issues that it may
note have a position. -/
theorem unplaced_joinOperand (id : LexemeId) (position : Nat) :
    (lx.joinOperand id position).unplaced = lx.unplaced.joinOperand id 0 := by
  unfold joinOperand
  rw [anchor_unplaced, pending_unplaced,
    groups_unplaced]
  -- the index of the operand is the same on both sides, and so is what it is linked to
  cases lx.pending with
  | start => exact unplaced_setAnchor _ _
  | adjacent =>
      dsimp only
      rw [unplaced_joinSibling, unplaced_note]
  | blank =>
      dsimp only
      split
      · exact lx.unplaced_joinSibling id
      · rw [unplaced_joinSibling, unplaced_note]
  | delimiter d =>
      cases d with
      | dot =>
          dsimp only
          cases lx.anchor with
          | none => rfl
          | some anchor => simp [unplaced]
      | comma => exact lx.unplaced_joinSibling id
      | opening bracket =>
          cases bracket with
          | square =>
              dsimp only
              cases lx.groups with
              | nil => exact lx.unplaced_setAnchor id
              | cons group outer =>
                  dsimp only
                  rw [unplaced_setAnchor]
                  simp [unplaced]
          | round =>
              dsimp only
              cases lx.groups with
              | nil => exact lx.unplaced_setAnchor id
              | cons group outer =>
                  dsimp only
                  rw [unplaced_setAnchor]
                  simp [unplaced]

/-- Operands that differ in their ranges start alike; the range of the new one is forgotten with the
rest. -/
theorem unplaced_beginOperand {lexeme lexeme' : Lexeme} (h : lexeme.unplaced = lexeme'.unplaced)
    (position : Nat) :
    (lx.beginOperand lexeme position).unplaced
      = (lx.unplaced.beginOperand lexeme' 0).unplaced := by
  have hadded : ({ lx with arena := lx.arena.alloc lexeme } : Lexer).unplaced
      = unplaced { lx.unplaced with arena := lx.unplaced.arena.alloc lexeme' } := by
    show ({ lx.unplaced with arena := (lx.arena.alloc lexeme).unplaced } : Lexer)
      = { lx.unplaced.unplaced with arena := (lx.arena.unplaced.alloc lexeme').unplaced }
    rw [unplaced_idem, Arena.unplaced_alloc, Arena.unplaced_alloc, Arena.unplaced_idem, h]
  unfold beginOperand
  rw [unplaced_joinOperand, hadded, unplaced_joinOperand]
  exact congrArg (joinOperand _ · 0) lx.arena.size_unplaced.symm

/-- The first character of a word. -/
theorem unplaced_beginWord (c : Char) (position : Nat) :
    ((lx.beginOperand (.startingAt .plain position) position).pushChar lx.arena.size c
        position).unplaced
      = ((lx.unplaced.beginOperand (.startingAt .plain 0) 0).pushChar lx.unplaced.arena.size c
          0).unplaced := by
  have hstarts : (Lexeme.startingAt .plain position).unplaced
      = (Lexeme.startingAt .plain 0).unplaced := rfl
  have hsize : lx.unplaced.arena.size = lx.arena.size := lx.arena.size_unplaced
  rw [unplaced_pushChar, lx.unplaced_beginOperand hstarts, ← unplaced_pushChar, hsize]

/-- A leading sign starts an operand and ends it at once, so it is read like the start of a word. -/
theorem unplaced_operatorSign (c : Char) (position : Nat) :
    (lx.operatorSign c position).unplaced = (lx.unplaced.operatorSign c 0).unplaced :=
  congrArg (fun x : Lexer => { x with mode := .between, pending := .blank })
    (lx.unplaced_beginWord c position)

/-! ## §4. Delimiters. -/

/-- Whether a delimiter would belong to the operator of the body is seen without offsets. -/
theorem isOperatorAnchor_unplaced (id : LexemeId) :
    lx.unplaced.isOperatorAnchor id = lx.isOperatorAnchor id := by
  unfold isOperatorAnchor
  rw [arena_unplaced, Arena.operatorAt?_unplaced]
  rfl

/-- The owner of a bracket is found by child links, and a second argument list is noticed by its
kind. -/
theorem unplaced_openBracket (bracket : Bracket) (anchor : LexemeId) (position : Nat) :
    (lx.openBracket bracket anchor position).unplaced
      = lx.unplaced.openBracket bracket anchor 0 := by
  have hcalled : ∀ owner, (lx.arena.modify owner fun l => { l with kind := .function }).unplaced
      = lx.arena.unplaced.modify owner fun l => { l with kind := .function } := fun owner =>
    lx.arena.unplaced_modify owner fun _ => rfl
  unfold openBracket
  dsimp only
  rw [arena_unplaced, Arena.deepest_unplaced,
    Arena.get_unplaced, show (lx.arena.get (lx.arena.deepest anchor)).unplaced.kind
      = (lx.arena.get (lx.arena.deepest anchor)).kind from rfl]
  cases bracket with
  | square => rfl
  | round =>
      dsimp only
      split
      · simp [note, unplaced, Issue.unplaced, Lexeme.unplaced, hcalled]
      · simp [unplaced, hcalled]

/-- A dot or an opening bracket is out of place for what stands before it, wherever that is. -/
theorem unplaced_delimit (delimiter : Delimiter) (position : Nat) :
    (lx.delimit delimiter position).unplaced = lx.unplaced.delimit delimiter 0 := by
  unfold delimit
  rw [anchor_unplaced, pending_unplaced]
  cases lx.pending with
  | start => exact lx.unplaced_note _ _
  | delimiter previous => exact lx.unplaced_note _ _
  | blank | adjacent =>
      dsimp only
      cases lx.anchor with
      | none => exact lx.unplaced_note _ _
      | some anchor =>
          dsimp only
          rw [isOperatorAnchor_unplaced, arena_unplaced, Arena.value_get_unplaced]
          split
          · exact lx.unplaced_note _ _
          · cases delimiter with
            | opening bracket =>
                dsimp only
                rw [← lx.unplaced_openBracket bracket anchor position]
                rfl
            | dot | comma => rfl

/-- A comma needs an argument list around it; its position shows up in issues only. -/
theorem unplaced_comma (position : Nat) :
    (lx.comma position).unplaced = lx.unplaced.comma 0 := by
  unfold comma
  rw [pending_unplaced,
    groups_unplaced]
  cases lx.pending with
  | start => exact lx.unplaced_note _ _
  | delimiter previous => exact lx.unplaced_note _ _
  | blank | adjacent =>
      dsimp only
      split
      · rfl
      · exact lx.unplaced_note _ _

/-- Whether a closing bracket follows a delimiter at once is kept by what is pending. -/
theorem unplaced_noteDoubled (closer : Bracket) (position : Nat) :
    (lx.noteDoubled closer position).unplaced = lx.unplaced.noteDoubled closer 0 := by
  unfold noteDoubled
  rw [pending_unplaced]
  cases lx.pending with
  | delimiter previous =>
      dsimp only
      split
      · rfl
      · exact lx.unplaced_note _ _
  | start | blank | adjacent => rfl

/-- Both issues of a closing bracket come from the open brackets and from what is pending. -/
theorem unplaced_closeBracket (closer : Bracket) (position : Nat) :
    (lx.closeBracket closer position).unplaced = lx.unplaced.closeBracket closer 0 := by
  have hdoubled := lx.unplaced_noteDoubled closer position
  unfold closeBracket
  dsimp only
  rw [← hdoubled, groups_unplaced,
    pending_unplaced]
  generalize lx.noteDoubled closer position = doubled
  cases lx.groups with
  | nil =>
      dsimp only
      rw [← unplaced_note _ _ position]
      rfl
  | cons group outer =>
      dsimp only
      rw [← unplaced_note _ _ position]
      split <;> rfl

/-! ## §5. Characters. -/

/-- Inside a literal the range of the operand grows and is set anew at the end, and all of this is
forgotten. -/
theorem unplaced_feedQuoted (id : LexemeId) (quote : Char) (escaping : Bool) (c : Char)
    (position : Nat) :
    (lx.feedQuoted id quote escaping c position).unplaced
      = (lx.unplaced.feedQuoted id quote escaping c 0).unplaced := by
  have hpushed := lx.unplaced_pushChar id c position
  -- closing a literal sets its range, which is forgotten, and its form
  have hclosed : ∀ (a : Arena) (stop : Nat), (a.modify id fun l =>
      { l with
        span := ⟨l.span.start, stop⟩
        form := if quote == rawQuote then .plain else l.form }).unplaced
        = a.unplaced.modify id fun l =>
            { l with form := if quote == rawQuote then .plain else l.form } := fun a stop =>
    a.unplaced_modify id fun _ => rfl
  unfold feedQuoted
  rw [escape_unplaced]
  by_cases hescaping : escaping = true
  · rw [if_pos hescaping, if_pos hescaping]
    exact congrArg (fun x : Lexer => { x with mode := .quoted id quote false }) hpushed
  rw [if_neg hescaping, if_neg hescaping]
  by_cases hescape : (c == lx.escape) = true
  · rw [if_pos hescape, if_pos hescape]
    exact congrArg (fun x : Lexer => { x with mode := .quoted id quote true }) lx.unplaced_idem.symm
  rw [if_neg hescape, if_neg hescape]
  by_cases hquote : (c == quote) = true
  · rw [if_pos hquote, if_pos hquote]
    generalize hin : lx.arena.modify id _ = closed
    generalize hin' : lx.unplaced.arena.modify id _ = closed'
    -- whether the literal is empty is seen from its value alone
    have harena : closed.unplaced = closed'.unplaced := by
      rw [← hin, ← hin', hclosed, hclosed]
      exact congrArg (fun a : Arena => a.modify id _) lx.arena.unplaced_idem.symm
    have hsame : ({ lx with arena := closed } : Lexer).unplaced
        = ({ lx.unplaced with arena := closed' } : Lexer).unplaced := by
      show ({ lx.unplaced with arena := closed.unplaced } : Lexer)
        = { lx.unplaced.unplaced with arena := closed'.unplaced }
      rw [harena, unplaced_idem]
    dsimp only
    rw [← closed.value_get_unplaced id, ← closed'.value_get_unplaced id, harena]
    split
    · rw [unplaced_endOperand, unplaced_note, hsame, ← unplaced_note _ _ 0]
      rfl
    · rw [unplaced_endOperand, hsame]
      rfl
  · rw [if_neg hquote, if_neg hquote]
    exact hpushed

/-- Which case a character outside operands falls into depends on what is pending and on the
character. -/
theorem unplaced_feedBetween (c : Char) (position : Nat) :
    (lx.feedBetween c position).unplaced = (lx.unplaced.feedBetween c 0).unplaced := by
  -- what comes after forgetting offsets may forget them again
  have hagain : ∀ {x y : Lexer}, x.unplaced = y → x.unplaced = y.unplaced := by
    rintro x y rfl
    exact x.unplaced_idem.symm
  have hsize : lx.unplaced.arena.size = lx.arena.size := lx.arena.size_unplaced
  -- a literal and a caret start with a range of one character
  have hmarked : ∀ (form : LexemeForm) (kind : LexemeKind) (quote : Option Char) (mode : Mode),
      ({ lx.beginOperand { form, kind, quote, span := ⟨position, position + c.utf8Size⟩ }
          position with mode } : Lexer).unplaced
        = unplaced { lx.unplaced.beginOperand
            { form, kind, quote, span := ⟨0, 0 + c.utf8Size⟩ } 0 with mode } := by
    intro form kind quote mode
    have hstarts : Lexeme.unplaced { form, kind, quote, span := ⟨position, position + c.utf8Size⟩ }
        = Lexeme.unplaced { form, kind, quote, span := ⟨0, 0 + c.utf8Size⟩ } := rfl
    exact congrArg (fun x : Lexer => { x with mode }) (lx.unplaced_beginOperand hstarts position)
  unfold feedBetween
  dsimp only
  rw [pending_unplaced, hsize]
  by_cases hblank : isBlank c = true
  · rw [if_pos hblank, if_pos hblank]
    split <;> exact hagain rfl
  rw [if_neg hblank, if_neg hblank]
  by_cases hequals : (c == '=' && lx.pending == .start) = true
  · rw [if_pos hequals, if_pos hequals]
    exact lx.unplaced_operatorSign c position
  rw [if_neg hequals, if_neg hequals]
  by_cases hcomment : (c == '#') = true
  · rw [if_pos hcomment, if_pos hcomment]
    split
    · exact congrArg (fun x : Lexer => { x with mode := .comment "" })
        (lx.unplaced_operatorSign c position)
    · exact hagain rfl
  rw [if_neg hcomment, if_neg hcomment]
  -- the other characters are told apart in the same way on both sides
  repeat' split
  · exact hagain (lx.unplaced_delimit _ position)
  · exact hagain (lx.unplaced_delimit _ position)
  · exact hagain (lx.unplaced_delimit _ position)
  · exact hagain (lx.unplaced_comma position)
  · exact hagain (lx.unplaced_closeBracket _ position)
  · exact hagain (lx.unplaced_closeBracket _ position)
  · exact hmarked .relative .ancestor none (.number lx.arena.size)
  · exact hmarked .quoted .plain (some c) (.quoted lx.arena.size c false)
  · have hword := lx.unplaced_beginWord c position
    rw [hsize] at hword
    exact congrArg (fun x : Lexer => { x with mode := .bare lx.arena.size }) hword

/-- **A character does the same wherever it stands.** -/
theorem unplaced_feed (c : Char) (position : Nat) :
    (lx.feed c position).unplaced = (lx.unplaced.feed c 0).unplaced := by
  -- the position of the character is kept first, and forgotten with the others
  have hkept : ({ lx with lastPosition := position } : Lexer).unplaced = lx.unplaced := rfl
  have hlast : ({ lx.unplaced with lastPosition := 0 } : Lexer) = lx.unplaced := rfl
  unfold feed
  dsimp only
  rw [hlast, mode_unplaced,
    show lx.mode = ({ lx with lastPosition := position } : Lexer).mode from rfl, ← hkept]
  generalize hfed : ({ lx with lastPosition := position } : Lexer) = fed
  cases fed.mode with
  | quoted id quote escaping => exact fed.unplaced_feedQuoted id quote escaping c position
  | number id =>
      dsimp only
      split
      · exact fed.unplaced_pushChar id c position
      · rw [unplaced_feedBetween, unplaced_endNumber]
  | bare id =>
      dsimp only
      split
      · exact fed.unplaced_pushChar id c position
      · rw [unplaced_feedBetween, unplaced_endOperand]
  | comment text =>
      subst hfed
      exact congrArg (fun x : Lexer => { x with mode := .comment (text.push c) })
        lx.unplaced_idem.symm
  | between => exact fed.unplaced_feedBetween c position

/-- Lexers that differ in offsets only still do so after a character, wherever it stands. -/
theorem feed_congr {lx lx' : Lexer} (h : lx.unplaced = lx'.unplaced) (c : Char)
    (position position' : Nat) :
    (lx.feed c position).unplaced = (lx'.feed c position').unplaced := by
  rw [unplaced_feed, h, ← unplaced_feed]

/-! ## §6. The end of a body. -/

theorem expression_unplaced : lx.unplaced.expression = lx.expression.unplaced := by
  unfold expression
  rw [mode_unplaced]
  cases lx.mode <;> rfl

/-- What is being read at the end is ended in the same way; a literal that is open is noted in both
cases. -/
theorem unplaced_settle (position : Nat) :
    (lx.settle position).unplaced = lx.unplaced.settle 0 := by
  unfold settle
  rw [mode_unplaced]
  cases lx.mode with
  | quoted id quote escaping => exact congrArg endOperand (lx.unplaced_note _ _)
  | number id => exact lx.unplaced_endNumber id position
  | bare id => rfl
  | between | comment text => rfl

/-- Each check at the end looks at what the checks before it have left, and none of them at a
position. -/
theorem unplaced_complete (position : Nat) :
    (lx.complete position).unplaced = lx.unplaced.complete 0 := by
  -- one after the other, each on what the checks before it have left
  have hbrackets : ∀ x : Lexer, (if x.groups.isEmpty then x
        else x.note (.openAtEnd (x.groups.map Group.bracket).reverse) position).unplaced
      = if x.unplaced.groups.isEmpty then x.unplaced
        else x.unplaced.note (.openAtEnd (x.unplaced.groups.map Group.bracket).reverse) 0 := by
    intro x
    rw [groups_unplaced]
    split
    · rfl
    · exact x.unplaced_note _ _
  have hempty : ∀ x : Lexer, (if x.roots.isEmpty && x.expression.comment.isNone then
        x.note .emptyBody position else x).unplaced
      = if x.unplaced.roots.isEmpty && x.unplaced.expression.comment.isNone then
          x.unplaced.note .emptyBody 0
        else x.unplaced := by
    intro x
    rw [x.expression_unplaced, show x.expression.unplaced.comment = x.expression.comment from rfl,
      roots_unplaced]
    split
    · exact x.unplaced_note _ _
    · rfl
  unfold complete
  rw [← unplaced_settle _ position]
  generalize lx.settle position = settled
  dsimp only
  rw [pending_unplaced]
  cases settled.pending with
  | delimiter delimiter =>
      dsimp only
      rw [hempty, hbrackets, unplaced_note]
  | start | blank | adjacent =>
      dsimp only
      rw [hempty, hbrackets]

/-- **The checks at the end of a body find the same wherever it ends.** -/
theorem finish_unplaced (position : Nat) :
    lx.unplaced.finish 0 = (lx.finish position).unplaced := by
  unfold finish
  rw [← unplaced_complete, expression_unplaced]

end Lexer

end LayerTemplates
