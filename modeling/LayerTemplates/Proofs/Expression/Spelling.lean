/-
  LayerTemplates.Proofs.Expression.Spelling
  ─────────────────────────────────────────
  No operand of a body without issues is empty.

  A bare word starts with its first character.  A literal and the digits after a caret start
  with none, and an issue is noted if they end so.  All else that the lexer does to a lexeme,
  linking it to others and saying what part it plays, leaves its characters alone.

  Main statements:
    * `Arena.sameWords_of_marks` — what leaves the marks alone leaves the characters alone.
    * `Lexer.Spelled.feed` — a character leaves no empty lexeme but the one that is being read.
    * `Lexer.Spelled.finish` — a body without issues leaves none.
-/
import LayerTemplates.Proofs.Expression.Marks
import LayerTemplates.Proofs.Expression.Roots

namespace LayerTemplates

/-! ## §1. Characters of lexemes. -/

namespace Arena

/-- Both arenas have as many lexemes, with the same characters. -/
structure SameWords (a a' : Arena) : Prop where
  size : a'.size = a.size
  value : ∀ j, (a'.get j).value = (a.get j).value

variable {a a' : Arena}

theorem SameWords.refl (a : Arena) : a.SameWords a := ⟨rfl, fun _ => rfl⟩

/-- A change that leaves the characters of its lexeme alone leaves those of all lexemes alone. -/
theorem sameWords_modify (a : Arena) (id : LexemeId) {f : Lexeme → Lexeme}
    (hf : ∀ l, (f l).value = l.value) : a.SameWords (a.modify id f) :=
  ⟨size_modify a id f, fun j => comp_get_modify a id j Lexeme.value (hf _)⟩

/-- The characters are part of the marks. -/
theorem sameWords_of_marks (h : a'.marks = a.marks) : a.SameWords a' where
  size := by rw [← length_marks, h, length_marks]
  value j := by
    have hmark : (a'.get j).mark = (a.get j).mark := by rw [mark_get, mark_get, h]
    exact congrArg Mark.value hmark

/-- No lexeme is empty. -/
def Spelled (a : Arena) : Prop := ∀ id < a.size, (a.get id).value ≠ ""

end Arena

/-! ## §2. Lexers without empty operands. -/

/-- The operand that may have no character yet. -/
def Mode.unwritten? : Mode → Option LexemeId
  | .quoted id _ _ | .number id => some id
  | .between | .bare _ | .comment _ => none

namespace Lexer

open Arena

/-- Without issues no lexeme is empty but the one that is being read. -/
structure Spelled (lx : Lexer) : Prop where
  written : lx.issues = [] → ∀ id < lx.arena.size,
    (lx.arena.get id).value ≠ "" ∨ lx.mode.unwritten? = some id
  roots : ∀ id ∈ lx.roots, id < lx.arena.size

variable {lx lx' : Lexer} {id : LexemeId}

/-- Linking an operand leaves its characters alone. -/
theorem sameWords_beginOperand (lx : Lexer) (lexeme : Lexeme) (position : Nat) :
    (lx.arena.alloc lexeme).SameWords (lx.beginOperand lexeme position).arena :=
  sameWords_of_marks (marks_joinOperand { lx with arena := lx.arena.alloc lexeme } _ _)

/-- A lexer that starts adds to the lexemes of an arena. -/
theorem Spelled.start {base : Arena} (h : base.Spelled) (escape : Char) :
    Spelled { arena := base, escape } where
  written _ id hid := Or.inl (h id hid)
  roots _ hid := absurd hid (by simp)

/-- What leaves words and roots alone, and takes no issue back, leaves no empty operand. -/
theorem Spelled.congr (h : lx.Spelled) (hwords : lx.arena.SameWords lx'.arena)
    (hmode : ∀ id, lx.mode.unwritten? = some id →
      lx'.issues = [] → lx'.mode.unwritten? = some id ∨ (lx.arena.get id).value ≠ "")
    (hissues : lx.issues <+: lx'.issues) (hroots : lx'.roots = lx.roots) : lx'.Spelled where
  written hclean j hj := by
    have hnone : lx.issues = [] := List.prefix_nil.1 (hclean ▸ hissues)
    rw [hwords.size] at hj
    rw [hwords.value]
    rcases h.written hnone j hj with hwritten | hreading
    · exact Or.inl hwritten
    · exact (hmode j hreading hclean).symm
  roots j hj := by
    rw [hwords.size]
    rw [hroots] at hj
    exact h.roots j hj

/-- A character that is added is one at least. -/
theorem Spelled.pushChar (h : lx.Spelled) (id : LexemeId) (c : Char) (position : Nat) (mode : Mode)
    (hmode : ∀ j, lx.mode.unwritten? = some j → j = id ∨ mode.unwritten? = some j) :
    Spelled { lx.pushChar id c position with mode } where
  written hclean j hj := by
    replace hj : j < lx.arena.size := by
      rwa [show ({ lx.pushChar id c position with mode } : Lexer).arena.size = lx.arena.size from
        size_modify _ _ _] at hj
    by_cases hid : j = id
    · left
      show ((lx.arena.modify id _).get j).value ≠ ""
      rw [hid] at hj ⊢
      rw [get_modify_self _ _ hj]
      exact fun hempty => absurd (congrArg String.length hempty) (by simp)
    · show ((lx.arena.modify id _).get j).value ≠ "" ∨ _
      rw [get_modify_of_ne _ _ hid]
      exact (h.written hclean j hj).imp_right fun hreading =>
        (hmode j hreading).resolve_left hid
  roots j hj := by
    show j < (lx.arena.modify id _).size
    rw [size_modify]
    exact h.roots j hj

/-- A new operand is the only one that may have no character. -/
theorem Spelled.beginOperand (h : lx.Spelled) (hmode : lx.mode.unwritten? = none)
    (lexeme : Lexeme) (position : Nat) (mode : Mode)
    (hnew : mode.unwritten? = some lx.arena.size) :
    Spelled { lx.beginOperand lexeme position with mode } where
  written hclean j hj := by
    have hwords := lx.sameWords_beginOperand lexeme position
    have hnone : lx.issues = [] :=
      List.prefix_nil.1 (hclean ▸ lx.issues_beginOperand lexeme position)
    replace hj : j < lx.arena.size + 1 := by
      have hsize := hwords.size
      rw [size_alloc] at hsize
      rwa [← hsize]
    show ((lx.beginOperand lexeme position).arena.get j).value ≠ "" ∨ _
    have hvalue : ((lx.beginOperand lexeme position).arena.get j).value
        = ((lx.arena.alloc lexeme).get j).value := hwords.value j
    rw [hvalue, get_alloc]
    -- the new operand is empty as yet, but it is the one that is being read
    by_cases hlast : j = lx.arena.size
    · right
      rw [hlast]
      exact hnew
    · rw [if_neg hlast]
      rcases h.written hnone j (by omega) with hwritten | hreading
      · exact Or.inl hwritten
      · rw [hmode] at hreading
        exact absurd hreading (by simp)
  roots j hj := by
    have hwords := lx.sameWords_beginOperand lexeme position
    have hsize : (lx.beginOperand lexeme position).arena.size = lx.arena.size + 1 :=
      hwords.size.trans (size_alloc _ _)
    show j < (lx.beginOperand lexeme position).arena.size
    rw [hsize]
    have hroots := roots_joinOperand { lx with arena := lx.arena.alloc lexeme } lx.arena.size
      position
    replace hj : j ∈ lx.roots ∨ j = lx.arena.size := by
      rcases hroots with hsame | hmore
      · exact Or.inl (hsame ▸ hj)
      · simpa using (show j ∈ lx.roots ++ [lx.arena.size] from hmore ▸ hj)
    rcases hj with hold | rfl
    · exact Nat.lt_succ_of_lt (h.roots j hold)
    · exact Nat.lt_succ_self _

/-- A new operand that gets its first character at once. -/
theorem Spelled.beginWord (h : lx.Spelled) (hmode : lx.mode.unwritten? = none) (lexeme : Lexeme)
    (c : Char) (position : Nat) (mode : Mode) :
    Spelled { (lx.beginOperand lexeme position).pushChar lx.arena.size c position with mode } := by
  -- as if the operand had been a number in between
  have hbegun := h.beginOperand hmode lexeme position (.number lx.arena.size) rfl
  have hpushed := hbegun.pushChar lx.arena.size c position mode fun j hj =>
    Or.inl (Option.some.inj hj).symm
  exact ⟨hpushed.written, hpushed.roots⟩

/-! ## §3. Delimiters. -/

/-- Delimiters link and note, and no operand gets or loses a character by that. -/
theorem Spelled.delimit (h : lx.Spelled) (hmode : lx.mode.unwritten? = none)
    (delimiter : Delimiter) (position : Nat) : (lx.delimit delimiter position).Spelled := by
  have hreading : ∀ id, lx.mode.unwritten? = some id → ∀ P : Prop, P := by
    intro id hid
    rw [hmode] at hid
    exact absurd hid (by simp)
  exact h.congr (sameWords_of_marks (lx.marks_delimit delimiter position))
    (fun id hid _ => hreading id hid _) (lx.issues_delimit delimiter position)
    (lx.roots_delimit delimiter position)

theorem Spelled.comma (h : lx.Spelled) (hmode : lx.mode.unwritten? = none) (position : Nat) :
    (lx.comma position).Spelled := by
  refine h.congr (sameWords_of_marks (lx.marks_comma position)) (fun id hid => ?_)
    (lx.issues_comma position) (lx.roots_comma position)
  rw [hmode] at hid
  exact absurd hid (by simp)

/-- A closing bracket does not touch the arena, whatever it notes. -/
theorem Spelled.closeBracket (h : lx.Spelled) (hmode : lx.mode.unwritten? = none)
    (closer : Bracket) (position : Nat) : (lx.closeBracket closer position).Spelled := by
  refine h.congr (sameWords_of_marks (lx.marks_closeBracket closer position)) (fun id hid => ?_)
    (lx.issues_closeBracket closer position) (lx.roots_closeBracket closer position)
  rw [hmode] at hid
  exact absurd hid (by simp)

/-! ## §4. Characters. -/

/-- What only says what is read next, or what stands before it. -/
theorem Spelled.turn (h : lx.Spelled) (mode : Mode) (pending : Pending)
    (hmode : ∀ id, lx.mode.unwritten? = some id → mode.unwritten? = some id) :
    Spelled { lx with mode, pending } :=
  h.congr (.refl _) (fun id hid _ => Or.inl (hmode id hid)) List.prefix_rfl rfl

/-- An operand that has a character already may end. -/
theorem Spelled.endOperand (h : lx.Spelled) (hmode : lx.mode.unwritten? = none) :
    lx.endOperand.Spelled :=
  h.turn _ _ fun id hid => by
    rw [hmode] at hid
    exact absurd hid (by simp)

theorem mode_endNumber (lx : Lexer) (id : LexemeId) (position : Nat) :
    (lx.endNumber id position).mode = .between := by
  unfold Lexer.endNumber
  split <;> rfl

/-- A caret that ends without digits is noted, so a body without issues has none. -/
theorem Spelled.endNumber (h : lx.Spelled) (hmode : lx.mode = .number id) (position : Nat) :
    (lx.endNumber id position).Spelled := by
  unfold Lexer.endNumber
  split
  · -- the issue is there now, so nothing is promised
    exact ⟨fun hclean => absurd hclean (lx.note_ne_nil _ _), h.roots⟩
  · next hfilled =>
      refine h.congr (.refl _) (fun j hj _ => Or.inr ?_) List.prefix_rfl rfl
      rw [hmode] at hj
      obtain rfl := Option.some.inj hj
      exact fun hempty => hfilled (by rw [hempty]; rfl)

/-- A literal gets a character, or its end is noted if it has none. -/
theorem Spelled.feedQuoted (h : lx.Spelled) {quote : Char} {escaping : Bool}
    (hmode : lx.mode = .quoted id quote escaping) (c : Char) (position : Nat) :
    (lx.feedQuoted id quote escaping c position).Spelled := by
  -- the literal is the only operand that may be empty
  have hreading : ∀ j, lx.mode.unwritten? = some j → j = id := by
    intro j hj
    rw [hmode] at hj
    exact (Option.some.inj hj).symm
  have hwords : ∀ f : Lexeme → Lexeme,
      (∀ l, f l = { l with span := (f l).span, form := (f l).form }) →
        lx.arena.SameWords (lx.arena.modify id f) := by
    intro f hf
    exact sameWords_modify _ _ fun l => (congrArg Lexeme.value (hf l) :)
  apply lx.feedQuoted_cases (motive := Spelled)
  case escaped => exact h.pushChar id c position _ fun j hj => Or.inl (hreading j hj)
  case escape =>
    refine h.turn (.quoted id quote true) lx.pending fun j hj => ?_
    rw [hreading j hj]
    rfl
  case empty =>
    -- the issue is there now, so nothing is promised
    intro f hf
    refine ⟨fun hclean => absurd hclean (note_ne_nil _ _ _), fun j hj => ?_⟩
    show j < (lx.arena.modify id f).size
    rw [(hwords f hf).size]
    exact h.roots j hj
  case closed =>
    intro f hf hfilled
    refine h.congr (hwords f hf) (fun j hj _ => Or.inr ?_) List.prefix_rfl rfl
    rw [hreading j hj, ← (hwords f hf).value]
    intro hempty
    rw [hempty] at hfilled
    exact absurd hfilled (by decide)
  case pushed =>
    have hpushed := h.pushChar id c position lx.mode fun j hj => Or.inr hj
    exact ⟨hpushed.written, hpushed.roots⟩

theorem Spelled.operatorSign (h : lx.Spelled) (hmode : lx.mode.unwritten? = none) (c : Char)
    (position : Nat) : (lx.operatorSign c position).Spelled := by
  have hsign := h.beginWord hmode (.startingAt .plain position) c position .between
  exact ⟨hsign.written, hsign.roots⟩

/-- A word is started with a character; a literal and a number are started without one, and are then
being read. -/
theorem Spelled.feedBetween (h : lx.Spelled) (hmode : lx.mode.unwritten? = none) (c : Char)
    (position : Nat) : (lx.feedBetween c position).Spelled := by
  have hturn : ∀ {other : Lexer} (mode : Mode) (pending : Pending), other.Spelled →
      other.mode.unwritten? = none → Spelled { other with mode, pending } := by
    intro other mode pending hother hnone
    refine hother.turn mode pending fun id hid => ?_
    rw [hnone] at hid
    exact absurd hid (by simp)
  apply lx.feedBetween_cases (motive := Spelled)
  case same => exact h
  case spaced => exact fun _ => hturn lx.mode .blank h hmode
  case sign => exact h.operatorSign hmode c position
  case signed => exact fun _ => hturn (.comment "") _ (h.operatorSign hmode c position) rfl
  case remark => exact fun _ => hturn (.comment "") _ h hmode
  case delimited => exact fun _ => h.delimit hmode _ position
  case separated => exact h.comma hmode position
  case closed => exact fun _ => h.closeBracket hmode _ position
  case opened =>
    rintro lexeme mode - (rfl | rfl)
    · exact h.beginOperand hmode _ position _ rfl
    · exact h.beginOperand hmode _ position _ rfl
  case word => exact h.beginWord hmode _ c position _

/-- **A character leaves no empty operand** but the one that is being read. -/
theorem Spelled.feed (h : lx.Spelled) (c : Char) (position : Nat) :
    (lx.feed c position).Spelled := by
  generalize hkept : ({ lx with lastPosition := position } : Lexer) = fed
  have hfed : fed.Spelled := hkept ▸ ⟨h.written, h.roots⟩
  apply lx.feed_cases (motive := Spelled) c position hkept
  case quoted => exact fun _ _ _ hmode => hfed.feedQuoted hmode c position
  case pushed =>
    intro id _
    have hpushed := hfed.pushChar id c position fed.mode fun j hj => Or.inr hj
    exact ⟨hpushed.written, hpushed.roots⟩
  case numbered =>
    intro id hmode
    refine (hfed.endNumber hmode position).feedBetween ?_ c position
    rw [mode_endNumber]
    rfl
  case named =>
    intro id hmode
    exact (hfed.endOperand (by rw [hmode]; rfl)).feedBetween rfl c position
  case remark =>
    intro text hmode
    refine hfed.turn (.comment (text.push c)) fed.pending fun j hj => ?_
    rw [hmode] at hj
    exact absurd hj (by simp [Mode.unwritten?])
  case between => exact fun hmode => hfed.feedBetween (by rw [hmode]; rfl) c position

/-- By induction on the characters, from any lexer whose lexemes are spelled. -/
theorem spelled_feedAll (chars : List Char) :
    ∀ (lx : Lexer) (position : Nat), lx.Spelled → (lx.feedAll position chars).Spelled :=
  feedAll_keeps (fun _ c position h => h.feed c position) chars

/-! ## §5. The end of a body. -/

theorem arena_settle (lx : Lexer) (position : Nat) : (lx.settle position).arena = lx.arena := by
  unfold settle endNumber
  repeat' split
  all_goals rfl

/-- **A body without issues leaves no empty lexeme.** -/
theorem Spelled.finish (h : lx.Spelled) {position : Nat}
    (hclean : (lx.finish position).issues = []) : lx.arena.Spelled := by
  intro j hj
  -- at the end nothing is being read, so no operand is left that may be empty
  have hsettled : (lx.settle position).Spelled ∧ (lx.settle position).mode.unwritten? = none := by
    unfold settle
    cases hmode : lx.mode with
    | quoted id quote escaping =>
        exact ⟨⟨fun hnil => absurd hnil (lx.note_ne_nil _ _), h.roots⟩, rfl⟩
    | number id =>
        refine ⟨h.endNumber hmode position, ?_⟩
        dsimp only
        rw [mode_endNumber]
        rfl
    | bare id => exact ⟨h.endOperand (by rw [hmode]; rfl), rfl⟩
    | between | comment _ =>
        refine ⟨h, ?_⟩
        dsimp only
        rw [hmode]
        rfl
  have hwritten := hsettled.1.written ((lx.issues_finish_eq_nil_iff position).1 hclean).1 j
    (by rw [arena_settle]; exact hj)
  rw [arena_settle, hsettled.2] at hwritten
  exact hwritten.resolve_right (by simp)

end Lexer

end LayerTemplates
