/-
  LayerTemplates.Proofs.Expression.Locality
  ─────────────────────────────────────────
  The lexer of a placeholder leaves alone what the arena held before.

  One arena serves a whole layer: the lexemes of the literal text and of the placeholders
  read so far stay in it while the next placeholder is read.  The lexer links only operands
  that it allocated itself, in a faulty body as well as in a right one: whatever it holds on
  to, the operand it reads, its anchors and the owners of its brackets, was allocated since it
  started, and so was everything that child links lead to from there.

  Main statements:
    * `Arena.Beside.deepest` — child links do not lead back to the lexemes of before.
    * `Lexer.Beside.feed` — a character is read beside what was there before.
    * `Lexer.extends_feedAll` — a body leaves all earlier lexemes as they were.
-/
import LayerTemplates.Proofs.Expression.Steps

namespace LayerTemplates

/-! ## §1. Arenas that grow. -/

/-- A group changes the kind of a lexeme and leaves its links alone. -/
theorem Lexeme.child_grouped (kind : LexemeKind) (l : Lexeme) :
    (l.grouped kind).child = l.child := by
  unfold Lexeme.grouped
  split <;> rfl

namespace Arena

/-- All lexemes of one arena stand unchanged in another one. -/
structure Extends (base a : Arena) : Prop where
  size_le : base.size ≤ a.size
  get_eq : ∀ j < base.size, a.get j = base.get j

/-- Beyond that, no child link of a new lexeme leads to an old one. -/
structure Beside (base a : Arena) : Prop extends Extends base a where
  apart : ∀ j, base.size ≤ j → ∀ child, (a.get j).child = some child → base.size ≤ child

variable {base a a' : Arena} {id prev next parent child : LexemeId}

theorem Extends.refl (a : Arena) : a.Extends a := ⟨Nat.le_refl _, fun _ _ => rfl⟩

/-- An arena that grows twice has grown, and keeps the first lexemes throughout. -/
theorem Extends.trans (h : base.Extends a) (h' : a.Extends a') : base.Extends a' where
  size_le := Nat.le_trans h.size_le h'.size_le
  get_eq j hj := (h'.get_eq j (Nat.lt_of_lt_of_le hj h.size_le)).trans (h.get_eq j hj)

/-- A new lexeme gets the next index, so it takes nobody's place. -/
theorem extends_alloc (a : Arena) (l : Lexeme) : a.Extends (a.alloc l) where
  size_le := by
    rw [size_alloc]
    exact Nat.le_succ _
  get_eq j hj := by rw [get_alloc, if_neg (Nat.ne_of_lt hj)]

/-- Outside the arena there is the default lexeme, which has no links. -/
theorem get_of_size_le (h : a.size ≤ id) : a.get id = {} := by
  have hout : a.lexemes.size ≤ id := h
  simp [get, hout]

/-- At first there is nothing new. -/
theorem Beside.refl (a : Arena) : a.Beside a where
  toExtends := Extends.refl a
  apart j hj child hchild := by
    rw [get_of_size_le hj] at hchild
    exact absurd hchild (by simp)

/-- An operand that starts has no child yet, so there is no link that could lead back. -/
theorem Beside.alloc (h : base.Beside a) {l : Lexeme} (hl : l.child = none) :
    base.Beside (a.alloc l) where
  toExtends := h.toExtends.trans (extends_alloc a l)
  apart j hj child hchild := by
    rw [get_alloc] at hchild
    split at hchild
    · rw [hl] at hchild
      exact absurd hchild (by simp)
    · exact h.apart j hj child hchild

/-- A new lexeme may change, if its child link leads to a new one afterwards. -/
theorem Beside.modify (h : base.Beside a) (hid : base.size ≤ id) {f : Lexeme → Lexeme}
    (hf : ∀ l child, (f l).child = some child → l.child = some child ∨ base.size ≤ child) :
    base.Beside (a.modify id f) where
  size_le := by
    rw [size_modify]
    exact h.size_le
  get_eq j hj := by
    rw [get_modify_of_ne a f (Nat.ne_of_lt (Nat.lt_of_lt_of_le hj hid))]
    exact h.get_eq j hj
  apart j hj child hchild := by
    by_cases hne : j = id
    · subst hne
      by_cases hinside : j < a.size
      · rw [get_modify_self a f hinside] at hchild
        rcases hf _ child hchild with hsame | hnew
        · exact h.apart j hj child hsame
        · exact hnew
      · -- outside of the arena there is nothing to change
        rw [get_of_size_le (by rw [size_modify]; exact Nat.le_of_not_lt hinside)] at hchild
        exact absurd hchild (by simp)
    · rw [get_modify_of_ne a f hne] at hchild
      exact h.apart j hj child hchild

/-- Most changes leave child links alone, and any new lexeme may change in that way. -/
theorem Beside.modify_of_child_eq (h : base.Beside a) (hid : base.size ≤ id)
    {f : Lexeme → Lexeme} (hf : ∀ l, (f l).child = l.child) : base.Beside (a.modify id f) :=
  h.modify hid fun l _ hchild => Or.inl ((hf l).symm.trans hchild)

theorem Beside.grouped (h : base.Beside a) (hid : base.size ≤ id) (kind : LexemeKind) :
    base.Beside (a.modify id (Lexeme.grouped kind)) :=
  h.modify_of_child_eq hid (Lexeme.child_grouped kind)

/-- Sibling links may be set freely between new lexemes, for only child links count. -/
theorem Beside.attachNext (h : base.Beside a) (hprev : base.size ≤ prev)
    (hnext : base.size ≤ next) : base.Beside (a.attachNext prev next) := by
  unfold Arena.attachNext
  dsimp only
  refine Beside.modify_of_child_eq (Beside.modify_of_child_eq h hprev ?_) hnext ?_ <;>
    exact fun _ => rfl

/-- The one link that counts is set here: it leads from a new lexeme to a new one. -/
theorem Beside.attachChild (h : base.Beside a) (hparent : base.size ≤ parent)
    (hchild : base.size ≤ child) : base.Beside (a.attachChild parent child) := by
  unfold Arena.attachChild
  refine Beside.modify_of_child_eq (h.modify hparent ?_) hchild ?_
  · intro l other hother
    obtain rfl := Option.some.inj hother
    exact Or.inr hchild
  · exact fun _ => rfl

/-- An argument hangs on its function by another link than the steps of a path. -/
theorem Beside.attachFirstArg (h : base.Beside a) {function arg : LexemeId}
    (hfunction : base.size ≤ function) (harg : base.size ≤ arg) :
    base.Beside (a.attachFirstArg function arg) := by
  unfold Arena.attachFirstArg
  refine Beside.modify_of_child_eq (Beside.modify_of_child_eq h hfunction ?_) harg ?_
  · exact fun _ => rfl
  · intro l
    exact Lexeme.child_grouped .argument { l with parent := some function, role := .firstArg }

/-- **Child links do not lead back** to the lexemes of before. -/
theorem Beside.chain (h : base.Beside a) (fuel : Nat) :
    ∀ id, base.size ≤ id → ∀ j ∈ a.chain Lexeme.child fuel id, base.size ≤ j := by
  induction fuel with
  | zero =>
      intro id hid j hj
      obtain rfl : j = id := by simpa [Arena.chain] using hj
      exact hid
  | succ fuel ih =>
      intro id hid j hj
      unfold Arena.chain at hj
      cases hchild : (a.get id).child with
      | none =>
          rw [hchild] at hj
          obtain rfl : j = id := by simpa using hj
          exact hid
      | some following =>
          rw [hchild] at hj
          rcases List.mem_cons.1 hj with rfl | hj
          · exact hid
          · exact ih following (h.apart id hid following hchild) j hj

/-- The end of a path that starts with a new lexeme is new itself, so what is appended there is
appended to nothing old. -/
theorem Beside.deepest (h : base.Beside a) (hid : base.size ≤ id) :
    base.size ≤ a.deepest id := by
  unfold Arena.deepest
  cases hchain : a.chain Lexeme.child a.size id with
  | nil => exact hid
  | cons first rest =>
      refine h.chain a.size id hid _ ?_
      rw [hchain, List.getLastD_cons]
      exact List.getLastD_mem_cons

end Arena

/-! ## §2. The lexer beside an arena. -/

/-- The operand that is being read. -/
def Mode.operand? : Mode → Option LexemeId
  | .bare id | .quoted id _ _ | .number id => some id
  | .between | .comment _ => none

/-- What a bracket knows was allocated after what the arena held before. -/
structure Group.Beside (base : Arena) (group : Group) : Prop where
  owner : base.size ≤ group.owner
  last : ∀ id, group.last = some id → base.size ≤ id

namespace Lexer

/-- What the lexer holds on to was allocated after what the arena held before. -/
structure Beside (base : Arena) (lx : Lexer) : Prop where
  arena : base.Beside lx.arena
  reading : ∀ id, lx.mode.operand? = some id → base.size ≤ id
  last : ∀ id, lx.last = some id → base.size ≤ id
  groups : ∀ group ∈ lx.groups, group.Beside base

namespace Beside

variable {base : Arena} {lx : Lexer} {id : LexemeId}

/-- A lexer that starts has nothing. -/
theorem start (base : Arena) (escape : Char) : Beside base { arena := base, escape } where
  arena := .refl base
  reading _ hid := absurd hid (by simp [Mode.operand?])
  last _ hid := absurd hid (by simp)
  groups _ hgroup := absurd hgroup (by simp)

theorem note (h : Beside base lx) (cause : Cause) (position : Nat) :
    Beside base (lx.note cause position) := ⟨h.arena, h.reading, h.last, h.groups⟩

/-- What changes in the arena alone has to be justified for the arena alone. -/
theorem linked (h : Beside base lx) {a : Arena} (ha : base.Beside a) :
    Beside base { lx with arena := a } := ⟨ha, h.reading, h.last, h.groups⟩

theorem endOperand (h : Beside base lx) : Beside base lx.endOperand where
  arena := h.arena
  reading _ hid := absurd hid (by simp [Lexer.endOperand, Mode.operand?])
  last := h.last
  groups := h.groups

/-- A comment has no operand. -/
theorem remark (h : Beside base lx) (text : String) :
    Beside base { lx with mode := .comment text } :=
  ⟨h.arena, fun _ hid => absurd hid (by simp [Mode.operand?]), h.last, h.groups⟩

/-- The anchor, outside brackets or in the innermost one, is among what the lexer holds on to. -/
theorem anchor (h : Beside base lx) (hid : lx.anchor = some id) : base.size ≤ id := by
  unfold Lexer.anchor at hid
  split at hid
  · exact h.last id hid
  · next group outer hgroups =>
      exact (h.groups group (by rw [hgroups]; exact List.mem_cons_self)).last id hid

/-- A new lexeme may become the anchor, be it that of a bracket or that of the body. -/
theorem setAnchor (h : Beside base lx) (hid : base.size ≤ id) : Beside base (lx.setAnchor id) := by
  have hlast : ∀ other, some id = some other → base.size ≤ other := by
    intro other hother
    obtain rfl := Option.some.inj hother
    exact hid
  unfold Lexer.setAnchor
  split
  · exact ⟨h.arena, h.reading, hlast, h.groups⟩
  · next group outer hgroups =>
      have hheld := h.groups
      rw [hgroups] at hheld
      refine ⟨h.arena, h.reading, h.last, fun other hother => ?_⟩
      rcases List.mem_cons.1 hother with rfl | hother
      · exact ⟨(hheld group List.mem_cons_self).owner, hlast⟩
      · exact hheld other (List.mem_cons_of_mem _ hother)

/-! ## §3. Operands. -/

theorem pushChar (h : Beside base lx) (hid : base.size ≤ id) (c : Char) (position : Nat) :
    Beside base (lx.pushChar id c position) :=
  h.linked (h.arena.modify_of_child_eq hid fun _ => rfl)

theorem endNumber (h : Beside base lx) (id : LexemeId) (position : Nat) :
    Beside base (lx.endNumber id position) := by
  unfold Lexer.endNumber
  split
  · exact (h.note _ _).endOperand
  · exact h.endOperand

/-- The anchor before the new operand is new as well, so their link joins two new lexemes. -/
theorem joinSibling (h : Beside base lx) (hid : base.size ≤ id) :
    Beside base (lx.joinSibling id) := by
  unfold Lexer.joinSibling
  dsimp only
  cases hprev : lx.anchor with
  | none =>
      dsimp only
      split
      · exact setAnchor ⟨h.arena, h.reading, h.last, h.groups⟩ hid
      · exact (h.linked (h.arena.grouped hid _)).setAnchor hid
  | some prev =>
      have hnext := h.arena.attachNext (h.anchor hprev) hid
      dsimp only
      split
      · exact setAnchor ⟨hnext, h.reading, h.last, h.groups⟩ hid
      · exact (h.linked (hnext.grouped hid _)).setAnchor hid

/-- Whatever stands before the operand, a link leads to it from an anchor or from the owner of a
bracket, and those are new. -/
theorem joinOperand (h : Beside base lx) (hid : base.size ≤ id) (position : Nat) :
    Beside base (lx.joinOperand id position) := by
  unfold Lexer.joinOperand
  split
  · exact setAnchor ⟨h.arena, h.reading, h.last, h.groups⟩ hid
  · exact (h.note _ _).joinSibling hid
  · split
    · exact h.joinSibling hid
    · exact (h.note _ _).joinSibling hid
  · split
    · next anchor hanchor =>
        exact h.linked (h.arena.attachChild (h.arena.deepest (h.anchor hanchor)) hid)
    · exact h
  · exact h.joinSibling hid
  · split
    · exact h.setAnchor hid
    · next group outer hgroups =>
        have howner := (h.groups group (by rw [hgroups]; exact List.mem_cons_self)).owner
        exact (h.linked ((h.arena.attachChild howner hid).grouped hid _)).setAnchor hid
  · split
    · exact h.setAnchor hid
    · next group outer hgroups =>
        have howner := (h.groups group (by rw [hgroups]; exact List.mem_cons_self)).owner
        exact (h.linked (h.arena.attachFirstArg howner hid)).setAnchor hid

/-- A new operand is allocated behind everything that was there before, and only then linked. -/
theorem beginOperand (h : Beside base lx) {lexeme : Lexeme} (hlexeme : lexeme.child = none)
    (position : Nat) : Beside base (lx.beginOperand lexeme position) :=
  (h.linked (h.arena.alloc hlexeme)).joinOperand h.arena.size_le position

theorem operatorSign (h : Beside base lx) (c : Char) (position : Nat) :
    Beside base (lx.operatorSign c position) := by
  have hsign : Beside base (lx.beginOperand (.startingAt .plain position) position) :=
    h.beginOperand rfl position
  have hended := (hsign.pushChar h.arena.size_le c position).endOperand
  exact ⟨hended.arena, hended.reading, hended.last, hended.groups⟩

/-! ## §4. Delimiters. -/

/-- The owner of the new bracket ends the path of the anchor, so it is new. -/
theorem openBracket (h : Beside base lx) (bracket : Bracket) (hid : base.size ≤ id)
    (position : Nat) : Beside base (lx.openBracket bracket id position) := by
  have howner := h.arena.deepest hid
  have hopen : ∀ group ∈ ({ bracket, owner := lx.arena.deepest id } : Group) :: lx.groups,
      group.Beside base := by
    intro group hgroup
    rcases List.mem_cons.1 hgroup with rfl | hgroup
    · exact ⟨howner, fun _ hlast => absurd hlast (by simp)⟩
    · exact h.groups group hgroup
  cases bracket with
  | square => exact ⟨h.arena, h.reading, h.last, hopen⟩
  | round =>
      unfold Lexer.openBracket
      dsimp only
      split
      all_goals
        exact ⟨h.arena.modify_of_child_eq howner fun _ => rfl, h.reading, h.last, hopen⟩

/-- A dot or an opening bracket belongs to the anchor; where it is out of place, only an issue is
added. -/
theorem delimit (h : Beside base lx) (delimiter : Delimiter) (position : Nat) :
    Beside base (lx.delimit delimiter position) := by
  unfold Lexer.delimit
  split
  · exact h.note _ _
  · exact h.note _ _
  all_goals
    split
    · exact h.note _ _
    · next anchor hanchor =>
        split
        · exact h.note _ _
        · cases delimiter with
          | opening bracket =>
              have hopened := h.openBracket bracket (h.anchor hanchor) position
              exact ⟨hopened.arena, hopened.reading, hopened.last, hopened.groups⟩
          | dot | comma => exact ⟨h.arena, h.reading, h.last, h.groups⟩

theorem comma (h : Beside base lx) (position : Nat) : Beside base (lx.comma position) := by
  unfold Lexer.comma
  repeat' split
  all_goals exact ⟨h.arena, h.reading, h.last, h.groups⟩

theorem noteDoubled (h : Beside base lx) (closer : Bracket) (position : Nat) :
    Beside base (lx.noteDoubled closer position) := by
  unfold Lexer.noteDoubled
  repeat' split
  all_goals exact ⟨h.arena, h.reading, h.last, h.groups⟩

/-- Closing a bracket forgets it, also where it is the wrong one; the others are held as before. -/
theorem closeBracket (h : Beside base lx) (closer : Bracket) (position : Nat) :
    Beside base (lx.closeBracket closer position) := by
  have hdoubled := h.noteDoubled closer position
  unfold Lexer.closeBracket
  split
  · exact ⟨hdoubled.arena, hdoubled.reading, hdoubled.last, hdoubled.groups⟩
  · next group outer hgroups =>
      have houter : ∀ other ∈ outer, other.Beside base := fun other hother =>
        h.groups other (by rw [hgroups]; exact List.mem_cons_of_mem _ hother)
      dsimp only
      split <;> exact ⟨hdoubled.arena, hdoubled.reading, hdoubled.last, houter⟩

/-! ## §5. Characters. -/

/-- Inside a literal only its own operand changes, which was allocated when the quote was read. -/
theorem feedQuoted (h : Beside base lx) (hid : base.size ≤ id) (quote : Char) (escaping : Bool)
    (c : Char) (position : Nat) : Beside base (lx.feedQuoted id quote escaping c position) := by
  have hpushed := h.pushChar hid c position
  have hreading : ∀ other, (Mode.quoted id quote true).operand? = some other →
      base.size ≤ other := by
    intro other hother
    obtain rfl := Option.some.inj hother
    exact hid
  have hclosed : ∀ f : Lexeme → Lexeme,
      (∀ l, f l = { l with span := (f l).span, form := (f l).form }) →
        Beside base { lx with arena := lx.arena.modify id f } := by
    intro f hf
    exact h.linked (h.arena.modify_of_child_eq hid fun l => (congrArg Lexeme.child (hf l) :))
  apply lx.feedQuoted_cases (motive := Beside base)
  case escaped => exact ⟨hpushed.arena, hreading, hpushed.last, hpushed.groups⟩
  case escape => exact ⟨h.arena, hreading, h.last, h.groups⟩
  case empty => exact fun f hf => ((hclosed f hf).note _ _).endOperand
  case closed => exact fun f hf _ => (hclosed f hf).endOperand
  case pushed => exact hpushed

/-- A character outside operands may start an operand, and then it is this newest one that the lexer
goes on to read. -/
theorem feedBetween (h : Beside base lx) (c : Char) (position : Nat) :
    Beside base (lx.feedBetween c position) := by
  -- an operand that is started here is the newest lexeme of all
  have hnewest : ∀ {other : Lexer} {mode : Mode}, Beside base other →
      mode.operand? = some lx.arena.size → Beside base { other with mode } := by
    intro other mode hother hmode
    refine ⟨hother.arena, fun id hid => ?_, hother.last, hother.groups⟩
    obtain rfl := Option.some.inj (hmode.symm.trans hid)
    exact h.arena.size_le
  apply lx.feedBetween_cases (motive := Beside base)
  case same => exact h
  case spaced => exact fun _ => ⟨h.arena, h.reading, h.last, h.groups⟩
  case sign => exact h.operatorSign c position
  case signed => exact fun _ => (h.operatorSign c position).remark ""
  case remark => exact fun _ => h.remark ""
  case delimited => exact fun _ => h.delimit _ position
  case separated => exact h.comma position
  case closed => exact fun _ => h.closeBracket _ position
  case opened =>
    rintro lexeme mode hlexeme (rfl | rfl)
    · exact hnewest (h.beginOperand hlexeme.child position) rfl
    · exact hnewest (h.beginOperand hlexeme.child position) rfl
  case word =>
    have hstarted : Beside base (lx.beginOperand (.startingAt .plain position) position) :=
      h.beginOperand rfl position
    exact hnewest (hstarted.pushChar h.arena.size_le c position) rfl

/-- **A character is read beside what was there before.** -/
theorem feed (h : Beside base lx) (c : Char) (position : Nat) :
    Beside base (lx.feed c position) := by
  generalize hkept : ({ lx with lastPosition := position } : Lexer) = fed
  have hfed : Beside base fed := hkept ▸ ⟨h.arena, h.reading, h.last, h.groups⟩
  have hreading := hfed.reading
  apply lx.feed_cases (motive := Beside base) c position hkept
  case quoted =>
    intro id quote escaping hmode
    rw [hmode] at hreading
    exact hfed.feedQuoted (hreading id rfl) _ _ _ _
  case pushed =>
    rintro id (hmode | hmode)
    all_goals
      rw [hmode] at hreading
      exact hfed.pushChar (hreading id rfl) _ _
  case numbered => exact fun id _ => (hfed.endNumber id position).feedBetween c position
  case named => exact fun _ _ => hfed.endOperand.feedBetween c position
  case remark => exact fun text _ => hfed.remark (text.push c)
  case between => exact fun _ => hfed.feedBetween c position

end Beside

/-- By induction on the characters, each of which is read beside what was there. -/
theorem beside_feedAll (base : Arena) (chars : List Char) :
    ∀ (lx : Lexer) (position : Nat), Beside base lx → Beside base (lx.feedAll position chars) :=
  feedAll_keeps (fun _ c position h => h.feed c position) chars

/-- **A body leaves all earlier lexemes as they were.** -/
theorem extends_feedAll (base : Arena) (escape : Char) (position : Nat) (chars : List Char) :
    base.Extends (feedAll { arena := base, escape } position chars).arena :=
  (beside_feedAll base chars _ position (Beside.start base escape)).arena.toExtends

end Lexer

end LayerTemplates
