/-
  LayerTemplates.Proofs.Expression.Forward
  ────────────────────────────────────────
  Child links lead to newer lexemes, in a faulty body as well as in a right one.

  A lexeme becomes the next step of a path when it is allocated, so it is newer than whatever
  it is linked to.  The lexer holds on to lexemes of the arena only, and no child link leads
  beyond them.  So following child links comes to an end by itself: more steps than there are
  lexemes lead nowhere else.

  Main statements:
    * `Arena.Forward.getLastD_chain` — enough steps are as good as more.
    * `Lexer.Forward.feed` — a character keeps links and lexer inside the arena.
-/
import LayerTemplates.Proofs.Expression.Spelling
import LayerTemplates.Proofs.Expression.Locality

namespace LayerTemplates

/-! ## §1. Arenas. -/

namespace Arena

/-- Child links lead to newer lexemes, all of them in front of an index. -/
def Forward (a : Arena) (bound : Nat) : Prop :=
  ∀ j child : Nat, (a.get j).child = some child → j < child ∧ child < bound

variable {a : Arena} {bound : Nat} {id : LexemeId}

/-- An empty arena has no links. -/
theorem forward_empty : Forward {} 0 := by
  intro j child hchild
  rw [get_of_size_le (Nat.zero_le j)] at hchild
  exact absurd hchild (by simp)

/-- A bound may be raised: links to what stands in front of it stay in front of it. -/
theorem Forward.mono {more : Nat} (h : a.Forward bound) (hle : bound ≤ more) : a.Forward more :=
  fun j child hchild => ⟨(h j child hchild).1, Nat.lt_of_lt_of_le (h j child hchild).2 hle⟩

/-- An operand that starts has no child, so it adds no link. -/
theorem Forward.alloc (h : a.Forward bound) {l : Lexeme} (hl : l.child = none) :
    (a.alloc l).Forward bound := by
  intro j child hchild
  rw [get_alloc] at hchild
  split at hchild
  · rw [hl] at hchild
    exact absurd hchild (by simp)
  · exact h j child hchild

/-- A change that leaves child links alone may be made anywhere, inside the arena or not. -/
theorem Forward.modify (h : a.Forward bound) (id : LexemeId) {f : Lexeme → Lexeme}
    (hf : ∀ l, (f l).child = l.child) : (a.modify id f).Forward bound := by
  intro j child hchild
  rw [comp_get_modify a id j Lexeme.child (hf _)] at hchild
  exact h j child hchild

theorem Forward.grouped (h : a.Forward bound) (id : LexemeId) (kind : LexemeKind) :
    (a.modify id (Lexeme.grouped kind)).Forward bound :=
  h.modify id (Lexeme.child_grouped kind)

theorem Forward.attachNext (h : a.Forward bound) (prev next : LexemeId) :
    (a.attachNext prev next).Forward bound := by
  have hlinked : (a.modify prev fun l => { l with next := some next }).Forward bound :=
    h.modify prev fun _ => rfl
  unfold Arena.attachNext
  exact hlinked.modify next fun _ => rfl

/-- An argument hangs on its function by a link of its own, which may lead anywhere. -/
theorem Forward.attachFirstArg (h : a.Forward bound) (function arg : LexemeId) :
    (a.attachFirstArg function arg).Forward bound := by
  have hcalled : (a.modify function fun l =>
      { l with firstArg := some arg, kind := .function }).Forward bound :=
    h.modify function fun _ => rfl
  unfold Arena.attachFirstArg
  exact hcalled.modify arg fun l =>
    Lexeme.child_grouped .argument { l with parent := some function, role := .firstArg }

/-- The next step of a path is newer than the path. -/
theorem Forward.attachChild {parent child : LexemeId} (h : a.Forward bound)
    (hparent : parent < child) (hchild : child < bound) :
    (a.attachChild parent child).Forward bound := by
  have hlinked : (a.modify parent fun l => { l with child := some child }).Forward bound := by
    intro j next hnext
    by_cases hj : j = parent
    · by_cases hinside : parent < a.size
      · rw [hj, get_modify_self a _ hinside] at hnext
        obtain rfl := Option.some.inj hnext
        exact ⟨hj ▸ hparent, hchild⟩
      · -- outside of the arena there is nothing to change
        rw [hj, get_of_size_le (by rw [size_modify]; exact Nat.le_of_not_lt hinside)] at hnext
        exact absurd hnext (by simp)
    · rw [get_modify_of_ne a _ hj] at hnext
      exact h j next hnext
  unfold Arena.attachChild
  exact hlinked.modify child fun _ => rfl

/-- Child links do not lead out of the arena. -/
theorem Forward.chain_lt (h : a.Forward bound) (fuel : Nat) :
    ∀ id, id < bound → ∀ j ∈ a.chain Lexeme.child fuel id, j < bound := by
  -- on the number of steps, from any lexeme in front of the bound
  induction fuel with
  | zero =>
      intro id hid j hj
      obtain rfl : j = id := by simpa [chain] using hj
      exact hid
  | succ fuel ih =>
      intro id hid j hj
      unfold chain at hj
      cases hchild : (a.get id).child with
      | none =>
          rw [hchild] at hj
          obtain rfl : j = id := by simpa using hj
          exact hid
      | some following =>
          rw [hchild] at hj
          rcases List.mem_cons.1 hj with rfl | hj
          · exact hid
          · exact ih following (h id following hchild).2 j hj

/-- The end of a path stands where the path stands, in front of the bound. -/
theorem Forward.deepest_lt (h : a.Forward bound) (hid : id < bound) : a.deepest id < bound := by
  unfold deepest
  cases hchain : a.chain Lexeme.child a.size id with
  | nil => exact hid
  | cons first rest =>
      refine h.chain_lt a.size id hid _ ?_
      rw [hchain, List.getLastD_cons]
      exact List.getLastD_mem_cons

/-- **Enough steps are as good as more**: a chain gets to newer lexemes with every step. -/
theorem Forward.getLastD_chain (h : a.Forward bound) (fuel : Nat) :
    ∀ more id d : Nat, bound ≤ id + fuel → bound ≤ id + more →
      (a.chain Lexeme.child fuel id).getLastD d = (a.chain Lexeme.child more id).getLastD d := by
  -- on the number of steps; without steps left there is no child link to follow
  have hends : ∀ id : Nat, bound ≤ id → (a.get id).child = none := by
    intro id hid
    cases hchild : (a.get id).child with
    | none => rfl
    | some following =>
        have hnext := h id following hchild
        omega
  have hstops : ∀ (fuel : Nat) (id : LexemeId), (a.get id).child = none →
      a.chain Lexeme.child fuel id = [id] := by
    intro fuel id hchild
    cases fuel with
    | zero => rfl
    | succ fuel => rw [chain, hchild]
  induction fuel with
  | zero =>
      intro more id d hfuel hmore
      have hchild := hends id hfuel
      rw [hstops 0 id hchild, hstops more id hchild]
  | succ fuel ih =>
      intro more id d hfuel hmore
      cases hchild : (a.get id).child with
      | none => rw [hstops _ id hchild, hstops more id hchild]
      | some following =>
          have hnext := h id following hchild
          obtain ⟨less, rfl⟩ : ∃ less, more = less + 1 := ⟨more - 1, by omega⟩
          rw [chain, chain, hchild]
          show (id :: a.chain Lexeme.child fuel following).getLastD d
            = (id :: a.chain Lexeme.child less following).getLastD d
          rw [List.getLastD_cons, List.getLastD_cons]
          exact ih less following id (by omega) (by omega)

end Arena

/-! ## §2. Operands. -/

/-- What a bracket knows stands in front of an index. -/
structure Group.Before (bound : Nat) (group : Group) : Prop where
  owner : group.owner < bound
  last : ∀ id, group.last = some id → id < bound

namespace Lexer

/-- What the lexer holds on to stands in front of an index, and so does what child links lead
to. -/
structure Before (lx : Lexer) (bound : Nat) : Prop where
  arena : lx.arena.Forward bound
  last : ∀ id, lx.last = some id → id < bound
  groups : ∀ group ∈ lx.groups, group.Before bound

/-- The lexer holds on to lexemes of its arena, where child links lead to newer lexemes. -/
def Forward (lx : Lexer) : Prop := lx.Before lx.arena.size

variable {lx : Lexer} {bound : Nat} {id : LexemeId}

/-- A lexer that starts has nothing. -/
theorem forward_start (escape : Char) : Forward { arena := {}, escape } where
  arena := Arena.forward_empty
  last _ hid := absurd hid (by simp)
  groups _ hgroup := absurd hgroup (by simp)

namespace Before

/-- The lexer may be given more room, of which it makes no use. -/
theorem mono (h : lx.Before bound) {more : Nat} (hle : bound ≤ more) : lx.Before more where
  arena := h.arena.mono hle
  last id hid := Nat.lt_of_lt_of_le (h.last id hid) hle
  groups group hgroup :=
    ⟨Nat.lt_of_lt_of_le (h.groups group hgroup).owner hle,
      fun id hid => Nat.lt_of_lt_of_le ((h.groups group hgroup).last id hid) hle⟩

/-- Links may change as long as they lead forward; what the lexer holds on to is the same. -/
theorem linked (h : lx.Before bound) {a : Arena} (ha : a.Forward bound) :
    Before { lx with arena := a } bound := ⟨ha, h.last, h.groups⟩

/-- Only the arena, the anchor outside brackets and the brackets count. -/
theorem congr (h : lx.Before bound) {lx' : Lexer} (harena : lx'.arena = lx.arena)
    (hlast : lx'.last = lx.last) (hgroups : lx'.groups = lx.groups) : lx'.Before bound where
  arena := harena ▸ h.arena
  last := hlast ▸ h.last
  groups := hgroups ▸ h.groups

theorem note (h : lx.Before bound) (cause : Cause) (position : Nat) :
    (lx.note cause position).Before bound := h.congr rfl rfl rfl

/-- The anchor is the one of the innermost bracket or that of the body, and both stand in front of
the bound. -/
theorem anchor (h : lx.Before bound) (hid : lx.anchor = some id) : id < bound := by
  unfold Lexer.anchor at hid
  split at hid
  · exact h.last id hid
  · next group outer hgroups =>
      exact (h.groups group (by rw [hgroups]; exact List.mem_cons_self)).last id hid

theorem owner (h : lx.Before bound) {group : Group} {outer : List Group}
    (hgroups : lx.groups = group :: outer) : group.owner < bound :=
  (h.groups group (by rw [hgroups]; exact List.mem_cons_self)).owner

/-- Any lexeme in front of the bound may become the anchor. -/
theorem setAnchor (h : lx.Before bound) (hid : id < bound) : (lx.setAnchor id).Before bound := by
  have hlast : ∀ other, some id = some other → other < bound := by
    intro other hother
    obtain rfl := Option.some.inj hother
    exact hid
  unfold Lexer.setAnchor
  split
  · exact ⟨h.arena, hlast, h.groups⟩
  · next group outer hgroups =>
      have hheld := h.groups
      rw [hgroups] at hheld
      refine ⟨h.arena, h.last, fun other hother => ?_⟩
      rcases List.mem_cons.1 hother with rfl | hother
      · exact ⟨(hheld group List.mem_cons_self).owner, hlast⟩
      · exact hheld other (List.mem_cons_of_mem _ hother)

/-- Linking a sibling sets no child link, so only the new anchor has to be in bounds. -/
theorem joinSibling (h : lx.Before bound) (hid : id < bound) :
    (lx.joinSibling id).Before bound := by
  unfold Lexer.joinSibling
  dsimp only
  cases lx.anchor with
  | none =>
      dsimp only
      split
      · exact setAnchor ⟨h.arena, h.last, h.groups⟩ hid
      · exact (h.linked (h.arena.grouped _ _)).setAnchor hid
  | some prev =>
      have hnext := h.arena.attachNext prev id
      dsimp only
      split
      · exact setAnchor ⟨hnext, h.last, h.groups⟩ hid
      · exact (h.linked (hnext.grouped _ _)).setAnchor hid

/-- **Linking the newest operand**: it may be the next step of a path or stand in a bracket. -/
theorem joinOperand (h : lx.Before id) (position : Nat) :
    (lx.joinOperand id position).Before (id + 1) := by
  have hid : id < id + 1 := Nat.lt_succ_self id
  have hmore : lx.Before (id + 1) := h.mono (Nat.le_succ id)
  -- a child link leads to the operand from what the lexer has held on to before it
  unfold Lexer.joinOperand
  split
  · exact setAnchor ⟨hmore.arena, hmore.last, hmore.groups⟩ hid
  · exact (hmore.note _ _).joinSibling hid
  · split
    · exact hmore.joinSibling hid
    · exact (hmore.note _ _).joinSibling hid
  · split
    · next anchor hanchor =>
        have hdeepest := h.arena.deepest_lt (h.anchor hanchor)
        exact hmore.linked (hmore.arena.attachChild hdeepest hid)
    · exact hmore
  · exact hmore.joinSibling hid
  · split
    · exact hmore.setAnchor hid
    · next group outer hgroups =>
        have hchild := hmore.arena.attachChild (h.owner hgroups) hid
        exact (hmore.linked (hchild.grouped id _)).setAnchor hid
  · split
    · exact hmore.setAnchor hid
    · exact (hmore.linked (hmore.arena.attachFirstArg _ _)).setAnchor hid

end Before

/-- The anchor stands in the arena, and so does the end of its path. -/
theorem Forward.deepest_lt (h : lx.Forward) (hid : lx.anchor = some id) :
    lx.arena.deepest id < lx.arena.size := h.arena.deepest_lt (h.anchor hid)

/-- What leaves the number of lexemes, their child links, the anchor and the brackets alone. -/
theorem Forward.congr (h : lx.Forward) {lx' : Lexer} (hsize : lx'.arena.size = lx.arena.size)
    (harena : lx'.arena.Forward lx.arena.size) (hlast : lx'.last = lx.last)
    (hgroups : lx'.groups = lx.groups) : lx'.Forward := by
  unfold Forward
  rw [hsize]
  exact ⟨harena, hlast ▸ h.last, hgroups ▸ h.groups⟩

theorem Forward.note (h : lx.Forward) (cause : Cause) (position : Nat) :
    (lx.note cause position).Forward := h.congr rfl h.arena rfl rfl

theorem Forward.pushChar (h : lx.Forward) (id : LexemeId) (c : Char) (position : Nat) :
    (lx.pushChar id c position).Forward :=
  h.congr (Arena.size_modify _ _ _) (h.arena.modify id fun _ => rfl) rfl rfl

theorem Forward.endOperand (h : lx.Forward) : lx.endOperand.Forward := h.congr rfl h.arena rfl rfl

theorem Forward.endNumber (h : lx.Forward) (id : LexemeId) (position : Nat) :
    (lx.endNumber id position).Forward := by
  unfold Lexer.endNumber
  split
  · exact (h.note _ _).endOperand
  · exact h.endOperand

/-- The new operand gets the index that was the bound, and may be linked from everything in front of
it. -/
theorem Forward.beginOperand (h : lx.Forward) {lexeme : Lexeme} (hlexeme : lexeme.child = none)
    (position : Nat) : (lx.beginOperand lexeme position).Forward := by
  have hnew : Before { lx with arena := lx.arena.alloc lexeme } lx.arena.size :=
    Before.linked h (h.arena.alloc hlexeme)
  have hjoined := hnew.joinOperand position
  have hsize : (lx.beginOperand lexeme position).arena.size = lx.arena.size + 1 := by
    rw [← Arena.size_alloc lx.arena lexeme]
    exact (lx.sameWords_beginOperand lexeme position).size
  unfold Forward
  rw [hsize]
  exact hjoined

/-- A leading sign starts an operand, and ending it links nothing. -/
theorem Forward.operatorSign (h : lx.Forward) (c : Char) (position : Nat) :
    (lx.operatorSign c position).Forward := by
  have hsign : (lx.beginOperand (.startingAt .plain position) position).Forward :=
    h.beginOperand rfl position
  have hpushed := hsign.pushChar lx.arena.size c position
  exact hpushed.congr rfl hpushed.arena rfl rfl

/-! ## §3. Delimiters. -/

/-- The new bracket holds on to the end of the path of the anchor, which stands in the arena. -/
theorem Forward.openBracket (h : lx.Forward) (bracket : Bracket) (hid : lx.anchor = some id)
    (position : Nat) : (lx.openBracket bracket id position).Forward := by
  have howner := h.deepest_lt hid
  have hopen : ∀ group ∈ ({ bracket, owner := lx.arena.deepest id } : Group) :: lx.groups,
      group.Before lx.arena.size := by
    intro group hgroup
    rcases List.mem_cons.1 hgroup with rfl | hgroup
    · exact ⟨howner, fun _ hlast => absurd hlast (by simp)⟩
    · exact h.groups group hgroup
  cases bracket with
  | square => exact ⟨h.arena, h.last, hopen⟩
  | round =>
      have hcalled : (lx.arena.modify (lx.arena.deepest id) fun l =>
          { l with kind := .function }).Forward lx.arena.size :=
        h.arena.modify _ fun _ => rfl
      rw [← Arena.size_modify lx.arena (lx.arena.deepest id) fun l =>
        { l with kind := .function }] at hopen hcalled
      unfold Lexer.openBracket
      dsimp only
      split
      all_goals
        refine ⟨hcalled, fun other hother => ?_, hopen⟩
        show other < (lx.arena.modify _ _).size
        rw [Arena.size_modify]
        exact h.last other hother

/-- A dot opens nothing, and a delimiter that is out of place adds an issue only. -/
theorem Forward.delimit (h : lx.Forward) (delimiter : Delimiter) (position : Nat) :
    (lx.delimit delimiter position).Forward := by
  unfold Lexer.delimit
  split
  · exact h.note _ _
  · exact h.note _ _
  all_goals
    split
    · exact h.note _ _
    · next anchor hanchor =>
        split
        · exact h.note _ _
        · cases delimiter with
          | opening bracket =>
              have hopened := h.openBracket bracket hanchor position
              exact hopened.congr rfl hopened.arena rfl rfl
          | dot | comma => exact h.congr rfl h.arena rfl rfl

theorem Forward.comma (h : lx.Forward) (position : Nat) : (lx.comma position).Forward := by
  unfold Lexer.comma
  repeat' split
  all_goals exact h.congr rfl h.arena rfl rfl

/-- Whatever a closing bracket closes, the brackets around it were held before. -/
theorem Forward.closeBracket (h : lx.Forward) (closer : Bracket) (position : Nat) :
    (lx.closeBracket closer position).Forward := by
  have hdoubled : (lx.noteDoubled closer position).Forward := by
    unfold noteDoubled
    repeat' split
    all_goals exact h.congr rfl h.arena rfl rfl
  have hsize : (lx.noteDoubled closer position).arena.size = lx.arena.size := by
    unfold noteDoubled
    repeat' split
    all_goals rfl
  unfold Lexer.closeBracket
  split
  · exact hdoubled.congr rfl hdoubled.arena rfl rfl
  · next group outer hgroups =>
      have houter : ∀ other ∈ outer, other.Before (lx.noteDoubled closer position).arena.size := by
        intro other hother
        rw [hsize]
        exact h.groups other (by rw [hgroups]; exact List.mem_cons_of_mem _ hother)
      dsimp only
      split <;> exact ⟨hdoubled.arena, hdoubled.last, houter⟩

/-! ## §4. Characters. -/

/-- Inside a literal values and ranges change, and no links. -/
theorem Forward.feedQuoted (h : lx.Forward) (id : LexemeId) (quote : Char) (escaping : Bool)
    (c : Char) (position : Nat) : (lx.feedQuoted id quote escaping c position).Forward := by
  have hpushed := h.pushChar id c position
  have hclosed : ∀ f : Lexeme → Lexeme,
      (∀ l, f l = { l with span := (f l).span, form := (f l).form }) →
        Forward { lx with arena := lx.arena.modify id f } := by
    intro f hf
    have hlinks := h.arena.modify id fun l => (congrArg Lexeme.child (hf l) :)
    exact h.congr (Arena.size_modify _ _ _) hlinks rfl rfl
  apply lx.feedQuoted_cases (motive := Forward)
  case escaped => exact hpushed.congr rfl hpushed.arena rfl rfl
  case escape => exact h.congr rfl h.arena rfl rfl
  case empty => exact fun f hf => ((hclosed f hf).note _ _).endOperand
  case closed => exact fun f hf _ => (hclosed f hf).endOperand
  case pushed => exact hpushed

/-- Of all characters outside operands only those that start one add a lexeme. -/
theorem Forward.feedBetween (h : lx.Forward) (c : Char) (position : Nat) :
    (lx.feedBetween c position).Forward := by
  have hsign := h.operatorSign c position
  apply lx.feedBetween_cases (motive := Forward)
  case same => exact h
  case spaced => exact fun _ => h.congr rfl h.arena rfl rfl
  case sign => exact hsign
  case signed => exact fun _ => hsign.congr rfl hsign.arena rfl rfl
  case remark => exact fun _ => h.congr rfl h.arena rfl rfl
  case delimited => exact fun _ => h.delimit _ position
  case separated => exact h.comma position
  case closed => exact fun _ => h.closeBracket _ position
  case opened =>
    intro lexeme mode hlexeme _
    have hbegun := h.beginOperand hlexeme.child position
    exact hbegun.congr rfl hbegun.arena rfl rfl
  case word =>
    have hstarted : (lx.beginOperand (.startingAt .plain position) position).Forward :=
      h.beginOperand rfl position
    have hpushed := hstarted.pushChar lx.arena.size c position
    exact hpushed.congr rfl hpushed.arena rfl rfl

/-- **A character keeps links and lexer inside the arena.** -/
theorem Forward.feed (h : lx.Forward) (c : Char) (position : Nat) :
    (lx.feed c position).Forward := by
  generalize hkept : ({ lx with lastPosition := position } : Lexer) = fed
  have hfed : fed.Forward := hkept ▸ h.congr rfl h.arena rfl rfl
  apply lx.feed_cases (motive := Forward) c position hkept
  case quoted => exact fun id quote escaping _ => hfed.feedQuoted id quote escaping c position
  case pushed => exact fun id _ => hfed.pushChar id c position
  case numbered => exact fun id _ => (hfed.endNumber id position).feedBetween c position
  case named => exact fun _ _ => hfed.endOperand.feedBetween c position
  case remark => exact fun _ _ => hfed.congr rfl hfed.arena rfl rfl
  case between => exact fun _ => hfed.feedBetween c position

end Lexer

end LayerTemplates
