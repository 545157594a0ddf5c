/-
  LayerTemplates.Proofs.Expression.Orderly
  ────────────────────────────────────────
  The lexer keeps its arena tidy, whatever it is fed.

  Every operand is linked once, when it is the newest lexeme: to the end of a path, to the owner
  of a bracket or to the lexeme before it on its level.  That no link is replaced depends on what
  the lexer holds on to.  The anchor of every level has no sibling yet, and the levels are
  stacked: the owner of a bracket is not older than the anchor of the level below, and older than
  the anchor inside the bracket.  So the anchors are different lexemes, and giving one a sibling
  leaves the others as they are.  The owner of a square bracket has no next step until something
  stands in the bracket.

  All of this holds after every character, of bodies that are well formed and of others: where
  something is wrong the lexer notes it and goes on from a state like any other.

  Main statements:
    * `Stacked.keep` — what levels know stays true while nothing is linked to their anchors.
    * `Lexer.Orderly.beginOperand` — a new operand is linked to something that has no such link.
    * `Lexer.Orderly.feed` — every character keeps the lexer orderly, and links that are set.
-/
import LayerTemplates.Proofs.Expression.Roots
import LayerTemplates.Proofs.Expression.Wiring

namespace LayerTemplates

/-! ## §1. Levels. -/

/-- A lexeme of the arena, from an index on, that can take a sibling. -/
structure Arena.Free (first : Nat) (a : Arena) (id : Nat) : Prop where
  first_le : first ≤ id
  lt_size : id < a.size
  next : (a.get id).next = none

/-- The open brackets stand on one another: below each there is an anchor, which is not newer
than the owner of the bracket, and what the bracket anchors is newer than its owner. -/
inductive Stacked (first : Nat) (a : Arena) (last : Option LexemeId) : List Group → Prop
  | base (anchor : ∀ id : Nat, last = some id → a.Free first id) : Stacked first a last []
  | level {group : Group} {outer : List Group} {below : Nat} (levels : Stacked first a last outer)
      (under : anchorOf outer last = some below) (above : below ≤ group.owner)
      (inside : group.owner < a.size)
      (anchor : ∀ id : Nat, group.last = some id → group.owner < id ∧ a.Free first id) :
      Stacked first a last (group :: outer)

section Levels

variable {first : Nat} {a a' : Arena} {last : Option LexemeId} {groups : List Group} {id : Nat}

theorem Arena.Free.keep (h : a.Free first id) (hsize : a.size ≤ a'.size)
    (hnext : (a.get id).next = none → (a'.get id).next = none) : a'.Free first id where
  first_le := h.first_le
  lt_size := Nat.lt_of_lt_of_le h.lt_size hsize
  next := hnext h.next

theorem Stacked.free (h : Stacked first a last groups) (hid : anchorOf groups last = some id) :
    a.Free first id := by
  cases h with
  | base anchor => exact anchor id hid
  | level _ _ _ _ anchor => exact (anchor id hid).2

/-- The owners of brackets are lexemes of the arena, from the index on. -/
theorem Stacked.owners (h : Stacked first a last groups) :
    ∀ group ∈ groups, first ≤ group.owner ∧ group.owner < a.size := by
  induction h with
  | base =>
      intro group hgroup
      exact absurd hgroup (by simp)
  | @level top _ below levels under above inside _ ih =>
      intro group hgroup
      have hbelow := (levels.free under).first_le
      rcases List.mem_cons.1 hgroup with rfl | hgroup
      · exact ⟨Nat.le_trans hbelow above, inside⟩
      · exact ih group hgroup

/-- **What levels know stays true** in an arena that gives no sibling to their anchors.  None of
them is newer than the innermost one. -/
theorem Stacked.keep (h : Stacked first a last groups) (hsize : a.size ≤ a'.size)
    (hnext : ∀ j : Nat, (∀ x : Nat, anchorOf groups last = some x → j ≤ x) →
      (a.get j).next = none → (a'.get j).next = none) : Stacked first a' last groups := by
  -- on the levels; an anchor below is older than the owner of the bracket on it
  induction h with
  | base anchor =>
      refine .base fun id hid => (anchor id hid).keep hsize (hnext id ?_)
      intro x hx
      have hlast : last = some x := hx
      rw [hid] at hlast
      exact Nat.le_of_eq (Option.some.inj hlast)
  | @level group outer below _ under above inside anchor ih =>
      refine .level (ih ?_) under above (Nat.lt_of_lt_of_le inside hsize) ?_
      · intro j hj
        apply hnext j
        intro x hx
        calc j ≤ below := hj below under
          _ ≤ group.owner := above
          _ ≤ x := Nat.le_of_lt (anchor x hx).1
      · intro id hid
        refine ⟨(anchor id hid).1, (anchor id hid).2.keep hsize (hnext id ?_)⟩
        intro x hx
        have hlast : group.last = some x := hx
        rw [hid] at hlast
        exact Nat.le_of_eq (Option.some.inj hlast)

end Levels

namespace Lexer

/-! ## §2. Arena and levels. -/

/-- The arena is tidy from an index on, and the levels of the lexer stand on one another. -/
structure Wired (first : Nat) (lx : Lexer) : Prop where
  first_le : first ≤ lx.arena.size
  arena : lx.arena.Tidy first
  levels : Stacked first lx.arena lx.last lx.groups

variable {first : Nat} {lx lx' : Lexer} {id : Nat}

/-- The levels of a lexer whose arena gives no sibling to what can take one. -/
theorem Wired.relink (h : lx.Wired first) {a : Arena} (ha : a.Tidy first)
    (hsize : lx.arena.size ≤ a.size)
    (hnext : ∀ j, (lx.arena.get j).next = none → (a.get j).next = none) :
    Wired first { lx with arena := a } where
  first_le := Nat.le_trans h.first_le hsize
  arena := ha
  levels := h.levels.keep hsize fun j _ => hnext j

theorem Wired.modify (h : lx.Wired first) (id : LexemeId) {f : Lexeme → Lexeme}
    (hf : ∀ l, (f l).wires = l.wires) :
    Wired first { lx with arena := lx.arena.modify id f } := by
  refine h.relink (h.arena.modify id hf) (Nat.le_of_eq (Arena.size_modify _ _ _).symm) ?_
  intro j hj
  have hsame := Arena.comp_get_modify lx.arena id j (fun l => l.link .next)
    (Lexeme.link_congr (hf _) .next)
  exact hsame.trans hj

/-- A lexeme becomes the anchor of its level.  Only the anchor of before may have been given a
sibling. -/
theorem Wired.setAnchor (h : lx.Wired first) (hlast : lx'.last = lx.last)
    (hgroups : lx'.groups = lx.groups) (hsize : lx.arena.size ≤ lx'.arena.size)
    (ha : lx'.arena.Tidy first) (hfree : lx'.arena.Free first id)
    (hnew : ∀ group ∈ lx.groups, group.owner < id)
    (hnext : ∀ j, lx.anchor ≠ some j → (lx.arena.get j).next = none →
      (lx'.arena.get j).next = none) : (lx'.setAnchor id).Wired first := by
  have hlevels := h.levels
  have hfirst : first ≤ lx'.arena.size := Nat.le_trans h.first_le hsize
  have hothers : ∀ other, some id = some other → lx'.arena.Free first other := by
    intro other hother
    obtain rfl := Option.some.inj hother
    exact hfree
  unfold Lexer.setAnchor
  split
  · next hnil => exact ⟨hfirst, ha, hnil ▸ .base hothers⟩
  · next group outer hcons =>
      rw [hcons] at hgroups
      rw [← hgroups] at hlevels hnew
      cases hlevels with
      | @level _ _ below levels under above inside anchor =>
          refine ⟨hfirst, ha, .level ?_ ?_ above (Nat.lt_of_lt_of_le inside hsize) ?_⟩
          · show Stacked first lx'.arena lx'.last outer
            rw [hlast]
            -- the anchors of the levels below are older than the one that may have a sibling now
            refine levels.keep hsize fun j hj => hnext j ?_
            intro hanchor
            rw [anchor_eq, ← hgroups] at hanchor
            have hle : j ≤ group.owner := Nat.le_trans (hj below under) above
            exact Nat.not_lt_of_le hle (anchor j hanchor).1
          · show anchorOf outer lx'.last = some below
            rw [hlast]
            exact under
          · intro other hother
            obtain rfl := Option.some.inj hother
            exact ⟨hnew group List.mem_cons_self, hfree⟩

theorem anchor_setAnchor (lx : Lexer) (id : LexemeId) : (lx.setAnchor id).anchor = some id := by
  unfold Lexer.setAnchor Lexer.anchor
  cases lx.groups <;> rfl

theorem pending_setAnchor (lx : Lexer) (id : LexemeId) :
    (lx.setAnchor id).pending = lx.pending := by
  unfold Lexer.setAnchor
  split <;> rfl

theorem arena_setAnchor_eq (lx : Lexer) (id : LexemeId) : (lx.setAnchor id).arena = lx.arena := by
  unfold Lexer.setAnchor
  split <;> rfl

theorem groups_setAnchor_ne_nil (h : lx.groups ≠ []) (id : LexemeId) :
    (lx.setAnchor id).groups ≠ [] := by
  unfold Lexer.setAnchor
  split
  · next hnil => exact absurd hnil h
  · simp

/-! ## §3. Operands. -/

/-- A lexer that is orderly from an index on: what stands before the next operand goes with what
the lexer holds on to, and with what was read so far. -/
structure Orderly (first : Nat) (lx : Lexer) : Prop extends Wired first lx where
  /-- Only before the first operand of a level there is no anchor. -/
  anchored : lx.anchor = none → lx.mode.operand? = none
    ∧ (lx.pending = .start ∨ ∃ bracket, lx.pending = .delimiter (.opening bracket))
  opened : ∀ bracket, lx.pending = .delimiter (.opening bracket) → lx.groups ≠ []
  childless : lx.mode.operand? = none → lx.pending = .delimiter (.opening .square) →
    ∀ group ∈ lx.groups.head?, (lx.arena.get group.owner).child = none
  rootless : lx.mode.operand? = none → lx.pending = .start → lx.roots = []

/-- A lexer that starts has nothing. -/
theorem orderly_start {base : Arena} (h : base.Tidy first) (hfirst : first ≤ base.size)
    (escape : Char) : Orderly first { arena := base, escape } where
  first_le := hfirst
  arena := h
  levels := .base fun _ hid => absurd hid (by simp)
  anchored _ := ⟨rfl, Or.inl rfl⟩
  opened _ hpending := absurd hpending (by simp)
  childless _ hpending := absurd hpending (by simp)
  rootless _ _ := rfl

/-- After an operand there is an anchor. -/
theorem Wired.orderly (h : lx.Wired first) (hanchor : lx.anchor ≠ none)
    (hpending : lx.pending = .adjacent ∨ lx.pending = .blank) : lx.Orderly first where
  toWired := h
  anchored hnone := absurd hnone hanchor
  opened _ hp := by rcases hpending with h' | h' <;> rw [h'] at hp <;> exact absurd hp (by simp)
  childless _ hp := by
    rcases hpending with h' | h' <;> rw [h'] at hp <;> exact absurd hp (by simp)
  rootless _ hp := by rcases hpending with h' | h' <;> rw [h'] at hp <;> exact absurd hp (by simp)

/-- While an operand is being read there is an anchor. -/
theorem Wired.reading (h : lx.Wired first) (hanchor : lx.anchor ≠ none)
    (hmode : lx.mode.operand? ≠ none)
    (hopened : ∀ bracket, lx.pending = .delimiter (.opening bracket) → lx.groups ≠ []) :
    lx.Orderly first where
  toWired := h
  anchored hnone := absurd hnone hanchor
  opened := hopened
  childless hnone := absurd hnone hmode
  rootless hnone := absurd hnone hmode

theorem Orderly.note (h : lx.Orderly first) (cause : Cause) (position : Nat) :
    (lx.note cause position).Orderly first :=
  ⟨⟨h.first_le, h.arena, h.levels⟩, h.anchored, h.opened, h.childless, h.rootless⟩

/-- Other modes without an operand are as good. -/
theorem Orderly.remark (h : lx.Orderly first) (hmode : lx.mode.operand? = none) (text : String) :
    Orderly first { lx with mode := .comment text } where
  toWired := ⟨h.first_le, h.arena, h.levels⟩
  anchored hnone := ⟨rfl, (h.anchored hnone).2⟩
  opened := h.opened
  childless _ := h.childless hmode
  rootless _ := h.rootless hmode

theorem Orderly.endOperand (h : lx.Orderly first) (hmode : lx.mode.operand? ≠ none) :
    lx.endOperand.Orderly first := by
  have hwired : lx.endOperand.Wired first := ⟨h.first_le, h.arena, h.levels⟩
  refine hwired.orderly ?_ (Or.inl rfl)
  exact fun hnone => hmode (h.anchored hnone).1

theorem Orderly.endNumber (h : lx.Orderly first) (hmode : lx.mode.operand? ≠ none)
    (id : LexemeId) (position : Nat) : (lx.endNumber id position).Orderly first := by
  unfold Lexer.endNumber
  split
  · exact (h.note _ _).endOperand hmode
  · exact h.endOperand hmode

/-- A change that concerns no links. -/
theorem Orderly.modify (h : lx.Orderly first) (id : LexemeId) {f : Lexeme → Lexeme}
    (hf : ∀ l, (f l).wires = l.wires) :
    Orderly first { lx with arena := lx.arena.modify id f } where
  toWired := h.toWired.modify id hf
  anchored := h.anchored
  opened := h.opened
  childless hmode hpending group hgroup := by
    have hsame := Arena.comp_get_modify lx.arena id group.owner (fun l => l.link .child)
      (Lexeme.link_congr (hf _) .child)
    exact hsame.trans (h.childless hmode hpending group hgroup)
  rootless := h.rootless

theorem Orderly.pushChar (h : lx.Orderly first) (id : LexemeId) (c : Char) (position : Nat) :
    (lx.pushChar id c position).Orderly first := h.modify id fun _ => rfl

/-- The second arena has one lexeme more than the first one, which is linked from an older one
that had no such link; at most the anchor was given a sibling. -/
structure Joined (first : Nat) (anchor : Option LexemeId) (a a' : Arena) : Prop where
  size : a'.size = a.size + 1
  tidy : a'.Tidy first
  kept : a.Keeps a'
  next : ∀ j, anchor ≠ some j → (a.get j).next = none → (a'.get j).next = none

section Joining

variable {anchor : Option LexemeId} {a a' : Arena} {lexeme : Lexeme}

theorem joined_alloc (h : a.Tidy first) (hl : lexeme.Unlinked) :
    Joined first anchor a (a.alloc lexeme) where
  size := Arena.size_alloc a lexeme
  tidy := h.alloc hl
  kept := Arena.keeps_of_wires fun j => Arena.wires_alloc hl j
  next j _ hj := (Lexeme.link_congr (Arena.wires_alloc hl j) .next).trans hj

theorem Joined.size_le (h : Joined first anchor a a') : a.size ≤ a'.size := by
  rw [h.size]
  exact Nat.le_succ _

theorem Joined.modify (h : Joined first anchor a a') (id : LexemeId) {f : Lexeme → Lexeme}
    (hf : ∀ l, (f l).wires = l.wires) : Joined first anchor a (a'.modify id f) where
  size := (Arena.size_modify _ _ _).trans h.size
  tidy := h.tidy.modify id hf
  kept := h.kept.trans (Arena.keeps_modify a' id hf)
  next j hne hj := by
    have hsame := Arena.comp_get_modify a' id j (fun l => l.link .next)
      (Lexeme.link_congr (hf _) .next)
    exact hsame.trans (h.next j hne hj)

/-- Whatever the link is, the arena stays tidy and no link is replaced. -/
theorem joined_attach {link : Link} {source : Nat} (h : a.Tidy first) (hl : lexeme.Unlinked)
    (hattach : Arena.Attaches link source a.size (a.alloc lexeme) a') (hfirst : first ≤ source)
    (hlt : source < a.size) (hnone : link = .firstArg ∨ (a.get source).link link = none)
    (hanchor : link = .next → anchor = some source) : Joined first anchor a a' where
  size := hattach.size.trans (Arena.size_alloc a lexeme)
  tidy := by
    refine (h.alloc hl).attach hattach hfirst hlt ?_ (h.free_alloc hl)
    rw [Arena.size_alloc]
    exact Nat.lt_succ_self _
  kept := by
    -- the source had no such link, and allocating has given it none
    have hnew := Lexeme.link_congr (Arena.wires_alloc (a := a) hl source) link
    have halloc : Joined first anchor a (a.alloc lexeme) := joined_alloc h hl
    exact halloc.kept.trans (hattach.keeps (hnone.imp_right hnew.trans))
  next j hne hj := by
    have hlinks := hattach.links .next j
    rw [if_neg] at hlinks
    · exact hlinks.trans ((Lexeme.link_congr (Arena.wires_alloc hl j) .next).trans hj)
    · rintro ⟨rfl, rfl⟩
      exact hne (hanchor rfl)

end Joining

/-- A lexer in which an operand was started: it is linked to what stands before it, which had no
such link, and there is an anchor. -/
structure Begun (first : Nat) (lx lx' : Lexer) : Prop where
  wired : lx'.Wired first
  anchored : lx'.anchor ≠ none
  pending : lx'.pending = lx.pending
  groups : lx.groups ≠ [] → lx'.groups ≠ []
  kept : lx.arena.Keeps lx'.arena

/-- The newest lexeme becomes the anchor of its level. -/
theorem Joined.begun (h : lx.Wired first) {started : Lexer}
    (hjoined : Joined first lx.anchor lx.arena started.arena) (hlast : started.last = lx.last)
    (hgroups : started.groups = lx.groups) (hpending : started.pending = lx.pending) :
    Begun first lx (started.setAnchor lx.arena.size) where
  wired := by
    -- the anchor of before is older
    have hnewest : lx.anchor ≠ some lx.arena.size := by
      intro hanchor
      rw [anchor_eq] at hanchor
      exact Nat.lt_irrefl _ (h.levels.free hanchor).lt_size
    have hbeyond : (lx.arena.get lx.arena.size).next = none :=
      (Arena.unlinked_of_size_le (Nat.le_refl _)).link .next
    have hinside : lx.arena.size < started.arena.size := by
      rw [hjoined.size]
      exact Nat.lt_succ_self _
    refine h.setAnchor hlast hgroups hjoined.size_le hjoined.tidy
      ⟨h.first_le, hinside, hjoined.next _ hnewest hbeyond⟩ ?_ hjoined.next
    intro group hgroup
    exact (h.levels.owners group hgroup).2
  anchored := by
    rw [anchor_setAnchor]
    simp
  pending := (started.pending_setAnchor _).trans hpending
  groups hne := groups_setAnchor_ne_nil (by rw [hgroups]; exact hne) _
  kept := by
    rw [arena_setAnchor_eq]
    exact hjoined.kept

section Beginning

variable {lexeme : Lexeme}

/-- A sibling is linked to the anchor of its level. -/
theorem Wired.joinSibling (h : lx.Wired first) (hl : lexeme.Unlinked)
    (harena : lx'.arena = lx.arena.alloc lexeme) (hlast : lx'.last = lx.last)
    (hgroups : lx'.groups = lx.groups) (hpending : lx'.pending = lx.pending) :
    Begun first lx (lx'.joinSibling lx.arena.size) := by
  have hanchor : lx'.anchor = lx.anchor := by
    rw [anchor_eq, anchor_eq, hlast, hgroups]
  unfold Lexer.joinSibling
  dsimp only
  rw [hanchor, harena]
  cases hprev : lx.anchor with
  | none =>
      have hjoined : Joined first lx.anchor lx.arena (lx.arena.alloc lexeme) :=
        joined_alloc h.arena hl
      split
      · exact Joined.begun h hjoined hlast hgroups hpending
      · exact Joined.begun h (hjoined.modify _ (Lexeme.wires_grouped _)) hlast hgroups hpending
  | some prev =>
      have hfree := h.levels.free ((anchor_eq lx).symm.trans hprev)
      have hinside := Arena.lt_size_alloc hfree.lt_size lexeme
      have hjoined : Joined first lx.anchor lx.arena _ := joined_attach h.arena hl
        (Arena.attaches_attachNext hinside) hfree.first_le hfree.lt_size (Or.inr hfree.next)
        fun _ => hprev
      split
      · exact Joined.begun h hjoined hlast hgroups hpending
      · exact Joined.begun h (hjoined.modify _ (Lexeme.wires_grouped _)) hlast hgroups hpending

/-- A path that is held on to ends in a lexeme of the arena without a next step, also after more
lexemes without links were allocated. -/
theorem Wired.deepest (h : lx.Wired first) {a : Arena} (hsize : lx.arena.size ≤ a.size)
    (hsame : ∀ j, (a.get j).child = (lx.arena.get j).child) (hid : lx.anchor = some id) :
    id ≤ a.deepest id ∧ a.deepest id < lx.arena.size
      ∧ (lx.arena.get (a.deepest id)).child = none := by
  rw [anchor_eq] at hid
  have hfree := h.levels.free hid
  have hahead : a.Ahead first lx.arena.size .child :=
    fun j t hj hlink => h.arena.forward .child j t hj ((hsame j).symm.trans hlink)
  obtain ⟨hle, hlt, hchild⟩ := hahead.deepest hsize hfree.first_le hfree.lt_size
  exact ⟨hle, hlt, (hsame _).symm.trans hchild⟩

/-- A path goes on at its end, which has no next step. -/
theorem Wired.joinStep (h : lx.Wired first) (hl : lexeme.Unlinked) (hid : lx.anchor = some id) :
    let a := lx.arena.alloc lexeme
    Begun first lx { lx with arena := a.attachChild (a.deepest id) lx.arena.size } := by
  intro a
  have hchildren : ∀ j, (a.get j).child = (lx.arena.get j).child :=
    fun j => Lexeme.link_congr (Arena.wires_alloc hl j) .child
  have hsize : lx.arena.size ≤ a.size := by
    rw [Arena.size_alloc]
    omega
  obtain ⟨hle, hlt, hchild⟩ := h.deepest hsize hchildren hid
  have hfree := h.levels.free ((anchor_eq lx).symm.trans hid)
  -- whatever the anchor is, it is given no sibling
  have hjoined : Joined first none lx.arena (a.attachChild (a.deepest id) lx.arena.size) :=
    joined_attach h.arena hl (Arena.attaches_attachChild (Arena.lt_size_alloc hlt lexeme))
      (Nat.le_trans hfree.first_le hle) hlt (Or.inr hchild) fun hnext => absurd hnext (by simp)
  have hanchor : lx.anchor ≠ none := by
    rw [hid]
    simp
  exact ⟨h.relink hjoined.tidy hjoined.size_le fun j => hjoined.next j (by simp), hanchor, rfl,
    fun hne => hne, hjoined.kept⟩

section Brackets

variable {group : Group} {outer : List Group} (hgroups : lx.groups = group :: outer)
include hgroups

/-- The first operand in a square bracket is linked to the owner of the bracket, which has no
next step before that. -/
theorem Wired.joinElement (h : lx.Wired first) (hl : lexeme.Unlinked)
    (hchild : (lx.arena.get group.owner).child = none) :
    let a := (lx.arena.alloc lexeme).attachChild group.owner lx.arena.size
    Begun first lx (Lexer.setAnchor
      { lx with arena := a.modify lx.arena.size (Lexeme.grouped .element) } lx.arena.size) := by
  intro a
  have howner := h.levels.owners group (by rw [hgroups]; exact List.mem_cons_self)
  have hjoined : Joined first lx.anchor lx.arena a :=
    joined_attach h.arena hl (Arena.attaches_attachChild (Arena.lt_size_alloc howner.2 lexeme))
      howner.1 howner.2 (Or.inr hchild) fun hnext => absurd hnext (by simp)
  exact Joined.begun h (hjoined.modify _ (Lexeme.wires_grouped _)) rfl rfl rfl

/-- The first operand in a round bracket becomes the first argument of the owner, in place of
that of another argument list. -/
theorem Wired.joinArgument (h : lx.Wired first) (hl : lexeme.Unlinked) :
    let a := (lx.arena.alloc lexeme).attachFirstArg group.owner lx.arena.size
    Begun first lx (Lexer.setAnchor { lx with arena := a } lx.arena.size) := by
  intro a
  have howner := h.levels.owners group (by rw [hgroups]; exact List.mem_cons_self)
  have hjoined : Joined first lx.anchor lx.arena a :=
    joined_attach h.arena hl (Arena.attaches_attachFirstArg (Arena.lt_size_alloc howner.2 lexeme))
      howner.1 howner.2 (Or.inl rfl) fun hnext => absurd hnext (by simp)
  exact Joined.begun h hjoined rfl rfl rfl

end Brackets

/-- **A new operand is linked to something that has no such link**, and nothing else changes. -/
theorem Orderly.beginOperand (h : lx.Orderly first) (hmode : lx.mode.operand? = none)
    (hl : lexeme.Unlinked) (position : Nat) :
    Begun first lx (lx.beginOperand lexeme position) := by
  have hwired := h.toWired
  unfold Lexer.beginOperand Lexer.joinOperand
  split
  · exact Joined.begun hwired (joined_alloc h.arena hl) rfl rfl rfl
  · exact hwired.joinSibling hl rfl rfl rfl rfl
  · split <;> exact hwired.joinSibling hl rfl rfl rfl rfl
  · next hdot =>
      have hpending : lx.pending = .delimiter .dot := hdot
      split
      · next anchor hanchor => exact hwired.joinStep hl hanchor
      · next hnone =>
          rcases (h.anchored hnone).2 with hp | ⟨bracket, hp⟩ <;> rw [hpending] at hp <;>
            exact absurd hp (by simp)
  · exact hwired.joinSibling hl rfl rfl rfl rfl
  · next hsquare =>
      have hpending : lx.pending = .delimiter (.opening .square) := hsquare
      split
      · next hnil => exact absurd hnil (h.opened _ hpending)
      · next group outer hcons =>
          have hgroups : lx.groups = group :: outer := hcons
          have hchild := h.childless hmode hpending group (by rw [hgroups]; rfl)
          exact hwired.joinElement hgroups hl hchild
  · next hround =>
      have hpending : lx.pending = .delimiter (.opening .round) := hround
      split
      · next hnil => exact absurd hnil (h.opened _ hpending)
      · next group outer hcons => exact hwired.joinArgument hcons hl

end Beginning

/-- While the operand is being read the lexer is orderly. -/
theorem Begun.reading (hbegun : Begun first lx lx') (h : lx.Orderly first) {mode : Mode}
    (hmode : mode.operand? ≠ none) : Orderly first { lx' with mode } := by
  have hwired : Wired first { lx' with mode } :=
    ⟨hbegun.wired.first_le, hbegun.wired.arena, hbegun.wired.levels⟩
  refine hwired.reading hbegun.anchored hmode ?_
  intro bracket hbracket
  exact hbegun.groups (h.opened bracket (hbegun.pending ▸ hbracket))

/-- A lexer after a character: it is orderly, and the links that were set are the same. -/
structure Advances (first : Nat) (lx lx' : Lexer) : Prop where
  orderly : lx'.Orderly first
  kept : lx.arena.Keeps lx'.arena

theorem Orderly.operatorSign (h : lx.Orderly first) (hmode : lx.mode.operand? = none) (c : Char)
    (position : Nat) : Advances first lx (lx.operatorSign c position) := by
  have hplain : (Lexeme.startingAt .plain position).Unlinked := rfl
  have hbegun := h.beginOperand hmode hplain position
  generalize hsign : lx.beginOperand (.startingAt .plain position) position = sign at hbegun
  have hpushed : (sign.pushChar lx.arena.size c position).Wired first :=
    hbegun.wired.modify _ fun _ => rfl
  have hended : (lx.operatorSign c position).Wired first := by
    unfold Lexer.operatorSign
    rw [hsign]
    exact ⟨hpushed.first_le, hpushed.arena, hpushed.levels⟩
  refine ⟨hended.orderly ?_ (Or.inr rfl), ?_⟩
  · unfold Lexer.operatorSign
    rw [hsign]
    exact hbegun.anchored
  · unfold Lexer.operatorSign
    rw [hsign]
    exact hbegun.kept.trans (Arena.keeps_modify _ _ fun _ => rfl)

/-! ## §4. Delimiters. -/

/-- In a bracket that was just opened there is no operand yet. -/
theorem Wired.opening (h : lx.Wired first) (hmode : lx.mode.operand? = none) {bracket : Bracket}
    (hpending : lx.pending = .delimiter (.opening bracket)) (hgroups : lx.groups ≠ [])
    (hchild : bracket = .square →
      ∀ group ∈ lx.groups.head?, (lx.arena.get group.owner).child = none) :
    lx.Orderly first where
  toWired := h
  anchored _ := ⟨hmode, Or.inr ⟨bracket, hpending⟩⟩
  opened _ _ := hgroups
  childless _ hsquare := hchild (by simpa [hpending] using hsquare)
  rootless _ hstart := absurd (hpending.symm.trans hstart) (by simp)

/-- A bracket is opened on the end of a path, which has no next step. -/
theorem Orderly.openBracket (h : lx.Orderly first) (hmode : lx.mode.operand? = none)
    (bracket : Bracket) (hid : lx.anchor = some id) (position : Nat) :
    Advances first lx
      { lx.openBracket bracket id position with pending := .delimiter (.opening bracket) } := by
  obtain ⟨hle, hlt, hchild⟩ := h.toWired.deepest (Nat.le_refl _) (fun _ => rfl) hid
  have hunder : anchorOf lx.groups lx.last = some id := (anchor_eq lx).symm.trans hid
  -- one level more, with no anchor yet
  have hopened : Wired first
      { lx with groups := { bracket, owner := lx.arena.deepest id } :: lx.groups } :=
    ⟨h.first_le, h.arena, .level h.levels hunder hle hlt fun _ hlast => absurd hlast (by simp)⟩
  cases bracket with
  | square =>
      have hwired : Wired first { lx with
          groups := { bracket := .square, owner := lx.arena.deepest id } :: lx.groups
          pending := .delimiter (.opening .square) } :=
        ⟨hopened.first_le, hopened.arena, hopened.levels⟩
      refine ⟨hwired.opening hmode rfl (by simp) ?_, .refl _⟩
      intro _ group hgroup
      obtain rfl := Option.some.inj hgroup
      exact hchild
  | round =>
      have hcalled := hopened.modify (lx.arena.deepest id)
        (f := fun l => { l with kind := .function }) fun _ => rfl
      have hkept : lx.arena.Keeps (lx.arena.modify (lx.arena.deepest id) fun l =>
          { l with kind := .function }) := Arena.keeps_modify _ _ fun _ => rfl
      unfold Lexer.openBracket
      dsimp only
      split <;>
        exact ⟨Wired.opening ⟨hcalled.first_le, hcalled.arena, hcalled.levels⟩ hmode rfl (by simp)
          (by simp), hkept⟩

/-- A delimiter that opens no bracket follows an operand. -/
theorem Orderly.delimited (h : lx.Orderly first) (hanchor : lx.anchor ≠ none)
    {delimiter : Delimiter} (hdelimiter : ∀ bracket, delimiter ≠ .opening bracket) :
    Orderly first { lx with pending := .delimiter delimiter } where
  toWired := ⟨h.first_le, h.arena, h.levels⟩
  anchored hnone := absurd hnone hanchor
  opened bracket hp := absurd (Pending.delimiter.inj hp) (hdelimiter bracket)
  childless _ hp := absurd (Pending.delimiter.inj hp) (hdelimiter .square)
  rootless _ hp := absurd hp (by simp)

/-- After an operand, and blanks, there is an anchor. -/
theorem Orderly.anchor_ne_none (h : lx.Orderly first)
    (hpending : lx.pending = .adjacent ∨ lx.pending = .blank) : lx.anchor ≠ none := by
  intro hnone
  rcases (h.anchored hnone).2 with hp | ⟨bracket, hp⟩ <;> rw [hp] at hpending <;>
    exact absurd hpending (by simp)

theorem Orderly.delimit (h : lx.Orderly first) (hmode : lx.mode.operand? = none)
    (delimiter : Delimiter) (position : Nat) :
    Advances first lx (lx.delimit delimiter position) := by
  unfold Lexer.delimit
  split
  · exact ⟨h.note _ _, .refl _⟩
  · exact ⟨h.note _ _, .refl _⟩
  all_goals
    split
    · exact ⟨h.note _ _, .refl _⟩
    · next anchor hanchor =>
        have hsome : lx.anchor ≠ none := by
          rw [hanchor]
          simp
        split
        · exact ⟨h.note _ _, .refl _⟩
        · cases delimiter with
          | opening bracket => exact h.openBracket hmode bracket hanchor position
          | dot | comma => exact ⟨h.delimited hsome fun _ => by simp, .refl _⟩

theorem Orderly.comma (h : lx.Orderly first) (position : Nat) :
    Advances first lx (lx.comma position) := by
  unfold Lexer.comma
  split
  · exact ⟨h.note _ _, .refl _⟩
  · exact ⟨h.note _ _, .refl _⟩
  · next hp =>
      split
      · exact ⟨h.delimited (h.anchor_ne_none (Or.inr hp)) fun _ => by simp, .refl _⟩
      · exact ⟨h.note _ _, .refl _⟩
  · next hp =>
      split
      · exact ⟨h.delimited (h.anchor_ne_none (Or.inl hp)) fun _ => by simp, .refl _⟩
      · exact ⟨h.note _ _, .refl _⟩

/-- A closing bracket goes back to the level below, which has an anchor. -/
theorem Orderly.closeBracket (h : lx.Orderly first) (closer : Bracket) (position : Nat) :
    Advances first lx (lx.closeBracket closer position) := by
  obtain ⟨issues, hdoubled⟩ : ∃ issues, lx.noteDoubled closer position = { lx with issues } := by
    unfold noteDoubled
    repeat' split
    all_goals exact ⟨_, rfl⟩
  unfold Lexer.closeBracket
  rw [hdoubled]
  dsimp only
  split
  · -- with nothing open the bracket counts as the end of an operand, if there is one
    next hnil =>
      by_cases hstart : lx.pending = .start
      · rw [if_pos hstart]
        exact ⟨⟨⟨h.first_le, h.arena, h.levels⟩,
          fun hnone => ⟨(h.anchored hnone).1, Or.inl rfl⟩, fun _ hp => absurd hp (by simp),
          fun _ hp => absurd hp (by simp), fun hmode _ => h.rootless hmode hstart⟩, .refl _⟩
      · rw [if_neg hstart]
        have hanchor : lx.anchor ≠ none := by
          intro hnone
          rcases (h.anchored hnone).2 with hp | ⟨bracket, hp⟩
          · exact hstart hp
          · exact h.opened bracket hp hnil
        refine ⟨Wired.orderly ?_ hanchor (Or.inl rfl), .refl _⟩
        exact ⟨h.first_le, h.arena, h.levels⟩
  · next group outer hcons =>
      have hlevels := h.levels
      rw [hcons] at hlevels
      cases hlevels with
      | @level _ _ below levels under _ _ _ =>
          have hanchor : ∀ {lx' : Lexer}, lx'.groups = outer → lx'.last = lx.last →
              lx'.anchor ≠ none := by
            intro lx' hgroups hlast hnone
            rw [anchor_eq, hgroups, hlast, under] at hnone
            exact absurd hnone (by simp)
          split <;>
            exact ⟨Wired.orderly ⟨h.first_le, h.arena, levels⟩ (hanchor rfl rfl) (Or.inl rfl),
              .refl _⟩

/-! ## §5. Characters. -/

/-- The operand that is being read may be read in another way. -/
theorem Orderly.reread (h : lx.Orderly first) (hmode : lx.mode.operand? ≠ none) {mode : Mode}
    (hmode' : mode.operand? ≠ none) : Orderly first { lx with mode } := by
  have hwired : Wired first { lx with mode } := ⟨h.first_le, h.arena, h.levels⟩
  exact hwired.reading (fun hnone => hmode (h.anchored hnone).1) hmode' h.opened

theorem Orderly.feedQuoted (h : lx.Orderly first) (hmode : lx.mode.operand? ≠ none)
    (id : LexemeId) (quote : Char) (escaping : Bool) (c : Char) (position : Nat) :
    Advances first lx (lx.feedQuoted id quote escaping c position) := by
  have hpushed := h.pushChar id c position
  have hkept : lx.arena.Keeps (lx.pushChar id c position).arena :=
    Arena.keeps_modify _ _ fun _ => rfl
  have hwires : ∀ f : Lexeme → Lexeme,
      (∀ l, f l = { l with span := (f l).span, form := (f l).form }) →
        ∀ l, (f l).wires = l.wires := by
    intro f hf l
    rw [hf l]
    rfl
  apply lx.feedQuoted_cases (motive := Advances first lx)
  case escaped => exact ⟨hpushed.reread hmode (by simp [Mode.operand?]), hkept⟩
  case escape => exact ⟨h.reread hmode (by simp [Mode.operand?]), .refl _⟩
  case empty =>
    intro f hf
    exact ⟨((h.modify id (hwires f hf)).note _ _).endOperand hmode,
      Arena.keeps_modify _ _ (hwires f hf)⟩
  case closed =>
    intro f hf _
    exact ⟨(h.modify id (hwires f hf)).endOperand hmode, Arena.keeps_modify _ _ (hwires f hf)⟩
  case pushed => exact ⟨hpushed, hkept⟩

theorem Orderly.feedBetween (h : lx.Orderly first) (hmode : lx.mode.operand? = none) (c : Char)
    (position : Nat) : Advances first lx (lx.feedBetween c position) := by
  have hsign := h.operatorSign hmode c position
  apply lx.feedBetween_cases (motive := Advances first lx)
  case same => exact ⟨h, .refl _⟩
  case spaced =>
    intro hadjacent
    have hwired : Wired first { lx with pending := .blank } := ⟨h.first_le, h.arena, h.levels⟩
    exact ⟨hwired.orderly (h.anchor_ne_none (Or.inl hadjacent)) (Or.inr rfl), .refl _⟩
  case sign => exact hsign
  case signed => exact fun _ => ⟨hsign.orderly.remark rfl "", hsign.kept⟩
  case remark => exact fun _ => ⟨h.remark hmode "", .refl _⟩
  case delimited => exact fun delimiter => h.delimit hmode delimiter position
  case separated => exact h.comma position
  case closed => exact fun closer => h.closeBracket closer position
  case opened =>
    intro lexeme mode hlexeme hreading
    have hbegun := h.beginOperand hmode hlexeme position
    refine ⟨hbegun.reading h ?_, hbegun.kept⟩
    rcases hreading with rfl | rfl <;> simp [Mode.operand?]
  case word =>
    have hplain : (Lexeme.startingAt .plain position).Unlinked := rfl
    have hbegun := h.beginOperand hmode hplain position
    have hreading : Orderly first { lx.beginOperand (.startingAt .plain position) position with
        mode := .bare lx.arena.size } := hbegun.reading h (by simp [Mode.operand?])
    exact ⟨hreading.pushChar lx.arena.size c position,
      hbegun.kept.trans (Arena.keeps_modify _ _ fun _ => rfl)⟩

/-- **Every character keeps the lexer orderly, and the links that are set.** -/
theorem Orderly.feed (h : lx.Orderly first) (c : Char) (position : Nat) :
    Advances first lx (lx.feed c position) := by
  generalize hkept : ({ lx with lastPosition := position } : Lexer) = fed
  have hfed : fed.Orderly first :=
    hkept ▸ ⟨⟨h.first_le, h.arena, h.levels⟩, h.anchored, h.opened, h.childless, h.rootless⟩
  have harena : fed.arena = lx.arena := hkept ▸ rfl
  have hfrom : ∀ {other : Lexer}, Advances first fed other → Advances first lx other :=
    fun hother => ⟨hother.orderly, harena ▸ hother.kept⟩
  have hreading : ∀ {mode : Mode}, fed.mode = mode → mode.operand? ≠ none →
      fed.mode.operand? ≠ none := fun hmode hne => hmode ▸ hne
  apply lx.feed_cases (motive := Advances first lx) c position hkept
  case quoted =>
    intro id quote escaping hmode
    exact hfrom (hfed.feedQuoted (hreading hmode (by simp [Mode.operand?])) id quote escaping c
      position)
  case pushed =>
    intro id _
    exact hfrom ⟨hfed.pushChar id c position, Arena.keeps_modify _ _ fun _ => rfl⟩
  -- a number ends with the character behind it, which is then read between operands
  case numbered =>
    intro id hmode
    have hended := hfed.endNumber (hreading hmode (by simp [Mode.operand?])) id position
    have hsame : (fed.endNumber id position).arena = fed.arena
        ∧ (fed.endNumber id position).mode.operand? = none := by
      unfold Lexer.endNumber
      split <;> exact ⟨rfl, rfl⟩
    have hnext := hended.feedBetween hsame.2 c position
    exact hfrom ⟨hnext.orderly, hsame.1 ▸ hnext.kept⟩
  case named =>
    intro id hmode
    have hended := hfed.endOperand (hreading hmode (by simp [Mode.operand?]))
    have hnext := hended.feedBetween rfl c position
    exact hfrom ⟨hnext.orderly, hnext.kept⟩
  case remark =>
    intro text hmode
    exact hfrom ⟨hfed.remark (by rw [hmode]; rfl) (text.push c), .refl _⟩
  case between =>
    intro hmode
    exact hfrom (hfed.feedBetween (by rw [hmode]; rfl) c position)

end Lexer

end LayerTemplates
