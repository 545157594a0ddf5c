/-
  LayerTemplates.Proofs.Expression.Moving
  ───────────────────────────────────────
  A body means the same wherever it stands.

  In a layer the lexemes of a body are numbered after those that the arena holds already, and
  its characters are counted from the start of the layer.  Alone they are numbered and counted
  from zero.  Nothing else is different: what the lexer does in one place is what it does in the
  other, moved by the lexemes and the bytes that stand before the body.

  Main statements:
    * `Arena.deepest_moved` — following child links leads to the same place.
    * `Lexer.moved_feed` — a character does the same in both places.
    * `Lexer.finish_elsewhere` — a complete body holds the same in both places.
    * `Lexer.abandon_elsewhere` — and so does one that the end of the text cuts off.
-/
import LayerTemplates.Proofs.Expression.Forward

namespace LayerTemplates

/-! ## §1. What is moved. -/

/-- A range that is counted from an offset. -/
def Span.moved (span : Span) (offset : Nat) : Span := ⟨offset + span.start, offset + span.stop⟩

/-- A lexeme whose links are numbered from `first` on and whose range is counted from an
offset. -/
def Lexeme.moved (l : Lexeme) (first offset : Nat) : Lexeme :=
  { l with
    span := l.span.moved offset
    child := l.child.map (first + ·)
    firstArg := l.firstArg.map (first + ·)
    next := l.next.map (first + ·)
    parent := l.parent.map (first + ·)
    prev := l.prev.map (first + ·) }

/-- The lexemes of an arena behind those of another one. -/
def Arena.moved (a base : Arena) (offset : Nat) : Arena :=
  ⟨base.lexemes ++ a.lexemes.map fun l => l.moved base.size offset⟩

def Mode.moved (first : Nat) : Mode → Mode
  | .between => .between
  | .bare id => .bare (first + id)
  | .quoted id quote escaping => .quoted (first + id) quote escaping
  | .number id => .number (first + id)
  | .comment text => .comment text

def Group.moved (group : Group) (first : Nat) : Group :=
  { group with owner := first + group.owner, last := group.last.map (first + ·) }

def Issue.moved (issue : Issue) (offset : Nat) : Issue :=
  { issue with position := offset + issue.position }

def Expression.moved (e : Expression) (first offset : Nat) : Expression :=
  { e with
    roots := e.roots.map (first + ·)
    issues := e.issues.map fun issue => issue.moved offset }

/-- The lexer behind the lexemes of an arena, with all positions counted from an offset. -/
def Lexer.moved (lx : Lexer) (base : Arena) (offset : Nat) : Lexer where
  arena := lx.arena.moved base offset
  escape := lx.escape
  mode := lx.mode.moved base.size
  pending := lx.pending
  last := lx.last.map (base.size + ·)
  groups := lx.groups.map fun group => group.moved base.size
  roots := lx.roots.map (base.size + ·)
  issues := lx.issues.map fun issue => issue.moved offset
  lastPosition := offset + lx.lastPosition

/-! ## §2. Arenas. -/

theorem Lexeme.moved_startingAt (form : LexemeForm) (start first offset : Nat) :
    (startingAt form start).moved first offset = startingAt form (offset + start) := rfl

/-- A group gives the same kind to a lexeme in both places. -/
theorem Lexeme.moved_grouped (l : Lexeme) (kind : LexemeKind) (first offset : Nat) :
    (l.grouped kind).moved first offset = (l.moved first offset).grouped kind := by
  unfold Lexeme.grouped
  split
  · next hplain =>
      rw [if_pos (show (l.moved first offset).kind = .plain from hplain)]
      rfl
  · next hother =>
      rw [if_neg (show ¬ (l.moved first offset).kind = .plain from hother)]

namespace Arena

variable (a base : Arena) (offset : Nat)

@[simp] theorem size_moved : (a.moved base offset).size = base.size + a.size := by
  simp [moved, size]

/-- The lexeme at an index behind the base is the moved one; outside both arenas there is the
default lexeme, which is not moved. -/
theorem get_moved (id : Nat) :
    (a.moved base offset).get (base.size + id)
      = if id < a.size then (a.get id).moved base.size offset else {} := by
  unfold get moved
  rw [show base.size = base.lexemes.size from rfl,
    Array.getElem?_append_right (Nat.le_add_right _ _), Nat.add_sub_cancel_left]
  by_cases hid : id < a.size
  · have hinside : id < a.lexemes.size := hid
    simp [hid, hinside]
  · have houtside : a.lexemes.size ≤ id := Nat.le_of_not_lt hid
    simp [hid, houtside]

/-- What is no range of a lexeme is moved with it, in the arena or not. -/
theorem comp_get_moved {β : Type} (f : Lexeme → β) (id : Nat)
    (hf : ∀ l : Lexeme, f { l with span := ⟨0, 0⟩ } = f l) :
    f ((a.moved base offset).get (base.size + id)) = f ((a.get id).moved base.size offset) := by
  rw [get_moved]
  by_cases hid : id < a.size
  · rw [if_pos hid]
  · -- outside of the arena there is the empty lexeme, which has no links
    rw [if_neg hid, get_of_size_le (Nat.le_of_not_lt hid)]
    exact (hf (Lexeme.moved {} base.size offset))

/-- A new lexeme comes last in both arenas. -/
theorem moved_alloc (l : Lexeme) :
    (a.alloc l).moved base offset = (a.moved base offset).alloc (l.moved base.size offset) := by
  unfold moved alloc
  rw [Array.map_push, Array.append_push]

/-- A change of one lexeme is the moved change of the moved lexeme, and nothing else is touched. -/
theorem moved_modify (id : Nat) {f g : Lexeme → Lexeme}
    (hf : ∀ l, (f l).moved base.size offset = g (l.moved base.size offset)) :
    (a.modify id f).moved base offset = (a.moved base offset).modify (base.size + id) g := by
  unfold moved modify
  congr 1
  apply Array.ext_getElem?
  intro j
  rw [Array.getElem?_modify]
  by_cases hj : j < base.size
  · have hne : ¬ base.size + id = j := by omega
    have hj' : j < base.lexemes.size := hj
    rw [if_neg hne, Array.getElem?_append_left hj', Array.getElem?_append_left hj']
  · obtain ⟨k, rfl⟩ := Nat.exists_eq_add_of_le (Nat.le_of_not_lt hj)
    have hk : base.lexemes.size ≤ base.size + k := Nat.le_add_right _ _
    rw [Array.getElem?_append_right hk, Array.getElem?_append_right hk,
      show base.size + k - base.lexemes.size = k from Nat.add_sub_cancel_left _ _,
      Array.getElem?_map, Array.getElem?_map, Array.getElem?_modify]
    by_cases hid : id = k
    · rw [if_pos hid, if_pos (congrArg (base.size + ·) hid), Option.map_map, Option.map_map]
      exact congrArg (fun h => Option.map h _) (funext hf)
    · rw [if_neg hid, if_neg fun h => hid (Nat.add_left_cancel h)]

theorem moved_grouped (id : Nat) (kind : LexemeKind) :
    (a.modify id (Lexeme.grouped kind)).moved base offset
      = (a.moved base offset).modify (base.size + id) (Lexeme.grouped kind) :=
  a.moved_modify base offset id fun l => l.moved_grouped kind _ _

/-- Both ends of a child link are numbered behind the base. -/
theorem moved_attachChild (parent child : Nat) :
    (a.attachChild parent child).moved base offset
      = (a.moved base offset).attachChild (base.size + parent) (base.size + child) := by
  unfold attachChild
  rw [moved_modify (g := fun l => { l with parent := some (base.size + parent), role := .child }),
    moved_modify (g := fun l => { l with child := some (base.size + child) })]
  · exact fun l => rfl
  · exact fun l => rfl

theorem moved_attachFirstArg (function arg : Nat) :
    (a.attachFirstArg function arg).moved base offset
      = (a.moved base offset).attachFirstArg (base.size + function) (base.size + arg) := by
  unfold attachFirstArg
  rw [moved_modify (g := fun l =>
      { l with parent := some (base.size + function), role := .firstArg }.grouped .argument),
    moved_modify (g := fun l =>
      { l with firstArg := some (base.size + arg), kind := .function })]
  · exact fun l => rfl
  · exact fun l => Lexeme.moved_grouped _ _ _ _

/-- The parent that a sibling takes over from the one before it is moved with it. -/
theorem moved_attachNext (prev next : Nat) :
    (a.attachNext prev next).moved base offset
      = (a.moved base offset).attachNext (base.size + prev) (base.size + next) := by
  unfold attachNext
  dsimp only
  have hlinked : (a.modify prev fun l => { l with next := some next }).moved base offset
      = (a.moved base offset).modify (base.size + prev)
          fun l => { l with next := some (base.size + next) } :=
    a.moved_modify base offset prev fun l => rfl
  rw [← hlinked, comp_get_moved _ _ _ Lexeme.parent prev fun _ => rfl]
  exact moved_modify _ _ _ _ fun l => rfl

/-- By induction on the number of steps: following child links passes the moved lexemes one by
one. -/
theorem chain_moved (fuel : Nat) :
    ∀ id : Nat, (a.moved base offset).chain Lexeme.child fuel (base.size + id)
      = (a.chain Lexeme.child fuel id).map (base.size + ·) := by
  induction fuel with
  | zero => exact fun id => rfl
  | succ fuel ih =>
      intro id
      have hchild : ((a.moved base offset).get (base.size + id)).child
          = (a.get id).child.map (base.size + ·) :=
        a.comp_get_moved base offset Lexeme.child id fun _ => rfl
      rw [chain, chain, hchild]
      cases (a.get id).child with
      | none => rfl
      | some following =>
          show (base.size + id) :: _ = _
          rw [ih following]
          rfl

/-- **Following child links leads to the same place**, though the other arena has more lexemes and
allows for more steps. -/
theorem deepest_moved (h : a.Forward a.size) (id : Nat) :
    (a.moved base offset).deepest (base.size + id) = base.size + a.deepest id := by
  unfold deepest
  rw [chain_moved, size_moved]
  have hlast : ∀ (ids : List LexemeId) (d : LexemeId),
      (ids.map (base.size + ·)).getLastD (base.size + d) = base.size + ids.getLastD d := by
    intro ids d
    rw [List.getLastD_eq_getLast?, List.getLastD_eq_getLast?, List.getLast?_map]
    cases ids.getLast? <;> rfl
  rw [hlast, h.getLastD_chain (base.size + a.size) a.size id id (by omega) (by omega)]

/-- A lexeme names the same operator. -/
theorem operatorAt?_moved (id : Nat) :
    (a.moved base offset).operatorAt? (base.size + id) = a.operatorAt? id := by
  have hform := a.comp_get_moved base offset Lexeme.form id fun _ => rfl
  have hquote := a.comp_get_moved base offset Lexeme.quote id fun _ => rfl
  have hkind := a.comp_get_moved base offset Lexeme.kind id fun _ => rfl
  have hvalue := a.comp_get_moved base offset Lexeme.value id fun _ => rfl
  have hchild : ((a.moved base offset).get (base.size + id)).child
      = (a.get id).child.map (base.size + ·) :=
    a.comp_get_moved base offset Lexeme.child id fun _ => rfl
  unfold operatorAt?
  simp only [hform, hquote, hkind, hvalue, hchild, Option.map_eq_none_iff]
  rfl

end Arena

/-! ## §3. Operands. -/

namespace Lexer

variable (lx : Lexer) (base : Arena) (offset : Nat)

theorem moved_note (cause : Cause) (position : Nat) :
    (lx.note cause position).moved base offset
      = (lx.moved base offset).note cause (offset + position) := by
  simp [note, moved, Issue.moved]

/-- The anchor is the moved one, outside brackets and inside. -/
theorem anchor_moved : (lx.moved base offset).anchor = lx.anchor.map (base.size + ·) := by
  unfold anchor moved
  cases lx.groups <;> rfl

theorem moved_setAnchor (id : Nat) :
    (lx.setAnchor id).moved base offset = (lx.moved base offset).setAnchor (base.size + id) := by
  obtain ⟨arena, escape, mode, pending, last, groups, roots, issues, lastPosition⟩ := lx
  cases groups <;> rfl

/-- The range of an operand grows by the same character, which stands behind the offset. -/
theorem moved_pushChar (id : Nat) (c : Char) (position : Nat) :
    (lx.pushChar id c position).moved base offset
      = (lx.moved base offset).pushChar (base.size + id) c (offset + position) := by
  have harena := lx.arena.moved_modify base offset id
    (f := fun l => { l with
      value := l.value.push c, span := ⟨l.span.start, position + c.utf8Size⟩ })
    (g := fun l => { l with
      value := l.value.push c, span := ⟨l.span.start, offset + position + c.utf8Size⟩ })
    fun l => by simp [Lexeme.moved, Span.moved, Nat.add_assoc]
  simp [pushChar, moved, harena]

theorem moved_endOperand :
    lx.endOperand.moved base offset = (lx.moved base offset).endOperand := rfl

/-- Whether a caret has digits is read off the value of its operand, which is not moved. -/
theorem moved_endNumber (id position : Nat) :
    (lx.endNumber id position).moved base offset
      = (lx.moved base offset).endNumber (base.size + id) (offset + position) := by
  have hvalue : ((lx.moved base offset).arena.get (base.size + id)).value
      = (lx.arena.get id).value :=
    lx.arena.comp_get_moved base offset Lexeme.value id fun _ => rfl
  unfold endNumber
  rw [hvalue]
  split
  · rw [moved_endOperand, moved_note]
  · rfl

/-- An operand is linked to the anchor before it, and both are moved alike. -/
theorem moved_joinSibling (id : Nat) :
    (lx.joinSibling id).moved base offset
      = (lx.moved base offset).joinSibling (base.size + id) := by
  obtain ⟨arena, escape, mode, pending, last, groups, roots, issues, lastPosition⟩ := lx
  -- outside brackets the operand follows the last root, inside them the last of the bracket
  cases groups with
  | nil =>
      cases last with
      | none => simp [joinSibling, anchor, setAnchor, moved]
      | some prev => simp [joinSibling, anchor, setAnchor, moved, Arena.moved_attachNext]
  | cons group outer =>
      obtain ⟨bracket, owner, last'⟩ := group
      cases last' with
      | none => simp [joinSibling, anchor, setAnchor, moved, Group.moved, Arena.moved_grouped]
      | some prev =>
          simp [joinSibling, anchor, setAnchor, moved, Group.moved, Arena.moved_grouped,
            Arena.moved_attachNext]

/-- What is linked is moved with its links; of a path only the end has to be found again. -/
theorem moved_joinOperand (h : lx.arena.Forward lx.arena.size) (id position : Nat) :
    (lx.joinOperand id position).moved base offset
      = (lx.moved base offset).joinOperand (base.size + id) (offset + position) := by
  have hanchor := lx.anchor_moved base offset
  unfold joinOperand
  rw [show (lx.moved base offset).pending = lx.pending from rfl]
  cases lx.pending with
  | start =>
      dsimp only
      rw [moved_setAnchor]
      simp [moved]
  | adjacent =>
      dsimp only
      rw [moved_joinSibling, moved_note]
  | blank =>
      dsimp only
      rw [show (lx.moved base offset).groups.isEmpty = lx.groups.isEmpty by simp [moved]]
      split
      · rw [moved_joinSibling]
      · rw [moved_joinSibling, moved_note]
  | delimiter d =>
      cases d with
      | dot =>
          dsimp only
          rw [hanchor]
          cases lx.anchor with
          | none => rfl
          | some anchor =>
              -- only here a path is followed, so only here links must lead forward
              have hdeepest := lx.arena.deepest_moved base offset h anchor
              simp [moved, hdeepest, Arena.moved_attachChild]
      | comma => exact lx.moved_joinSibling base offset id
      | opening bracket =>
          obtain ⟨arena, escape, mode, pending, last, groups, roots, issues, lastPosition⟩ := lx
          cases groups with
          | nil => cases bracket <;> rfl
          | cons group outer =>
              cases bracket with
              | square =>
                  simp [setAnchor, moved, Group.moved, Arena.moved_grouped,
                    Arena.moved_attachChild]
              | round => simp [setAnchor, moved, Group.moved, Arena.moved_attachFirstArg]

/-- A new operand gets the size of the arena for its index, and that is the moved size in the other
place. -/
theorem moved_beginOperand (h : lx.Forward) {lexeme : Lexeme} (hlexeme : lexeme.child = none)
    (position : Nat) :
    (lx.beginOperand lexeme position).moved base offset
      = (lx.moved base offset).beginOperand (lexeme.moved base.size offset)
          (offset + position) := by
  have hforward : (lx.arena.alloc lexeme).Forward (lx.arena.alloc lexeme).size := by
    rw [Arena.size_alloc]
    exact (h.arena.alloc hlexeme).mono (Nat.le_succ _)
  have hjoined := moved_joinOperand { lx with arena := lx.arena.alloc lexeme } base offset hforward
    lx.arena.size position
  unfold beginOperand
  rw [hjoined, show (lx.moved base offset).arena.size = base.size + lx.arena.size from
    lx.arena.size_moved base offset]
  simp [moved, Arena.moved_alloc]

/-- A leading sign is a root of one character in both places. -/
theorem moved_operatorSign (h : lx.Forward) (c : Char) (position : Nat) :
    (lx.operatorSign c position).moved base offset
      = (lx.moved base offset).operatorSign c (offset + position) := by
  have hbegun : (lx.beginOperand (.startingAt .plain position) position).moved base offset = _ :=
    lx.moved_beginOperand base offset h rfl position
  have hpushed := moved_pushChar (lx.beginOperand (.startingAt .plain position) position) base
    offset lx.arena.size c position
  rw [hbegun, Lexeme.moved_startingAt] at hpushed
  unfold operatorSign
  dsimp only
  rw [show (lx.moved base offset).arena.size = base.size + lx.arena.size from
    lx.arena.size_moved base offset, ← hpushed]
  rfl

/-! ## §4. Delimiters. -/

/-- The body has the same single root, moved, so the same operator leads it. -/
theorem isOperatorAnchor_moved (id : Nat) :
    (lx.moved base offset).isOperatorAnchor (base.size + id) = lx.isOperatorAnchor id := by
  have hroots : (lx.roots.map (base.size + ·) == [base.size + id]) = (lx.roots == [id]) := by
    cases lx.roots with
    | nil => rfl
    | cons first rest =>
        rw [Bool.eq_iff_iff]
        cases rest <;> simp
  unfold isOperatorAnchor
  show (lx.pending == .blank && (lx.groups.map _).isEmpty && (lx.roots.map _ == _)
    && ((lx.arena.moved base offset).operatorAt? _).isSome) = _
  rw [hroots, Arena.operatorAt?_moved, List.isEmpty_map]

/-- The owner of a bracket is found at the end of a path, which is why links must lead forward
here. -/
theorem moved_openBracket (h : lx.Forward) (bracket : Bracket) (anchor position : Nat) :
    (lx.openBracket bracket anchor position).moved base offset
      = (lx.moved base offset).openBracket bracket (base.size + anchor) (offset + position) := by
  have howner : (lx.moved base offset).arena.deepest (base.size + anchor)
      = base.size + lx.arena.deepest anchor := lx.arena.deepest_moved base offset h.arena anchor
  have hkind : ((lx.moved base offset).arena.get (base.size + lx.arena.deepest anchor)).kind
      = (lx.arena.get (lx.arena.deepest anchor)).kind :=
    lx.arena.comp_get_moved base offset Lexeme.kind _ fun _ => rfl
  have hvalue : ((lx.moved base offset).arena.get (base.size + lx.arena.deepest anchor)).value
      = (lx.arena.get (lx.arena.deepest anchor)).value :=
    lx.arena.comp_get_moved base offset Lexeme.value _ fun _ => rfl
  have hcalled := lx.arena.moved_modify base offset (lx.arena.deepest anchor)
    (f := fun l => { l with kind := .function }) (g := fun l => { l with kind := .function })
    fun _ => rfl
  unfold openBracket
  dsimp only
  rw [howner, hkind, hvalue]
  cases bracket with
  | square => rfl
  | round =>
      dsimp only
      split
      · simp [note, moved, Group.moved, Issue.moved, hcalled]
      · simp [moved, Group.moved, hcalled]

/-- **A dot or an opening bracket** does the same in both places. -/
theorem moved_delimit (h : lx.Forward) (delimiter : Delimiter) (position : Nat) :
    (lx.delimit delimiter position).moved base offset
      = (lx.moved base offset).delimit delimiter (offset + position) := by
  have hanchor := lx.anchor_moved base offset
  unfold delimit
  rw [show (lx.moved base offset).pending = lx.pending from rfl, hanchor]
  cases lx.pending with
  | start => exact lx.moved_note base offset _ _
  | delimiter previous => exact lx.moved_note base offset _ _
  | blank | adjacent =>
      dsimp only
      cases lx.anchor with
      | none => exact lx.moved_note base offset _ _
      | some anchor =>
          have hvalue : ((lx.moved base offset).arena.get (base.size + anchor)).value
              = (lx.arena.get anchor).value :=
            lx.arena.comp_get_moved base offset Lexeme.value anchor fun _ => rfl
          simp only [Option.map_some]
          rw [isOperatorAnchor_moved, hvalue]
          split
          · exact lx.moved_note base offset _ _
          · cases delimiter with
            | opening bracket =>
                dsimp only
                rw [← lx.moved_openBracket base offset h]
                rfl
            | dot | comma => rfl

/-- A comma looks at the innermost bracket and at what is pending, neither of which is moved. -/
theorem moved_comma (position : Nat) :
    (lx.comma position).moved base offset
      = (lx.moved base offset).comma (offset + position) := by
  have hround : ((lx.moved base offset).groups.head?.any fun group => group.bracket == .round)
      = lx.groups.head?.any fun group => group.bracket == .round := by
    cases hgroups : lx.groups with
    | nil => simp [moved, hgroups]
    | cons group outer => simp [moved, Group.moved, hgroups]
  unfold comma
  rw [show (lx.moved base offset).pending = lx.pending from rfl, hround]
  cases lx.pending with
  | start => exact lx.moved_note base offset _ _
  | delimiter previous => exact lx.moved_note base offset _ _
  | blank | adjacent =>
      dsimp only
      split
      · rfl
      · exact lx.moved_note base offset _ _

/-- Whether a closing bracket follows a delimiter at once is the same in both places; only where it
is noted is moved. -/
theorem moved_noteDoubled (closer : Bracket) (position : Nat) :
    (lx.noteDoubled closer position).moved base offset
      = (lx.moved base offset).noteDoubled closer (offset + position) := by
  unfold noteDoubled
  rw [show (lx.moved base offset).pending = lx.pending from rfl]
  cases lx.pending with
  | delimiter previous =>
      dsimp only
      split
      · rfl
      · exact lx.moved_note base offset _ _
  | start | blank | adjacent => rfl

/-- The brackets that are open are the same ones, so the same one is closed and the same is
noted. -/
theorem moved_closeBracket (closer : Bracket) (position : Nat) :
    (lx.closeBracket closer position).moved base offset
      = (lx.moved base offset).closeBracket closer (offset + position) := by
  have hdoubled := lx.moved_noteDoubled base offset closer position
  unfold closeBracket
  dsimp only
  rw [← hdoubled]
  generalize lx.noteDoubled closer position = doubled
  cases hgroups : lx.groups with
  | nil =>
      rw [show (lx.moved base offset).groups = [] by simp [moved, hgroups]]
      dsimp only
      rw [← moved_note]
      rfl
  | cons group outer =>
      rw [show (lx.moved base offset).groups
        = group.moved base.size :: outer.map fun other => other.moved base.size by
          simp [moved, hgroups]]
      dsimp only
      rw [show (group.moved base.size).bracket = group.bracket from rfl, ← moved_note]
      split <;> rfl

/-! ## §5. Characters. -/

/-- A literal goes on and ends with the same characters; its range is counted from the offset. -/
theorem moved_feedQuoted (id : Nat) (quote : Char) (escaping : Bool) (c : Char) (position : Nat) :
    (lx.feedQuoted id quote escaping c position).moved base offset
      = (lx.moved base offset).feedQuoted (base.size + id) quote escaping c
          (offset + position) := by
  have hpushed := lx.moved_pushChar base offset id c position
  have hclosed := lx.arena.moved_modify base offset id
    (f := fun l => { l with
      span := ⟨l.span.start, position + c.utf8Size⟩
      form := if quote == rawQuote then .plain else l.form })
    (g := fun l => { l with
      span := ⟨l.span.start, offset + position + c.utf8Size⟩
      form := if quote == rawQuote then .plain else l.form })
    fun l => by simp [Lexeme.moved, Span.moved, Nat.add_assoc]
  unfold feedQuoted
  rw [show (lx.moved base offset).escape = lx.escape from rfl, ← hpushed]
  by_cases hescaping : escaping = true
  · rw [if_pos hescaping, if_pos hescaping]
    rfl
  rw [if_neg hescaping, if_neg hescaping]
  by_cases hescape : (c == lx.escape) = true
  · rw [if_pos hescape, if_pos hescape]
    rfl
  rw [if_neg hescape, if_neg hescape]
  by_cases hquote : (c == quote) = true
  · rw [if_pos hquote, if_pos hquote]
    dsimp only
    rw [show (lx.moved base offset).arena = lx.arena.moved base offset from rfl, ← hclosed,
      Arena.comp_get_moved _ base offset Lexeme.value id fun _ => rfl]
    -- whether the literal is empty is read off its value, which is not moved
    generalize lx.arena.modify id _ = arena
    rw [show ((arena.get id).moved base.size offset).value = (arena.get id).value from rfl]
    split
    · exact congrArg endOperand (moved_note { lx with arena } base offset _ _)
    · rfl
  · rw [if_neg hquote, if_neg hquote]

/-- A character outside operands falls into the same case in both places. -/
theorem moved_feedBetween (h : lx.Forward) (c : Char) (position : Nat) :
    (lx.feedBetween c position).moved base offset
      = (lx.moved base offset).feedBetween c (offset + position) := by
  have hsize : (lx.moved base offset).arena.size = base.size + lx.arena.size :=
    lx.arena.size_moved base offset
  have hsign := lx.moved_operatorSign base offset h c position
  -- a literal and a caret start with a range of one character
  have hmarked : ∀ (form : LexemeForm) (kind : LexemeKind) (quote : Option Char),
      (lx.beginOperand { form, kind, quote, span := ⟨position, position + c.utf8Size⟩ }
          position).moved base offset
        = (lx.moved base offset).beginOperand
            { form, kind, quote, span := ⟨offset + position, offset + position + c.utf8Size⟩ }
            (offset + position) := by
    intro form kind quote
    rw [moved_beginOperand _ _ _ h rfl, Nat.add_assoc]
    rfl
  have hstarted : (lx.beginOperand (.startingAt .plain position) position).moved base offset
      = (lx.moved base offset).beginOperand (.startingAt .plain (offset + position))
          (offset + position) :=
    lx.moved_beginOperand base offset h rfl position
  unfold feedBetween
  dsimp only
  rw [show (lx.moved base offset).pending = lx.pending from rfl, hsize]
  by_cases hblank : isBlank c = true
  · rw [if_pos hblank, if_pos hblank]
    split <;> rfl
  rw [if_neg hblank, if_neg hblank]
  by_cases hequals : (c == '=' && lx.pending == .start) = true
  · rw [if_pos hequals, if_pos hequals]
    exact hsign
  rw [if_neg hequals, if_neg hequals]
  by_cases hcomment : (c == '#') = true
  · rw [if_pos hcomment, if_pos hcomment]
    split
    · show moved { lx.operatorSign c position with mode := .comment "" } base offset = _
      rw [← hsign]
      rfl
    · rfl
  rw [if_neg hcomment, if_neg hcomment]
  -- the other characters are told apart in the same way on both sides
  repeat' split
  · exact lx.moved_delimit base offset h _ position
  · exact lx.moved_delimit base offset h _ position
  · exact lx.moved_delimit base offset h _ position
  · exact lx.moved_comma base offset position
  · exact lx.moved_closeBracket base offset _ position
  · exact lx.moved_closeBracket base offset _ position
  · have hbegun := hmarked .relative .ancestor none
    rw [← hbegun]
    rfl
  · have hbegun := hmarked .quoted .plain (some c)
    rw [← hbegun]
    rfl
  · rw [← hstarted, ← moved_pushChar]
    rfl

/-- **A character does the same in both places.** -/
theorem moved_feed (h : lx.Forward) (c : Char) (position : Nat) :
    (lx.feed c position).moved base offset
      = (lx.moved base offset).feed c (offset + position) := by
  -- the position of the character is kept first
  have hfed : Forward { lx with lastPosition := position } := h.congr rfl h.arena rfl rfl
  have hlast : ({ lx.moved base offset with lastPosition := offset + position } : Lexer)
      = moved { lx with lastPosition := position } base offset := rfl
  unfold feed
  dsimp only
  rw [hlast, show (lx.moved base offset).mode
      = ({ lx with lastPosition := position } : Lexer).mode.moved base.size from rfl,
    show lx.mode = ({ lx with lastPosition := position } : Lexer).mode from rfl]
  generalize ({ lx with lastPosition := position } : Lexer) = fed at hfed ⊢
  cases fed.mode with
  | quoted id quote escaping => exact fed.moved_feedQuoted base offset id quote escaping c position
  | number id =>
      simp only [Mode.moved]
      split
      · exact fed.moved_pushChar base offset id c position
      · rw [← moved_endNumber]
        exact (fed.endNumber id position).moved_feedBetween base offset
          (hfed.endNumber id position) c position
  | bare id =>
      simp only [Mode.moved]
      split
      · exact fed.moved_pushChar base offset id c position
      · exact fed.endOperand.moved_feedBetween base offset hfed.endOperand c position
  | comment text => rfl
  | between => exact fed.moved_feedBetween base offset hfed c position

/-- By induction on the characters, each of which keeps the links leading forward. -/
theorem moved_feedAll (chars : List Char) :
    ∀ (lx : Lexer) (position : Nat), lx.Forward →
      (lx.feedAll position chars).moved base offset
        = (lx.moved base offset).feedAll (offset + position) chars := by
  induction chars with
  | nil => exact fun lx position h => rfl
  | cons c rest ih =>
      intro lx position h
      show ((lx.feed c position).feedAll (position + c.utf8Size) rest).moved base offset = _
      rw [ih _ _ (h.feed c position), moved_feed _ _ _ h, ← Nat.add_assoc]
      rfl

/-! ## §6. The end of a body. -/

/-- What was read is the same, with roots behind the base and issues behind the offset. -/
theorem expression_moved :
    (lx.moved base offset).expression = lx.expression.moved base.size offset := by
  unfold expression
  rw [show (lx.moved base offset).mode = lx.mode.moved base.size from rfl]
  cases lx.mode <;> rfl

/-- What is being read at the end of a body is ended alike in both places. -/
theorem moved_settle (position : Nat) :
    (lx.settle position).moved base offset
      = (lx.moved base offset).settle (offset + position) := by
  unfold settle
  rw [show (lx.moved base offset).mode = lx.mode.moved base.size from rfl]
  cases lx.mode with
  | quoted id quote escaping =>
      exact congrArg endOperand (lx.moved_note base offset .openLiteral lx.lastPosition)
  | number id => exact lx.moved_endNumber base offset id position
  | bare id => rfl
  | between | comment text => rfl

/-- **The checks at the end of a body find the same.** -/
theorem moved_complete (position : Nat) :
    (lx.complete position).moved base offset
      = (lx.moved base offset).complete (offset + position) := by
  -- one after the other, each on what the checks before it have left
  have hbrackets : ∀ x : Lexer, (if x.groups.isEmpty then x
        else x.note (.openAtEnd (x.groups.map Group.bracket).reverse) position).moved base offset
      = if (x.moved base offset).groups.isEmpty then x.moved base offset
        else (x.moved base offset).note
          (.openAtEnd ((x.moved base offset).groups.map Group.bracket).reverse)
          (offset + position) := by
    intro x
    have hsame : (x.moved base offset).groups.map Group.bracket = x.groups.map Group.bracket := by
      show (x.groups.map _).map _ = _
      rw [List.map_map]
      rfl
    rw [hsame, show (x.moved base offset).groups.isEmpty = x.groups.isEmpty by simp [moved]]
    split
    · rfl
    · exact x.moved_note base offset _ _
  have hempty : ∀ x : Lexer, (if x.roots.isEmpty && x.expression.comment.isNone then
        x.note .emptyBody position else x).moved base offset
      = if (x.moved base offset).roots.isEmpty
            && (x.moved base offset).expression.comment.isNone then
          (x.moved base offset).note .emptyBody (offset + position)
        else x.moved base offset := by
    intro x
    rw [x.expression_moved base offset,
      show (x.moved base offset).roots.isEmpty = x.roots.isEmpty by simp [moved]]
    show _ = if x.roots.isEmpty && x.expression.comment.isNone then _ else _
    split
    · exact x.moved_note base offset _ _
    · rfl
  unfold complete
  rw [← moved_settle]
  generalize lx.settle position = settled
  dsimp only
  rw [show (settled.moved base offset).pending = settled.pending from rfl]
  cases settled.pending with
  | delimiter delimiter =>
      dsimp only
      rw [hempty, hbrackets, moved_note]
  | start | blank | adjacent =>
      dsimp only
      rw [hempty, hbrackets]

/-- A body that is closed holds the same in both places. -/
theorem finish_moved (position : Nat) :
    (lx.moved base offset).finish (offset + position)
      = (lx.finish position).moved base.size offset := by
  unfold finish
  rw [← moved_complete, expression_moved]

/-- What was noted of a body that is cut off, and whether a literal is open there. -/
theorem issues_abandon :
    lx.abandon.issues = lx.issues
      ++ if lx.inLiteral then [{ cause := .openLiteral, position := lx.lastPosition }] else [] := by
  unfold abandon
  split
  · rfl
  · exact (List.append_nil _).symm

/-- So does a body that the end of the text cuts off. -/
theorem abandon_moved :
    (lx.moved base offset).abandon = lx.abandon.moved base.size offset := by
  have hliteral : (lx.moved base offset).inLiteral = lx.inLiteral := by
    unfold inLiteral
    rw [show (lx.moved base offset).mode = lx.mode.moved base.size from rfl]
    cases lx.mode <;> rfl
  have hnoted : (lx.moved base offset).note .openLiteral (offset + lx.lastPosition)
      = (lx.note .openLiteral lx.lastPosition).moved base offset :=
    (lx.moved_note base offset _ _).symm
  unfold abandon
  rw [hliteral]
  split
  · rw [show (lx.moved base offset).lastPosition = offset + lx.lastPosition from rfl, hnoted,
      expression_moved]
  · exact lx.expression_moved base offset

/-! ## §7. Whole bodies. -/

/-- A lexer that starts behind other lexemes is the moved one, but for the position of a last
character that there is not yet. -/
theorem moved_start (escape : Char) :
    moved { arena := {}, escape } base offset
      = { arena := base, escape, lastPosition := offset } := by
  simp [moved, Arena.moved, Mode.moved]

/-- From the first character on there is a last one, so the lexers are the same up to moving. -/
theorem feedAll_elsewhere (escape c : Char) (rest : List Char) :
    feedAll { arena := base, escape } offset (c :: rest)
      = (feedAll { arena := {}, escape } 0 (c :: rest)).moved base offset := by
  rw [moved_feedAll base offset _ _ 0 (forward_start escape), moved_start]
  rfl

/-- **A complete body holds the same wherever it stands.** -/
theorem finish_elsewhere (escape : Char) (body : String) :
    (feedAll { arena := base, escape } offset body.toList).finish (offset + body.utf8ByteSize)
      = (Expression.read body escape).2.moved base.size offset := by
  unfold Expression.read
  dsimp only
  cases body.toList with
  | nil =>
      -- nothing was fed, and the last position counts in a literal only
      show _ = ((⟨{}, escape, .between, .start, none, [], [], [], 0⟩ : Lexer).finish _).moved _ _
      rw [← finish_moved, moved_start]
      rfl
  | cons c rest => rw [feedAll_elsewhere, finish_moved]

/-- **A body that is cut off holds the same wherever it stands.** -/
theorem abandon_elsewhere (escape : Char) (chars : List Char) :
    (feedAll { arena := base, escape } offset chars).abandon
      = (feedAll { arena := {}, escape } 0 chars).abandon.moved base.size offset := by
  cases chars with
  | nil => rfl
  | cons c rest => rw [feedAll_elsewhere, abandon_moved]

end Lexer

end LayerTemplates
