/-
  LayerTemplates.Proofs.Expression.Hanging
  ────────────────────────────────────────
  One operand is read, and hung where it belongs.

  What stands before an operand decides where it is hung: it is the first lexeme of all, follows
  another root, is the next step of a path, or stands in a bracket as the first operand or after a
  comma.  In each of these places the new lexeme gets its role and the links that lead back, one
  older lexeme gets a link to it, and nothing else changes.

  The characters of the operand come after that, and they change the new lexeme only.  A word and a
  number end where the next character is seen, so what follows has to be known not to go on with
  them; with this proviso the lexer has become one that rests after the operand.

  Main statements:
    * `Lexer.hangs_first`, `hangs_root`, `hangs_step`, `hangs_element`, `hangs_argument`,
      `hangs_further` — the places.
    * `Lexer.Hangs.reads` — an operand is read and hung.
-/
import LayerTemplates.Proofs.Expression.Drawing
import LayerTemplates.Proofs.Layer.Naming

namespace LayerTemplates

/-! ## §1. Lexers that become others. -/

namespace Lexer

/-- What the rest of a body leads to: the arena and what was read. -/
def outcome (lx : Lexer) (position : Nat) (rest : List Char) (stop : Nat) : Arena × Expression :=
  ((lx.feedAll position rest).arena, (lx.feedAll position rest).finish stop)

/-- Whatever follows, if it goes on with no word, the characters take one lexer to another. -/
def Becomes (lx : Lexer) (position : Nat) (chars : List Char) (after : Lexer) : Prop :=
  ∀ rest stop, Stops rest → lx.outcome position (chars ++ rest) stop
    = after.outcome (position + byteCount chars) rest stop

variable {lx between after : Lexer} {position : Nat} {front chars : List Char}

theorem Becomes.refl (lx : Lexer) (position : Nat) : lx.Becomes position [] lx :=
  fun _ _ _ => rfl

/-- Characters that go on with no word after others. -/
theorem Becomes.append (h : lx.Becomes position front between)
    (h' : between.Becomes (position + byteCount front) chars after)
    (hstops : ∀ rest, Stops rest → Stops (chars ++ rest)) :
    lx.Becomes position (front ++ chars) after := by
  intro rest stop hrest
  rw [List.append_assoc, h _ _ (hstops rest hrest), h' rest stop hrest, byteCount_append,
    Nat.add_assoc]

/-- The characters in front are fed first, and the rest leads on from there. -/
theorem outcome_append (lx : Lexer) (position : Nat) (front rest : List Char) (stop : Nat) :
    lx.outcome position (front ++ rest) stop
      = (lx.feedAll position front).outcome (position + byteCount front) rest stop := by
  unfold outcome
  rw [feedAll_append]

/-- Characters that are read whatever follows. -/
theorem Becomes.fed (hfed : lx.feedAll position front = between)
    (h : between.Becomes (position + byteCount front) chars after) :
    lx.Becomes position (front ++ chars) after := by
  intro rest stop hrest
  rw [List.append_assoc, outcome_append, hfed, h rest stop hrest, byteCount_append, Nat.add_assoc]

/-! ## §2. The end of a word. -/

/-- What does not go on with a word ends it. -/
theorem outcome_bare {id : Nat} {rest : List Char} (hmode : lx.mode = .bare id)
    (hrest : Stops rest) (stop : Nat) :
    lx.outcome position rest stop = lx.endOperand.outcome position rest stop := by
  obtain ⟨arena, escape, mode, pending, last, groups, roots, issues, lastPosition⟩ := lx
  obtain rfl : mode = .bare id := hmode
  cases rest with
  | nil => rfl
  | cons c rest =>
      unfold outcome feedAll feed
      dsimp only [endOperand]
      rw [hrest c rfl]
      rfl

/-- So it does with the digits after a caret, if there is one. -/
theorem outcome_number {id : Nat} {rest : List Char} (hmode : lx.mode = .number id)
    (hvalue : (lx.arena.get id).value.isEmpty = false) (hrest : Stops rest) (stop : Nat) :
    lx.outcome position rest stop = lx.endOperand.outcome position rest stop := by
  obtain ⟨arena, escape, mode, pending, last, groups, roots, issues, lastPosition⟩ := lx
  obtain rfl : mode = .number id := hmode
  have hended : ∀ (position lastPosition : Nat),
      endNumber ⟨arena, escape, .number id, pending, last, groups, roots, issues, lastPosition⟩ id
        position
      = endOperand ⟨arena, escape, .number id, pending, last, groups, roots, issues,
          lastPosition⟩ := by
    intro position lastPosition
    unfold endNumber
    exact if_neg (by rw [show (Arena.get _ id).value.isEmpty = false from hvalue]; simp)
  cases rest with
  | nil =>
      unfold outcome feedAll finish complete settle
      dsimp only
      rw [hended]
      rfl
  | cons c rest =>
      have hdigit : c.isDigit = false := by
        cases hc : c.isDigit with
        | false => rfl
        | true =>
            have hlexeme := isLexemeChar_of_isDigit hc
            rw [hrest c rfl] at hlexeme
            exact absurd hlexeme (by simp)
      unfold outcome feedAll feed
      dsimp only
      rw [hdigit, hended]
      rfl

end Lexer

/-! ## §3. The characters of an operand. -/

/-- Of one lexeme of an arena the value and the form were written, and how far it reaches. -/
structure Arena.Respelt (a a' : Arena) (id : Nat) (value : String) (form : LexemeForm) : Prop where
  size : a'.size = a.size
  others : ∀ j, j ≠ id → a'.get j = a.get j
  self : ∃ stop, a'.get id = { a.get id with value, form, span := ⟨(a.get id).span.start, stop⟩ }

namespace Arena

variable {a a' a'' : Arena} {id : Nat} {value value' : String} {form form' : LexemeForm}

theorem Respelt.refl (a : Arena) (id : Nat) :
    a.Respelt a id (a.get id).value (a.get id).form :=
  ⟨rfl, fun _ _ => rfl, (a.get id).span.stop, rfl⟩

/-- Characters that are added one after the other change the same lexeme, and no link of it. -/
theorem Respelt.trans (h : a.Respelt a' id value form) (h' : a'.Respelt a'' id value' form') :
    a.Respelt a'' id value' form' where
  size := h'.size.trans h.size
  others j hj := (h'.others j hj).trans (h.others j hj)
  self := by
    obtain ⟨stop, hself⟩ := h.self
    obtain ⟨stop', hself'⟩ := h'.self
    rw [hself] at hself'
    exact ⟨stop', hself'⟩

theorem Respelt.value_eq (h : a.Respelt a' id value form) : (a'.get id).value = value := by
  obtain ⟨stop, hself⟩ := h.self
  rw [hself]

theorem Respelt.form_eq (h : a.Respelt a' id value form) : (a'.get id).form = form := by
  obtain ⟨stop, hself⟩ := h.self
  rw [hself]

end Arena

namespace Lexer

variable {lx : Lexer} {id : Nat}

/-- One character is added to the operand that is being read, and all other lexemes stay. -/
theorem respelt_pushChar (lx : Lexer) (hid : id < lx.arena.size) (c : Char) (position : Nat) :
    lx.arena.Respelt (lx.pushChar id c position).arena id ((lx.arena.get id).value.push c)
      (lx.arena.get id).form where
  size := Arena.size_modify _ _ _
  others _ hj := Arena.get_modify_of_ne _ _ hj
  self := ⟨position + c.utf8Size, Arena.get_modify_self _ _ hid⟩

theorem push_append_ofList (value : String) (c : Char) (chars : List Char) :
    value.push c ++ String.ofList chars = value ++ String.ofList (c :: chars) := by
  rw [String.ofList_cons, String.push_eq_append, String.append_assoc]

/-- Characters that are added to an operand one by one. -/
theorem feedAll_pushed {mode : Mode} (chars : List Char)
    (hpush : ∀ c ∈ chars, ∀ (lx : Lexer) (position : Nat), lx.mode = mode →
      lx.feed c position = { lx.pushChar id c position with lastPosition := position }) :
    ∀ (lx : Lexer) (position : Nat), lx.mode = mode → id < lx.arena.size →
      ∃ a last, lx.feedAll position chars = { lx with arena := a, lastPosition := last }
        ∧ lx.arena.Respelt a id ((lx.arena.get id).value ++ String.ofList chars)
          (lx.arena.get id).form := by
  induction chars with
  | nil =>
      intro lx position _ _
      refine ⟨lx.arena, lx.lastPosition, rfl, ?_⟩
      rw [String.ofList_nil, String.append_empty]
      exact .refl _ _
  | cons c chars ih =>
      intro lx position hmode hid
      have hpushed := respelt_pushChar lx hid c position
      obtain ⟨a, last, hfed, hspelt⟩ := ih (fun d hd => hpush d (List.mem_cons_of_mem _ hd))
        { lx.pushChar id c position with lastPosition := position } (position + c.utf8Size) hmode
        (hpushed.size ▸ hid)
      refine ⟨a, last, ?_, ?_⟩
      · show (lx.feed c position).feedAll _ chars = _
        rw [hpush c List.mem_cons_self lx position hmode, hfed]
        rfl
      · have hboth := hpushed.trans hspelt
        rw [hpushed.value_eq, hpushed.form_eq, push_append_ofList] at hboth
        exact hboth

/-- The characters of a word change nothing but its lexeme; by induction, with the word read so
far. -/
theorem feedAll_word (lx : Lexer) {w : List Char} (hw : ∀ c ∈ w, isLexemeChar c = true)
    (hmode : lx.mode = .bare id) (hid : id < lx.arena.size) (position : Nat) :
    ∃ a last, lx.feedAll position w = { lx with arena := a, lastPosition := last }
      ∧ lx.arena.Respelt a id ((lx.arena.get id).value ++ String.ofList w)
        (lx.arena.get id).form := by
  refine feedAll_pushed w (fun c hc lx position hmode => ?_) lx position hmode hid
  obtain ⟨arena, escape, mode, pending, last, groups, roots, issues, lastPosition⟩ := lx
  obtain rfl : mode = .bare id := hmode
  exact if_pos (hw c hc)

/-- The digits behind a caret are read like the characters of a word. -/
theorem feedAll_digits (lx : Lexer) {digits : List Char} (hdigits : ∀ c ∈ digits, c.isDigit = true)
    (hmode : lx.mode = .number id) (hid : id < lx.arena.size) (position : Nat) :
    ∃ a last, lx.feedAll position digits = { lx with arena := a, lastPosition := last }
      ∧ lx.arena.Respelt a id ((lx.arena.get id).value ++ String.ofList digits)
        (lx.arena.get id).form := by
  refine feedAll_pushed digits (fun c hc lx position hmode => ?_) lx position hmode hid
  obtain ⟨arena, escape, mode, pending, last, groups, roots, issues, lastPosition⟩ := lx
  obtain rfl : mode = .number id := hmode
  exact if_pos (hdigits c hc)

/-- In a literal the characters extend the value of its operand. -/
def Extending (escape quote : Char) (id : Nat) (s value : List Char) : Prop :=
  ∀ (lx : Lexer) (position : Nat), lx.escape = escape → lx.mode = .quoted id quote false →
    id < lx.arena.size →
    ∃ a last, lx.feedAll position s = { lx with arena := a, lastPosition := last }
      ∧ lx.arena.Respelt a id ((lx.arena.get id).value ++ String.ofList value)
        (lx.arena.get id).form

/-- A character, with an escape character before it or without, and then others. -/
theorem Extending.cons {escape quote c : Char} {s value front : List Char}
    (h : Extending escape quote id s value)
    (hfront : ∀ (lx : Lexer) (position : Nat), lx.escape = escape → lx.mode = .quoted id quote false →
      ∃ place, lx.feedAll position front = { lx.pushChar id c place with lastPosition := place }) :
    Extending escape quote id (front ++ s) (c :: value) := by
  intro lx position hescape hmode hid
  obtain ⟨place, hfed⟩ := hfront lx position hescape hmode
  have hpushed := respelt_pushChar lx hid c place
  obtain ⟨a, last, hothers, hspelt⟩ := h
    { lx.pushChar id c place with lastPosition := place } (position + byteCount front) hescape
    hmode (hpushed.size ▸ hid)
  refine ⟨a, last, ?_, ?_⟩
  · rw [feedAll_append, hfed, hothers]
    rfl
  · have hboth := hpushed.trans hspelt
    rw [hpushed.value_eq, hpushed.form_eq, push_append_ofList] at hboth
    exact hboth

/-- What is written between quotes is added to the literal, without the escape characters. -/
theorem extending_literalText {escape quote : Char} {s value : List Char}
    (h : LiteralText escape quote s value) : Extending escape quote id s value := by
  induction h with
  | nil =>
      intro lx position _ _ _
      refine ⟨lx.arena, lx.lastPosition, rfl, ?_⟩
      rw [String.ofList_nil, String.append_empty]
      exact .refl _ _
  | @plain c s value notEscape notQuote rest ih =>
      show Extending escape quote id ([c] ++ s) (c :: value)
      refine ih.cons fun lx position hescape hmode => ⟨position, ?_⟩
      obtain ⟨arena, escape', mode, pending, last, groups, roots, issues, lastPosition⟩ := lx
      obtain rfl : escape' = escape := hescape
      obtain rfl : mode = .quoted id quote false := hmode
      unfold feedAll feed feedQuoted
      dsimp only
      rw [if_neg (by simp), if_neg (by simpa using notEscape), if_neg (by simpa using notQuote)]
      rfl
  | @escaped c s value rest ih =>
      show Extending escape quote id ([escape, c] ++ s) (c :: value)
      refine ih.cons fun lx position hescape hmode => ⟨position + escape.utf8Size, ?_⟩
      obtain ⟨arena, escape', mode, pending, last, groups, roots, issues, lastPosition⟩ := lx
      obtain rfl : escape' = escape := hescape
      obtain rfl : mode = .quoted id quote false := hmode
      unfold feedAll feed feedQuoted
      dsimp only
      rw [if_neg (by simp), if_pos (by simp)]
      rfl

end Lexer

/-! ## §4. Places. -/

/-- An arena has one lexeme more than before: a step that was just read, at a place.  One older
lexeme may be linked to it. -/
structure Arena.Gains (a a' : Arena) (s : Step) (place : Place) (source : Option Nat)
    (link : Lexeme → Lexeme) : Prop where
  size : a'.size = a.size + 1
  new : a'.view a.size = s.lexeme place none none none
  others : ∀ j < a.size, a'.view j = if source = some j then link (a.view j) else a.view j

namespace Lexer

/-- An operand that starts now is hung at a place: it takes the kind of a group, one older lexeme
may be linked to it, and the lexer is another one apart from the arena. -/
def Hangs (lx after : Lexer) (group : LexemeKind) (place : Place) (source : Option Nat)
    (link : Lexeme → Lexeme) : Prop :=
  ∀ (l : Lexeme) (position last : Nat), l.Unlinked → l.role = .root →
    ∃ a, beginOperand { lx with lastPosition := last } l position
        = { after with arena := a, lastPosition := last }
      ∧ a.size = lx.arena.size + 1
      ∧ a.get lx.arena.size = (l.grouped group).hung place
      ∧ ∀ j < lx.arena.size,
        a.view j = if source = some j then link (lx.arena.view j) else lx.arena.view j

variable {lx : Lexer} {group : Group} {outer : List Group} {x z : Nat}

/-- Lexemes that are linked when they have just been allocated. -/
theorem gets_linked (a : Arena) (l : Lexeme) {x : Nat} (hx : x < a.size) (f g : Lexeme → Lexeme) :
    let linked := ((a.alloc l).modify x f).modify a.size g
    linked.size = a.size + 1 ∧ linked.get a.size = g l
      ∧ ∀ j < a.size, linked.get j = if x = j then f (a.get j) else a.get j := by
  intro linked
  have hne : a.size ≠ x := Nat.ne_of_gt hx
  refine ⟨by rw [Arena.size_modify, Arena.size_modify, Arena.size_alloc], ?_, ?_⟩
  · show (Arena.modify _ a.size g).get a.size = g l
    rw [Arena.get_modify_self _ _ (by simp), Arena.get_modify_of_ne _ _ hne, Arena.get_alloc,
      if_pos rfl]
  · intro j hj
    show (Arena.modify _ a.size g).get j = _
    rw [Arena.get_modify_of_ne _ _ (Nat.ne_of_lt hj)]
    by_cases hjx : x = j
    · rw [if_pos hjx, ← hjx, Arena.get_modify_self _ _ (Arena.lt_size_alloc hx l), Arena.get_alloc,
        if_neg (Ne.symm hne)]
    · rw [if_neg hjx, Arena.get_modify_of_ne _ _ (Ne.symm hjx), Arena.get_alloc,
        if_neg (Nat.ne_of_lt hj)]

/-- What a link does to a lexeme it does to the lexeme without its range. -/
theorem view_of_get {a a' : Arena} {x j : Nat} {f : Lexeme → Lexeme}
    (hf : ∀ l : Lexeme, (f l).unspanned = f l.unspanned)
    (h : a'.get j = if x = j then f (a.get j) else a.get j) :
    a'.view j = if some x = some j then f (a.view j) else a.view j := by
  unfold Arena.view
  rw [h]
  by_cases hj : x = j
  · rw [if_pos hj, if_pos (congrArg some hj), hf]
  · rw [if_neg hj, if_neg fun heq => hj (Option.some.inj heq)]

/-- A lexeme that was just allocated is hung by its role and by the links that lead back; where a
place has none of them there is nothing to do. -/
theorem hung_of_unlinked {l : Lexeme} (h : l.Unlinked) (hrole : l.role = .root)
    (role : Role) (parent prev : Option Nat) :
    { l with role, parent, prev } = l.hung { role, parent, prev }
      ∧ (prev = none → { l with role, parent } = l.hung { role, parent, prev })
      ∧ (role = .root → parent = none → prev = none → l = l.hung { role, parent, prev }) := by
  obtain ⟨value, form, kind, role', quote, span, child, firstArg, next, parent', prev'⟩ := l
  simp only [Lexeme.Unlinked, Lexeme.wires, List.cons.injEq] at h
  obtain ⟨rfl, rfl, rfl, rfl, rfl, -⟩ := h
  obtain rfl : role' = .root := hrole
  refine ⟨rfl, ?_, ?_⟩
  · rintro rfl
    rfl
  · rintro rfl rfl rfl
    rfl

theorem grouped_plain (l : Lexeme) : l.grouped .plain = l := by
  unfold Lexeme.grouped
  split
  · next hkind => rw [← hkind]
  · rfl

/-- The kind of a lexeme and its place are set apart from each other. -/
theorem grouped_hung (l : Lexeme) (kind : LexemeKind) (place : Place) :
    (l.hung place).grouped kind = (l.grouped kind).hung place := by
  unfold Lexeme.grouped
  by_cases h : l.kind = .plain
  · rw [if_pos h, if_pos (show (l.hung place).kind = .plain from h)]
    rfl
  · rw [if_neg h, if_neg (show ¬ (l.hung place).kind = .plain from h)]

/-- The first operand of a body. -/
theorem hangs_first (hpending : lx.pending = .start) (hgroups : lx.groups = []) :
    lx.Hangs { lx with roots := lx.roots ++ [lx.arena.size], last := some lx.arena.size } .plain
      { role := .root } none id := by
  intro l position last hl hrole
  obtain ⟨arena, escape, mode, pending, last', groups, roots, issues, lastPosition⟩ := lx
  obtain rfl : pending = .start := hpending
  obtain rfl : groups = [] := hgroups
  refine ⟨arena.alloc l, rfl, Arena.size_alloc _ _, ?_, ?_⟩
  · rw [Arena.get_alloc, if_pos rfl, grouped_plain]
    exact (hung_of_unlinked hl hrole _ _ _).2.2 rfl rfl rfl
  · intro j hj
    unfold Arena.view
    rw [Arena.get_alloc, if_neg (Nat.ne_of_lt hj), if_neg (by simp)]

/-- A further root. -/
theorem hangs_root (hpending : lx.pending = .blank) (hgroups : lx.groups = [])
    (hlast : lx.last = some x) (hx : x < lx.arena.size) :
    lx.Hangs { lx with roots := lx.roots ++ [lx.arena.size], last := some lx.arena.size } .plain
      { role := .sibling, parent := (lx.arena.view x).parent, prev := some x } (some x)
      fun l => { l with next := some lx.arena.size } := by
  intro l position last hl hrole
  obtain ⟨arena, escape, mode, pending, last', groups, roots, issues, lastPosition⟩ := lx
  obtain rfl : pending = .blank := hpending
  obtain rfl : groups = [] := hgroups
  obtain rfl : last' = some x := hlast
  have hparent : (((arena.alloc l).modify x fun l => { l with next := some arena.size }).get
      x).parent = (arena.get x).parent := by
    rw [Arena.get_modify_self _ _ (Arena.lt_size_alloc hx l), Arena.get_alloc,
      if_neg (Nat.ne_of_lt hx)]
  obtain ⟨hsize, hnew, hothers⟩ := gets_linked arena l hx
    (fun l => { l with next := some arena.size })
    fun l => { l with prev := some x, parent := (arena.get x).parent, role := .sibling }
  refine ⟨(arena.alloc l).attachNext x arena.size, rfl, ?_, ?_, ?_⟩ <;>
    unfold Arena.attachNext <;> dsimp only <;> rw [hparent]
  · exact hsize
  · rw [hnew, grouped_plain]
    exact (hung_of_unlinked hl hrole .sibling _ _).1
  · exact fun j hj => view_of_get (f := fun l => { l with next := some arena.size })
      (fun _ => rfl) (hothers j hj)

/-- The next step of a path. -/
theorem hangs_step {called : Bool} (hpending : lx.pending = .delimiter .dot)
    (hanchor : lx.anchor = some x) (hz : lx.arena.Ends x z called) :
    lx.Hangs lx .plain { role := .child, parent := some z } (some z)
      fun l => { l with child := some lx.arena.size } := by
  intro l position last hl hrole
  obtain ⟨arena, escape, mode, pending, last', groups, roots, issues, lastPosition⟩ := lx
  obtain rfl : pending = .delimiter .dot := hpending
  -- the path ends where it ended before the lexeme was allocated
  have hadds : arena.Adds (arena.alloc l) l arena.size := arena.adds_alloc l
  have hend : (arena.alloc l).deepest x = z :=
    (hz.kept hadds.kept (Nat.le_of_lt hadds.size_lt)).deepest_eq
  obtain ⟨hsize, hnew, hothers⟩ := gets_linked arena l hz.inside
    (fun l => { l with child := some arena.size })
    fun l => { l with parent := some z, role := .child }
  refine ⟨(arena.alloc l).attachChild z arena.size, ?_, hsize, ?_, ?_⟩
  · rw [anchor_eq] at hanchor
    dsimp only at hanchor
    unfold beginOperand joinOperand
    dsimp only
    rw [anchor_eq]
    dsimp only
    rw [hanchor]
    dsimp only
    rw [hend]
  · rw [grouped_plain]
    exact hnew.trans ((hung_of_unlinked hl hrole .child _ _).2.1 rfl)
  · exact fun j hj => view_of_get (f := fun l => { l with child := some arena.size })
      (fun _ => rfl) (hothers j hj)

/-- What stands in square brackets. -/
theorem hangs_element (hpending : lx.pending = .delimiter (.opening .square))
    (hgroups : lx.groups = group :: outer) (hz : group.owner < lx.arena.size) :
    lx.Hangs { lx with groups := { group with last := some lx.arena.size } :: outer } .element
      { role := .child, parent := some group.owner } (some group.owner)
      fun l => { l with child := some lx.arena.size } := by
  intro l position last hl hrole
  obtain ⟨arena, escape, mode, pending, last', groups, roots, issues, lastPosition⟩ := lx
  obtain rfl : pending = .delimiter (.opening .square) := hpending
  obtain rfl : groups = group :: outer := hgroups
  dsimp only at hz ⊢
  obtain ⟨hsize, hnew, hothers⟩ := gets_linked arena l hz
    (fun l => { l with child := some arena.size })
    fun l => { l with parent := some group.owner, role := .child }
  refine ⟨((arena.alloc l).attachChild group.owner arena.size).modify arena.size
    (Lexeme.grouped .element), rfl, ?_, ?_, ?_⟩
  · rw [Arena.size_modify]
    exact hsize
  · have hinside : arena.size < ((arena.alloc l).attachChild group.owner arena.size).size := by
      rw [Arena.size_attachChild, Arena.size_alloc]
      exact Nat.lt_succ_self _
    rw [Arena.get_modify_self _ _ hinside]
    show ((Arena.modify _ _ _).get arena.size).grouped _ = _
    rw [hnew, (hung_of_unlinked hl hrole .child _ _).2.1 rfl, grouped_hung]
  · intro j hj
    refine view_of_get (f := fun l => { l with child := some arena.size }) (fun _ => rfl) ?_
    rw [Arena.get_modify_of_ne _ _ (Nat.ne_of_lt hj)]
    exact hothers j hj

/-- The first argument of a list. -/
theorem hangs_argument (hpending : lx.pending = .delimiter (.opening .round))
    (hgroups : lx.groups = group :: outer) (hz : group.owner < lx.arena.size) :
    lx.Hangs { lx with groups := { group with last := some lx.arena.size } :: outer } .argument
      { role := .firstArg, parent := some group.owner } (some group.owner)
      fun l => { l with firstArg := some lx.arena.size, kind := .function } := by
  intro l position last hl hrole
  obtain ⟨arena, escape, mode, pending, last', groups, roots, issues, lastPosition⟩ := lx
  obtain rfl : pending = .delimiter (.opening .round) := hpending
  obtain rfl : groups = group :: outer := hgroups
  dsimp only at hz ⊢
  obtain ⟨hsize, hnew, hothers⟩ := gets_linked arena l hz
    (fun l => { l with firstArg := some arena.size, kind := .function })
    fun l => { l with parent := some group.owner, role := .firstArg }.grouped .argument
  refine ⟨(arena.alloc l).attachFirstArg group.owner arena.size, rfl, hsize, ?_, ?_⟩
  · refine hnew.trans ?_
    show Lexeme.grouped _ _ = _
    rw [(hung_of_unlinked hl hrole .firstArg _ _).2.1 rfl, grouped_hung]
  · exact fun j hj => view_of_get
      (f := fun l => { l with firstArg := some arena.size, kind := .function })
      (fun _ => rfl) (hothers j hj)

/-- A further argument of a list. -/
theorem hangs_further (hpending : lx.pending = .delimiter .comma)
    (hgroups : lx.groups = group :: outer) (hround : group.bracket = .round)
    (hlast : group.last = some x) (hx : x < lx.arena.size) :
    lx.Hangs { lx with groups := { group with last := some lx.arena.size } :: outer } .argument
      { role := .sibling, parent := (lx.arena.view x).parent, prev := some x } (some x)
      fun l => { l with next := some lx.arena.size } := by
  intro l position last hl hrole
  obtain ⟨arena, escape, mode, pending, last', groups, roots, issues, lastPosition⟩ := lx
  obtain rfl : pending = .delimiter .comma := hpending
  obtain rfl : groups = group :: outer := hgroups
  obtain ⟨bracket, owner, glast⟩ := group
  obtain rfl : bracket = .round := hround
  obtain rfl : glast = some x := hlast
  dsimp only at hx ⊢
  -- a further argument takes over the parent of the one before it
  have hparent : (((arena.alloc l).modify x fun l => { l with next := some arena.size }).get
      x).parent = (arena.get x).parent := by
    rw [Arena.get_modify_self _ _ (Arena.lt_size_alloc hx l), Arena.get_alloc,
      if_neg (Nat.ne_of_lt hx)]
  obtain ⟨hsize, hnew, hothers⟩ := gets_linked arena l hx
    (fun l => { l with next := some arena.size })
    fun l => { l with prev := some x, parent := (arena.get x).parent, role := .sibling }
  refine ⟨((arena.alloc l).attachNext x arena.size).modify arena.size (Lexeme.grouped .argument),
    rfl, ?_, ?_, ?_⟩
  · rw [Arena.size_modify, Arena.size_attachNext, Arena.size_alloc]
  · have hinside : arena.size < ((arena.alloc l).attachNext x arena.size).size := by
      rw [Arena.size_attachNext, Arena.size_alloc]
      exact Nat.lt_succ_self _
    rw [Arena.get_modify_self _ _ hinside]
    unfold Arena.attachNext
    dsimp only
    rw [hparent, hnew, (hung_of_unlinked hl hrole .sibling _ _).1, grouped_hung]
    rfl
  · intro j hj
    refine view_of_get (f := fun l => { l with next := some arena.size }) (fun _ => rfl) ?_
    rw [Arena.get_modify_of_ne _ _ (Nat.ne_of_lt hj)]
    unfold Arena.attachNext
    dsimp only
    rw [hparent]
    exact hothers j hj

/-! ## §5. Operands. -/

variable {after : Lexer} {place : Place} {source : Option Nat} {link : Lexeme → Lexeme}
  {kind : LexemeKind} {position : Nat}

/-- An operand that was begun is there when its characters have been read. -/
theorem gains_of_respelt {a a' a'' : Arena} {l : Lexeme} {o : Operand} (hl : l.Unlinked)
    (hquote : l.quote = o.quote) (hkind : (l.grouped kind).kind = o.kindIn kind)
    (hsize : a'.size = a.size + 1) (hnew : a'.get a.size = (l.grouped kind).hung place)
    (hothers : ∀ j < a.size, a'.view j = if source = some j then link (a.view j) else a.view j)
    (hspelt : a'.Respelt a'' a.size o.value o.form) :
    a.Gains a'' (o.step kind) place source link := by
  obtain ⟨stop, hself⟩ := hspelt.self
  rw [hnew] at hself
  -- taking the kind of a group changes nothing else
  have hgrouped : l.grouped kind = { l with kind := (l.grouped kind).kind } := by
    unfold Lexeme.grouped
    split <;> rfl
  rw [hgrouped, hkind] at hself
  refine ⟨hspelt.size.trans hsize, ?_, fun j hj => ?_⟩
  · obtain ⟨value, form, kind', role', quote, span, child, firstArg, next, parent', prev'⟩ := l
    simp only [Lexeme.Unlinked, Lexeme.wires, List.cons.injEq] at hl
    obtain ⟨rfl, rfl, rfl, rfl, rfl, -⟩ := hl
    obtain rfl : quote = o.quote := hquote
    unfold Arena.view
    rw [hself]
    rfl
  · unfold Arena.view
    rw [hspelt.others j (Nat.ne_of_lt hj)]
    exact hothers j hj

/-- A character of a word starts an operand, unless it is the sign that leads the body. -/
theorem feedBetween_word (lx : Lexer) {c : Char} (hc : isLexemeChar c = true)
    (hsign : lx.pending = .start → c ≠ '=') (position : Nat) :
    lx.feedBetween c position
      = { (lx.beginOperand (.startingAt .plain position) position).pushChar lx.arena.size c
          position with mode := .bare lx.arena.size } := by
  have hne : ∀ d, isLexemeChar d = false → ¬ (c == d) = true := by
    intro d hd heq
    rw [beq_iff_eq.1 heq, hd] at hc
    exact absurd hc (by simp)
  have hequals : ¬ (c == '=' && lx.pending == .start) = true := by
    intro hboth
    rw [Bool.and_eq_true, beq_iff_eq, beq_iff_eq] at hboth
    exact hsign hboth.2 hboth.1
  unfold feedBetween
  dsimp only
  rw [if_neg (by rw [not_isBlank_of_isLexemeChar hc]; simp), if_neg hequals,
    if_neg (hne '#' (by decide)), if_neg (hne '.' (by decide)), if_neg (hne '[' (by decide)),
    if_neg (hne '(' (by decide)), if_neg (hne ',' (by decide)), if_neg (hne ']' (by decide)),
    if_neg (hne ')' (by decide)), if_neg (hne '^' (by decide)),
    if_neg (by rw [not_isQuote_of_isLexemeChar hc]; simp)]

theorem feed_between (lx : Lexer) (hmode : lx.mode = .between) (c : Char) (position : Nat) :
    lx.feed c position = { lx with lastPosition := position }.feedBetween c position := by
  unfold feed
  dsimp only
  rw [hmode]

/-- The end of a literal sets its range and its form, and no link. -/
theorem respelt_closed {a : Arena} {id : Nat} (hid : id < a.size) (quote : Char) (stop : Nat) :
    a.Respelt (a.modify id (closing quote stop)) id (a.get id).value
      (if quote = rawQuote then .plain else (a.get id).form) where
  size := Arena.size_modify _ _ _
  others _ hj := Arena.get_modify_of_ne _ _ hj
  self := ⟨stop, by rw [Arena.get_modify_self _ _ hid]; simp only [closing, beq_iff_eq]⟩

/-- The quote closes a literal that is not empty. -/
theorem feed_closing {id : Nat} {quote : Char} (hmode : lx.mode = .quoted id quote false)
    (hquote : quote ≠ lx.escape) (hfilled : (lx.arena.get id).value.isEmpty = false)
    (position : Nat) :
    lx.feed quote position
      = { lx with
          arena := lx.arena.modify id (closing quote (position + quote.utf8Size))
          mode := .between, pending := .adjacent, lastPosition := position } := by
  have hvalue : ((lx.arena.modify id (closing quote (position + quote.utf8Size))).get id).value
      = (lx.arena.get id).value := Arena.comp_get_modify _ _ _ Lexeme.value rfl
  unfold feed
  dsimp only
  rw [hmode]
  dsimp only
  unfold feedQuoted
  dsimp only
  rw [if_neg (by simp), if_neg (by simpa using hquote), if_pos (by simp)]
  unfold closing at hvalue
  rw [hvalue, hfilled]
  rfl

/-- The lexer at rest after an operand, with another arena. -/
def rested (lx : Lexer) (a : Arena) (last : Nat) : Lexer :=
  { lx with arena := a, mode := .between, pending := .adjacent, lastPosition := last }

/-- The lexer rests after an operand that was read and hung. -/
def Reads (lx after : Lexer) (position : Nat) (p : List Char) (s : Step) (place : Place)
    (source : Option Nat) (link : Lexeme → Lexeme) : Prop :=
  ∃ a last, lx.Becomes position p (after.rested a last)
    ∧ lx.arena.Gains a s place source link

/-- A word is hung by its first character and read by the others. -/
theorem Hangs.reads_word (h : lx.Hangs after kind place source link) (hmode : lx.mode = .between)
    {c : Char} {w : List Char} (hw : ∀ d ∈ c :: w, isLexemeChar d = true)
    (hsign : lx.pending = .start → c ≠ '=') (position : Nat) :
    lx.Reads after position (c :: w)
      (({ value := String.ofList (c :: w) } : Operand).step kind) place source link := by
  obtain ⟨a, hbegun, hsize, hnew, hothers⟩ :=
    h (.startingAt .plain position) position position rfl rfl
  have hid : lx.arena.size < a.size := by omega
  have hvalue : (a.get lx.arena.size).value = "" := by
    rw [hnew]
    unfold Lexeme.grouped
    split <;> rfl
  have hform : (a.get lx.arena.size).form = .plain := by
    rw [hnew]
    unfold Lexeme.grouped
    split <;> rfl
  -- the first character starts the operand, the others are added to it
  have hpushed := respelt_pushChar { after with arena := a, lastPosition := position } hid c position
  obtain ⟨a', last, hfed, hspelt⟩ := feedAll_word
    { ({ after with arena := a, lastPosition := position } : Lexer).pushChar
      lx.arena.size c position with mode := .bare lx.arena.size }
    (fun d hd => hw d (List.mem_cons_of_mem _ hd)) rfl (hpushed.size ▸ hid)
    (position + c.utf8Size)
  have hboth := hpushed.trans hspelt
  rw [hpushed.value_eq, hpushed.form_eq, push_append_ofList] at hboth
  dsimp only at hboth
  rw [hvalue, hform, String.empty_append] at hboth
  refine ⟨a', last, ?_, gains_of_respelt (l := .startingAt .plain position) rfl rfl ?_ hsize hnew
    hothers hboth⟩
  swap
  · rfl
  intro rest stop hrest
  rw [outcome_append]
  show (feedAll (lx.feed c position) _ w).outcome _ _ _ = _
  rw [feed_between lx hmode, feedBetween_word { lx with lastPosition := position }
    (hw c List.mem_cons_self) hsign, hbegun, hfed, outcome_bare rfl hrest]
  rfl

/-- A caret is hung before it has digits, and needs one to be read. -/
theorem Hangs.reads_ancestor (h : lx.Hangs after kind place source link)
    (hmode : lx.mode = .between) {digits : List Char} (hne : digits ≠ [])
    (hdigits : ∀ d ∈ digits, d.isDigit = true) (position : Nat) :
    lx.Reads after position ('^' :: digits)
      (({ value := String.ofList digits, form := .relative } : Operand).step kind) place source
      link := by
  obtain ⟨a, hbegun, hsize, hnew, hothers⟩ := h
    { form := .relative, kind := .ancestor, span := ⟨position, position + '^'.utf8Size⟩ }
    position position rfl rfl
  have hid : lx.arena.size < a.size := by omega
  obtain ⟨a', last, hfed, hspelt⟩ := feedAll_digits
    { after with arena := a, lastPosition := position, mode := .number lx.arena.size }
    hdigits rfl hid (position + '^'.utf8Size)
  dsimp only at hspelt
  rw [show (a.get lx.arena.size).value = "" from congrArg Lexeme.value hnew,
    show (a.get lx.arena.size).form = .relative from congrArg Lexeme.form hnew,
    String.empty_append] at hspelt
  refine ⟨a', last, ?_, gains_of_respelt
    (l := { form := .relative, kind := .ancestor, span := ⟨position, position + '^'.utf8Size⟩ })
    rfl rfl rfl hsize hnew hothers hspelt⟩
  -- with a digit there is nothing to note when the number ends
  have hfilled : (a'.get lx.arena.size).value.isEmpty = false := by
    rw [hspelt.value_eq, String.isEmpty_eq_false_iff]
    exact fun hempty => hne (String.ofList_eq_empty_iff.1 hempty)
  intro rest stop hrest
  rw [outcome_append]
  show (feedAll (lx.feed '^' position) _ digits).outcome _ _ _ = _
  rw [feed_between lx hmode]
  show (feedAll { beginOperand { lx with lastPosition := position } _ position with mode := _ }
    _ digits).outcome _ _ _ = _
  rw [hbegun, hfed]
  exact @outcome_number { after with
    arena := a', lastPosition := last, mode := .number lx.arena.size } _ _ _ rfl hfilled hrest stop

/-- A literal is hung by its quote and read up to the same one, escapes taken off. -/
theorem Hangs.reads_literal (h : lx.Hangs after kind place source link)
    (hmode : lx.mode = .between) (hescape : after.escape = lx.escape) {quote : Char}
    {s value : List Char} (hquote : isQuote quote = true) (hcloses : quote ≠ lx.escape)
    (hinner : LiteralText lx.escape quote s value) (hne : value ≠ []) (position : Nat) :
    lx.Reads after position (quote :: (s ++ [quote]))
      ((Operand.inQuotes quote (String.ofList value)).step kind) place source link := by
  obtain ⟨a, hbegun, hsize, hnew, hothers⟩ := h
    { form := .quoted, quote := some quote, span := ⟨position, position + quote.utf8Size⟩ }
    position position rfl rfl
  have hid : lx.arena.size < a.size := by omega
  have hfields : (a.get lx.arena.size).value = "" ∧ (a.get lx.arena.size).form = .quoted := by
    rw [hnew]
    unfold Lexeme.grouped
    split <;> exact ⟨rfl, rfl⟩
  obtain ⟨a', last, hfed, hspelt⟩ := extending_literalText hinner
    { after with
      arena := a, lastPosition := position, mode := .quoted lx.arena.size quote false }
    (position + quote.utf8Size) hescape rfl hid
  dsimp only at hspelt
  rw [hfields.1, hfields.2, String.empty_append] at hspelt
  have hfilled : (String.ofList value).isEmpty = false := by
    rw [String.isEmpty_eq_false_iff]
    exact fun hempty => hne (String.ofList_eq_empty_iff.1 hempty)
  -- the closing quote sets range and form, and with a value nothing is noted
  have hclosed := respelt_closed (hspelt.size ▸ hid) quote
    (position + quote.utf8Size + byteCount s + quote.utf8Size)
  rw [hspelt.value_eq, hspelt.form_eq] at hclosed
  refine ⟨_, position + quote.utf8Size + byteCount s, ?_, gains_of_respelt
    (l := { form := .quoted, quote := some quote, span := ⟨position, position + quote.utf8Size⟩ })
    rfl rfl ?_ hsize hnew hothers (o := .inQuotes quote (String.ofList value))
    (hspelt.trans hclosed)⟩
  swap
  · rw [Operand.kindIn_inQuotes]
    rfl
  intro rest stop _
  rw [outcome_append]
  show (feedAll (lx.feed quote position) _ (s ++ [quote])).outcome _ _ _ = _
  rw [feed_between lx hmode, feedBetween_quote _ hquote, hbegun, feedAll_append, hfed]
  dsimp only [feedAll]
  rw [feed_closing rfl (by rw [hescape]; exact hcloses) (by rw [hspelt.value_eq]; exact hfilled)]
  rfl

/-- **An operand is read and hung.** -/
theorem Hangs.reads (h : lx.Hangs after kind place source link) (hmode : lx.mode = .between)
    (hescape : after.escape = lx.escape) {p : List Char} {o : Operand}
    (ho : Spelling lx.escape p o) (hsign : lx.pending = .start → p.head? ≠ some '=')
    (position : Nat) : lx.Reads after position p (o.step kind) place source link := by
  cases ho with
  | word nonempty chars =>
      cases p with
      | nil => exact absurd rfl nonempty
      | cons c w =>
          exact h.reads_word hmode chars (fun hp heq => hsign hp (congrArg some heq)) position
  | literal opens closes inner nonempty =>
      exact h.reads_literal hmode hescape opens closes inner nonempty position
  | ancestor nonempty chars => exact h.reads_ancestor hmode nonempty chars position

end Lexer

end LayerTemplates
