/-
  LayerTemplates.Proofs.Layer.Outlines
  ────────────────────────────────────
  The outlines of layers, and what can break a line of them.

  A bare word ends before a blank and the digits of a level before everything else, so of all
  operands only a quoted literal can hold a line feed.  The canonical text of a target is made of
  the operands of one placeholder, since links do not lead out of it to literal text.  So a layer
  whose literals have no line feed has an outline with one item on each line.

  Main statements:
    * `worded_read` — no operand of a body holds a line feed, unless it is quoted.
    * `Legible.unbroken_expression` — canonical texts without line feeds.
    * `Allocates.legible` — the links of a layer lead to operands, and so do its roots.
    * `outline_lines` — what the lines of an outline are.
-/
import LayerTemplates.Proofs.Control.Origins
import LayerTemplates.Proofs.Control.Outlining
import LayerTemplates.Proofs.Layer.Accepted
import LayerTemplates.Proofs.Layer.Following
import LayerTemplates.Proofs.Layer.Naming
import LayerTemplates.Proofs.Layer.Spans

namespace LayerTemplates

/-! ## §1. Operands. -/

/-- What was read as an operand, which holds no line feed unless it is quoted. -/
structure Mark.Worded (m : Mark) : Prop where
  form : m.form ≠ .text
  bare : m.quote = none → Unbroken m.value
  quote : ∀ q, m.quote = some q → q ≠ '\n'

theorem unbroken_push {s : String} {c : Char} (h : Unbroken s) (hc : c ≠ '\n') :
    Unbroken (s.push c) := by
  unfold Unbroken at h ⊢
  rw [String.toList_push, List.mem_append, not_or, List.mem_singleton]
  exact ⟨h, Ne.symm hc⟩

theorem Mark.Worded.of_bare {m : Mark} (hform : m.form ≠ .text) (hquote : m.quote = none)
    (hvalue : Unbroken m.value) : m.Worded :=
  ⟨hform, fun _ => hvalue, fun q hq => absurd (hquote.symm.trans hq) (by simp)⟩

theorem Mark.Worded.of_quoted {m : Mark} {q : Char} (hform : m.form ≠ .text)
    (hquote : m.quote = some q) (hopens : isQuote q = true) : m.Worded := by
  refine ⟨hform, fun hnone => absurd (hquote.symm.trans hnone) (by simp), fun q' hq' heq => ?_⟩
  obtain rfl : q = q' := Option.some.inj (hquote.symm.trans hq')
  rw [heq] at hopens
  exact absurd hopens (by decide)

namespace Lexer

/-- All that a lexer has read is operands. -/
def Worded (lx : Lexer) : Prop := ∀ m ∈ lx.arena.marks, m.Worded

variable {lx : Lexer} {escape : Char} {front : List Char}

/-- The last lexeme is an operand, and the others were there before. -/
theorem Worded.concat {lx' : Lexer} {earlier : List Mark} {mark : Mark} (h : lx.Worded)
    (hmarks : lx'.arena.marks = earlier ++ [mark])
    (hearlier : ∀ m ∈ earlier, m ∈ lx.arena.marks) (hmark : mark.Worded) : lx'.Worded := by
  intro m hm
  rw [hmarks] at hm
  rcases List.mem_append.1 hm with hold | hlast
  · exact h m (hearlier m hold)
  · rw [List.mem_singleton.1 hlast]
    exact hmark

/-- A lexeme is added that is an operand. -/
theorem Worded.alloc {lx' : Lexer} {mark : Mark} (h : lx.Worded)
    (hmarks : lx'.arena.marks = lx.arena.marks ++ [mark]) (hmark : mark.Worded) : lx'.Worded :=
  h.concat hmarks (fun _ hm => hm) hmark

theorem Worded.congr {lx' : Lexer} (h : lx.Worded) (hmarks : lx'.arena.marks = lx.arena.marks) :
    lx'.Worded := by
  unfold Worded
  rw [hmarks]
  exact h

/-- A bare word or a number gets no line feed. -/
theorem Worded.pushChar (h : lx.Worded) (hlaid : LaidOut escape lx front) {id : LexemeId}
    (hmode : lx.mode = .number id ∨ lx.mode = .bare id) {c : Char} (hc : c ≠ '\n')
    (position : Nat) : (lx.pushChar id c position).Worded := by
  cases hlaid with
  | resting idle along => rcases hmode with hmode | hmode <;> simp [hmode, Mode.operand?] at idle
  | @reading earlier mark before piece trail operand marks front_eq along span read =>
      obtain rfl : id = earlier.length := by
        rcases hmode with hmode | hmode <;> simpa [hmode, Mode.operand?] using operand
      have hmark : mark.Worded :=
        h mark (marks ▸ List.mem_append_right _ (List.mem_singleton_self _))
      refine h.concat (marks_pushChar marks c position)
        (fun m hm => marks ▸ List.mem_append_left _ hm) ?_
      have hnone : mark.quote = none := by
        rcases hmode with hmode | hmode <;> rw [hmode] at read
        · cases read with
          | number form quote => exact quote
        · cases read with
          | bare form quote nonempty => exact quote
      exact .of_bare hmark.form hnone (unbroken_push (hmark.bare hnone) hc)

/-- What is done inside a literal is done to a quoted operand. -/
theorem Worded.feedQuoted (h : lx.Worded) (hlaid : LaidOut escape lx front) {id : LexemeId}
    {q : Char} {escaping : Bool} (hmode : lx.mode = .quoted id q escaping) (c : Char)
    (position : Nat) : (lx.feedQuoted id q escaping c position).Worded := by
  cases hlaid with
  | resting idle along => simp [hmode, Mode.operand?] at idle
  | @reading earlier mark before piece trail operand marks front_eq along span read =>
      obtain rfl : id = earlier.length := by simpa [hmode, Mode.operand?] using operand
      rw [hmode] at read
      cases read with
      | quoted form quote opens inner behind =>
          have hearlier : ∀ m ∈ earlier, m ∈ lx.arena.marks := fun m hm =>
            marks ▸ List.mem_append_left _ hm
          have hpushed := h.concat (marks_pushChar marks c position) hearlier
            (.of_quoted (by rw [show (mark.push c _).form = mark.form from rfl, form]; simp)
              quote opens)
          have hclosed : ∀ stop, (mark.closed q stop).Worded := fun stop =>
            .of_quoted (by unfold Mark.closed; dsimp only; rw [form]; split <;> simp) quote opens
          apply lx.feedQuoted_told (motive := Worded)
          case escaped => exact fun _ => hpushed
          case escape => exact fun _ _ => h
          case empty => exact fun _ _ _ => h.concat (marks_closing marks q _) hearlier (hclosed _)
          case closed =>
            exact fun _ _ _ _ => h.concat (marks_closing marks q _) hearlier (hclosed _)
          case pushed => exact fun _ _ _ => hpushed

theorem Worded.feedBetween (h : lx.Worded) (c : Char) (position : Nat) :
    (lx.feedBetween c position).Worded := by
  by_cases hblank : isBlank c = true
  · -- blanks are read as nothing
    unfold Lexer.feedBetween
    dsimp only
    rw [if_pos hblank]
    split <;> exact h
  · have hc : c ≠ '\n' := fun heq => hblank (by rw [heq]; decide)
    have hword : Mark.Worded ⟨"".push c, .plain, none, ⟨position, position + c.utf8Size⟩⟩ :=
      .of_bare (by simp) rfl (unbroken_push (by decide) hc)
    have hbegun := h.alloc (lx.marks_beginWord c position) hword
    apply lx.feedBetween_told (motive := Worded)
    case blank => exact fun _ _ => h
    case spaced => exact fun _ _ => h
    case sign => exact fun _ => hbegun
    case signed => exact fun _ _ => hbegun
    case remark => exact fun _ _ => h
    case delimited => exact fun delimiter _ => h.congr (lx.marks_delimit delimiter position)
    case separated => exact fun _ => h.congr (lx.marks_comma position)
    case closed => exact fun closer _ => h.congr (lx.marks_closeBracket closer position)
    case caret =>
      exact fun _ => h.alloc (lx.marks_beginOperand _ position)
        (.of_bare (by simp [Lexeme.mark]) rfl (show Unbroken "" by decide))
    case literal =>
      exact fun hquote => h.alloc (lx.marks_beginOperand _ position)
        (.of_quoted (by simp [Lexeme.mark]) rfl hquote)
    case word => exact fun _ _ => hbegun

/-- **A character leaves no line feed in an operand**, unless it is quoted. -/
theorem Worded.feed (h : lx.Worded) (hlaid : LaidOut escape lx front) (c : Char)
    (position : Nat) : (lx.feed c position).Worded := by
  generalize hkept : ({ lx with lastPosition := position } : Lexer) = fed
  have hfed : fed.Worded := hkept ▸ h
  have hstands : LaidOut escape fed front := by
    rw [← hkept]
    cases hlaid with
    | resting idle along => exact .resting idle along
    | reading operand marks front_eq along span read =>
        exact .reading operand marks front_eq along span read
  by_cases hline : c = '\n'
  · -- a line feed ends words and numbers
    subst hline
    unfold Lexer.feed
    rw [hkept]
    dsimp only
    cases hmode : fed.mode with
    | quoted id q escaping => exact hfed.feedQuoted hstands hmode _ position
    | number id =>
        dsimp only
        rw [if_neg (by decide)]
        have hended : (fed.endNumber id position).Worded :=
          hfed.congr (congrArg Arena.marks (fed.arena_endNumber id position))
        exact hended.feedBetween _ position
    | bare id =>
        dsimp only
        rw [if_neg (by decide)]
        have hended : fed.endOperand.Worded := hfed
        exact hended.feedBetween _ position
    | comment text => exact hfed
    | between => exact hfed.feedBetween _ position
  · apply lx.feed_cases (motive := Worded) c position hkept
    case quoted => exact fun id q escaping hmode => hfed.feedQuoted hstands hmode c position
    case pushed => exact fun id hmode => hfed.pushChar hstands hmode hline position
    case numbered =>
      intro id _
      have hended : (fed.endNumber id position).Worded :=
        hfed.congr (congrArg Arena.marks (fed.arena_endNumber id position))
      exact hended.feedBetween c position
    case named =>
      intro id _
      have hended : fed.endOperand.Worded := hfed
      exact hended.feedBetween c position
    case remark => exact fun text _ => hfed
    case between => exact fun _ => hfed.feedBetween c position

end Lexer

/-- **No operand of a body holds a line feed**, unless it is quoted. -/
theorem worded_read (body : String) (escape : Char) :
    ∀ m ∈ (Expression.read body escape).1.marks, m.Worded := by
  have hrun : ∀ (chars : List Char) (lx : Lexer) (front : List Char), lx.escape = escape →
      LaidOut escape lx front → lx.Worded → (lx.feedAll (byteCount front) chars).Worded := by
    intro chars
    induction chars with
    | nil => exact fun lx front _ _ h => h
    | cons c rest ih =>
        intro lx front hescape hlaid h
        have hmore := ih (lx.feed c (byteCount front)) (front ++ [c])
          ((lx.quoting_feed c _).2.trans hescape) (hlaid.feed hescape c) (h.feed hlaid c _)
        rw [byteCount_append] at hmore
        exact hmore
  refine hrun body.toList { arena := {}, escape } [] rfl (.resting rfl .nil) fun m hm => ?_
  exact absurd hm (by simp [Arena.marks])

/-! ## §2. Canonical texts. -/

namespace Arena

/-- Links lead to operands. -/
def Legible (a : Arena) : Prop :=
  ∀ link (j t : Nat), (a.get j).link link = some t → t < a.size ∧ (a.get t).mark.Worded

variable {a : Arena}

theorem unbroken_written {l : Lexeme} (h : l.mark.Worded)
    (hquoted : l.quote ≠ none → Unbroken l.value) : Unbroken l.written := by
  have hvalue : Unbroken l.value := by
    cases hquote : l.quote with
    | none => exact h.bare hquote
    | some q => exact hquoted (by rw [hquote]; simp)
  unfold Lexeme.written
  split
  · exact unbroken_append.2 ⟨by decide, hvalue⟩
  · next q hquote _ =>
      have hq : Unbroken q.toString := by
        have hne := h.quote q hquote
        unfold Unbroken
        simp [Ne.symm hne]
      exact unbroken_append.2 ⟨unbroken_append.2 ⟨hq, hvalue⟩, hq⟩
  · exact hvalue

theorem unbroken_join {parts : List String} (h : ∀ part ∈ parts, Unbroken part) :
    Unbroken (String.join parts) := by
  unfold Unbroken
  rw [String.toList_join, List.mem_flatMap]
  rintro ⟨part, hpart, hline⟩
  exact h part hpart hline

theorem unbroken_intercalate {sep : String} (hsep : Unbroken sep) {parts : List String}
    (h : ∀ part ∈ parts, Unbroken part) : Unbroken (sep.intercalate parts) := by
  unfold Unbroken
  rw [String.toList_intercalate]
  induction parts with
  | nil => simp
  | cons part rest ih =>
      cases rest with
      | nil => simpa [Unbroken] using h part List.mem_cons_self
      | cons next rest =>
          have hmore := ih fun other hother => h other (List.mem_cons_of_mem _ hother)
          rw [List.map_cons, List.map_cons, List.intercalate_cons_cons, List.mem_append,
            List.mem_append, not_or, not_or]
          exact ⟨⟨h part List.mem_cons_self, hsep⟩, hmore⟩

/-- A step of a path is without line feeds if its operand and its arguments are. -/
theorem unbroken_stepText {argument : LexemeId → String} {id : LexemeId}
    (hwritten : Unbroken (a.get id).written)
    (hargument : ∀ arg, (a.get id).firstArg = some arg → ∀ other ∈ a.siblings arg,
      Unbroken (argument other)) : Unbroken (a.stepText argument id) := by
  unfold stepText
  dsimp only
  split
  · refine unbroken_append.2 ⟨unbroken_append.2 ⟨unbroken_append.2 ⟨hwritten, by decide⟩, ?_⟩,
      by decide⟩
    refine unbroken_intercalate (by decide) fun part hpart => ?_
    obtain ⟨other, hother, rfl⟩ := List.mem_map.1 hpart
    cases harg : (a.get id).firstArg with
    | none =>
        rw [harg] at hother
        exact absurd hother (by simp)
    | some arg =>
        rw [harg] at hother
        exact hargument arg harg other hother
  · exact hwritten

theorem unbroken_laterStepText {argument : LexemeId → String} {id : LexemeId}
    (h : Unbroken (a.stepText argument id)) : Unbroken (a.laterStepText argument id) := by
  unfold laterStepText
  dsimp only
  split
  · exact unbroken_append.2 ⟨unbroken_append.2 ⟨by decide, h⟩, by decide⟩
  · exact unbroken_append.2 ⟨by decide, h⟩

/-- What is come to by links from an operand is operands. -/
theorem Traced.worded (h : a.Legible) {link : Link} {id : Nat} {ids : List Nat}
    (htraced : a.Traced link id ids) (hid : (a.get id).mark.Worded) :
    ∀ step ∈ ids, step < a.size ∧ (a.get step).mark.Worded := by
  induction htraced with
  | last inside ends =>
      intro step hstep
      rw [List.mem_singleton.1 hstep]
      exact ⟨inside, hid⟩
  | step inside leads rest ih =>
      intro step hstep
      rcases List.mem_cons.1 hstep with rfl | hlater
      · exact ⟨inside, hid⟩
      · exact ih (h _ _ _ leads).2 step hlater

/-- **The canonical text of an operand has no line feed**, if no literal has one. -/
theorem Legible.unbroken_expression (h : a.Legible)
    (hquoted : ∀ id < a.size, (a.get id).quote ≠ none → Unbroken (a.get id).value) {id : Nat}
    {text : String} (hspelt : a.Spelt id text) (hid : (a.get id).mark.Worded) : Unbroken text := by
  induction hspelt with
  | @path id later argument steps listed spelt ih =>
      have hsteps := steps.worded h hid
      have htext : ∀ step ∈ id :: later, Unbroken (a.stepText argument step) := by
        intro step hstep
        obtain ⟨hinside, hworded⟩ := hsteps step hstep
        refine unbroken_stepText (unbroken_written hworded (hquoted step hinside)) ?_
        intro arg harg other hother
        have harg' : (a.get step).link .firstArg = some arg := harg
        have hsiblings := (listed step hstep arg harg).worded h (h _ _ _ harg').2
        exact ih step hstep arg harg other hother (hsiblings other hother).2
      refine unbroken_append.2 ⟨htext id List.mem_cons_self, unbroken_join fun part hpart => ?_⟩
      obtain ⟨step, hstep, rfl⟩ := List.mem_map.1 hpart
      exact unbroken_laterStepText (htext step (List.mem_cons_of_mem _ hstep))

end Arena

/-! ## §3. Texts that are scanned. -/

theorem Mark.Worded.moved {l : Lexeme} (h : l.mark.Worded) (first offset : Nat) :
    (l.moved first offset).mark.Worded := ⟨h.form, h.bare, h.quote⟩

namespace Arena

theorem Worded.of_get {a : Arena} (h : ∀ m ∈ a.marks, m.Worded) {id : Nat} (hid : id < a.size) :
    (a.get id).mark.Worded := h _ (List.mem_of_getElem? (marks_getElem? hid))

/-- The links of a body alone lead to its operands. -/
theorem legible_read (body : String) (escape : Char) :
    (Expression.read body escape).1.Legible := by
  have hstart : Lexer.Orderly 0 { arena := {}, escape } :=
    Lexer.orderly_start tidy_empty (Nat.le_refl _) escape
  have htidy : (Expression.read body escape).1.Tidy 0 :=
    (Lexer.feedAll_keeps (motive := Lexer.Orderly 0)
      (fun _ c position hlx => (hlx.feed c position).orderly) body.toList _ 0 hstart).arena
  -- a link leads to a newer lexeme of the body, and all of them are operands
  intro link j t hlink
  have hinside := (htidy.forward link j t (Nat.zero_le _) hlink).2
  exact ⟨hinside, Worded.of_get (worded_read body escape) hinside⟩

/-- A stretch of literal text has no links, and none leads to it. -/
theorem Legible.alloc {a : Arena} (h : a.Legible) {l : Lexeme}
    (hl : ∀ link, l.link link = none) : (a.alloc l).Legible := by
  intro link j t hlink
  rw [get_alloc] at hlink
  split at hlink
  · rw [hl] at hlink
    exact absurd hlink (by simp)
  · obtain ⟨hinside, hworded⟩ := h link j t hlink
    rw [size_alloc, get_alloc, if_neg (Nat.ne_of_lt hinside)]
    exact ⟨Nat.lt_succ_of_lt hinside, hworded⟩

/-- The lexemes that others stand behind are what they were. -/
theorem get_moved_of_lt {a base : Arena} {offset id : Nat} (hid : id < base.size) :
    (a.moved base offset).get id = base.get id := by
  have hinside : id < base.lexemes.size := hid
  unfold get moved
  rw [Array.getElem?_append_left hinside]

/-- The links of lexemes behind others lead as they did, and so do those of the others. -/
theorem Legible.moved {a base : Arena} (h : a.Legible) (hbase : base.Legible) (offset : Nat) :
    (a.moved base offset).Legible := by
  intro link j t hlink
  by_cases hj : j < base.size
  · rw [get_moved_of_lt hj] at hlink
    obtain ⟨hinside, hworded⟩ := hbase link j t hlink
    rw [size_moved, get_moved_of_lt hinside]
    exact ⟨Nat.lt_add_right _ hinside, hworded⟩
  · obtain ⟨j, rfl⟩ := Nat.exists_eq_add_of_le (Nat.le_of_not_lt hj)
    rw [get_moved] at hlink
    split at hlink
    · obtain ⟨k, hk, rfl⟩ : ∃ k, (a.get j).link link = some k ∧ base.size + k = t := by
        cases link <;> exact Option.map_eq_some_iff.1 hlink
      obtain ⟨hinside, hworded⟩ := h link j k hk
      rw [size_moved, get_moved, if_pos hinside]
      exact ⟨Nat.add_lt_add_left hinside _, hworded.moved _ _⟩
    · cases link <;> exact absurd hlink (by simp [Lexeme.link])

end Arena

variable {tags : Tags} {text : String}

/-- **The links of a layer lead to operands**, and so do the roots of its placeholders. -/
theorem Allocates.legible {a after : Arena} {segments : List Segment}
    (h : Allocates tags text a segments after) :
    a.Legible → after.Legible
      ∧ ∀ p, .placeholder p ∈ segments → p.terminated = true →
        ∀ id ∈ p.roots, id < after.size ∧ (after.get id).mark.Worded := by
  -- on the segments: the lexemes of a body stand behind those of the segments before it
  induction h with
  | nil => exact fun ha => ⟨ha, fun p hp => absurd hp List.not_mem_nil⟩
  | @text a after front piece rest segments place nonempty others ih =>
      intro ha
      obtain ⟨hafter, hroots⟩ := ih (ha.alloc fun link => by cases link <;> rfl)
      refine ⟨hafter, fun p hp => hroots p ?_⟩
      exact (List.mem_cons.1 hp).resolve_left (by simp)
  | @placeholder a after p segments read others ih =>
      intro ha
      have halone := Arena.legible_read (p.body tags text) tags.escape
      have hadded := p.arena_lexerOn tags text a
      obtain ⟨hafter, hroots⟩ := ih (hadded ▸ halone.moved ha _)
      refine ⟨hafter, fun q hq hterminated => ?_⟩
      rcases List.mem_cons.1 hq with hq | hq
      · obtain rfl : p = q := (Segment.placeholder.inj hq).symm
        -- a root is one of the body alone, which is an operand
        intro id hid
        rw [read.roots, p.expressionOn_of_terminated tags text a hterminated] at hid
        obtain ⟨k, hk, rfl⟩ := List.mem_map.1 hid
        have hinside : k < (Expression.read (p.body tags text) tags.escape).1.size := by
          have hnone : Arena.Spelled {} := fun id hid => absurd hid (Nat.not_lt_zero id)
          have hspelled := Lexer.spelled_feedAll (p.body tags text).toList _ 0
            (.start hnone tags.escape)
          refine hspelled.roots k ?_
          rw [← Lexer.roots_finish _ (p.body tags text).utf8ByteSize]
          exact hk
        have hlt : a.size + k < (p.lexerOn tags text a).arena.size := by
          rw [hadded, Arena.size_moved]
          exact Nat.add_lt_add_left hinside _
        refine ⟨Nat.lt_of_lt_of_le hlt others.keeps.size_le, ?_⟩
        rw [others.keeps.get_eq _ hlt, hadded, Arena.get_moved, if_pos hinside]
        exact (Arena.Worded.of_get (worded_read _ _) hinside).moved _ _
      · exact hroots q hq hterminated

/-! ## §4. Targets. -/

/-- A node shows what the placeholder works on that it was made from. -/
theorem ControlTree.mem_origins_of_target? {t : ControlTree} {id : NodeId}
    {target : Option LexemeId} (h : t.target? id = some target) :
    ∃ operator entry, NodeOrigin.placeholder operator target entry ∈ t.origins := by
  unfold target? shape? at h
  cases hnode : t.node? id with
  | none =>
      rw [hnode] at h
      exact absurd h (by simp)
  | some node =>
      have hmem : node.origin ∈ t.origins :=
        List.mem_map.2 ⟨node, Array.mem_toList_iff.2 (Array.mem_of_getElem? hnode), rfl⟩
      obtain ⟨kind, block, entry⟩ := node
      rw [hnode] at h
      cases kind with
      | text lexeme => exact absurd h (by simp)
      | insert other =>
          obtain rfl := Option.some.inj h
          exact ⟨_, _, hmem⟩
      | conditional c =>
          obtain rfl := Option.some.inj h
          exact ⟨_, _, hmem⟩

/-- What a step is made into works on the target of its directive. -/
theorem ControlStep.target_of_origin? {step : ControlStep} {operator : Operator}
    {target : Option LexemeId} {entry : String}
    (h : step.origin? = some (.placeholder operator target entry)) :
    ∃ d, step = .directive d entry ∧ d.target = target := by
  cases step with
  | text id => exact absurd h (by simp [origin?])
  | directive d other =>
      obtain ⟨htarget, rfl⟩ : d.target = target ∧ other = entry := by
        cases hop : d.operator with
        | insert | ifTrue | ifFalse =>
            simp only [origin?, hop, Option.some.injEq, NodeOrigin.placeholder.injEq] at h
            exact h.2
        | otherwise | endBlock | comment => simp [origin?, hop] at h
      exact ⟨d, rfl, htarget⟩

/-- **What the tree of an accepted layer shows** is a root of one of its placeholders. -/
theorem ParsedLayer.exists_root_of_target? (hvisible : tags.Visible) {name : String}
    {layer : ParsedLayer} (h : parse name text tags = .ok layer) {id : NodeId} {root : LexemeId}
    (htarget : layer.tree.target? id = some (some root)) :
    ∃ p, .placeholder p ∈ (scan text tags).segments ∧ p.terminated = true ∧ root ∈ p.roots := by
  obtain rfl := eq_layer_of_parse hvisible h
  obtain ⟨operator, entry, horigin⟩ := ControlTree.mem_origins_of_target? htarget
  -- from the node back to the step, and from the step to the placeholder
  rw [TreeBuilder.origins_foldl_addStep] at horigin
  obtain ⟨step, hstep, hmade⟩ := List.mem_filterMap.1 ((List.mem_append.1 horigin).resolve_left
    List.not_mem_nil)
  obtain ⟨d, rfl, hd⟩ := ControlStep.target_of_origin? hmade
  obtain ⟨segment, hsegment, htold⟩ := List.mem_filterMap.1 hstep
  cases segment with
  | text id => exact absurd htold (by simp [Segment.scannedStep?])
  | placeholder p =>
      unfold Segment.scannedStep? at htold
      dsimp only at htold
      split at htold
      · next hterminated =>
          obtain ⟨other, hclassified, hsame⟩ := Option.map_eq_some_iff.1 htold
          obtain ⟨rfl, -⟩ := ControlStep.directive.inj hsame
          exact ⟨p, hsegment, hterminated, Directive.target_mem hclassified hd⟩
      · exact absurd htold (by simp)

/-- **No target breaks a line** of an accepted layer if no literal of the layer has a line
feed. -/
theorem ParsedLayer.unbroken_targetText (hvisible : tags.Visible) {name : String}
    {layer : ParsedLayer} (h : parse name text tags = .ok layer)
    (hquoted : ∀ id < layer.arena.size, (layer.arena.get id).quote ≠ none →
      Unbroken (layer.arena.get id).value) {id : NodeId} {target : Option LexemeId}
    (htarget : layer.tree.target? id = some target) :
    Unbroken (targetText layer.arena target) := by
  cases target with
  | none => exact (by decide : Unbroken "<none>")
  | some root =>
      obtain ⟨p, hp, hterminated, hroot⟩ := exists_root_of_target? hvisible h htarget
      have harena : layer.arena = (scan text tags).arena :=
        congrArg ParsedLayer.arena (eq_layer_of_parse hvisible h)
      rw [harena] at hquoted ⊢
      have hempty : Arena.Legible {} := fun link j t hlink => by
        cases link <;> exact absurd hlink (by simp [Arena.get, Lexeme.link])
      obtain ⟨hlegible, hroots⟩ := (scan_allocates hvisible text).legible hempty
      obtain ⟨hinside, hworded⟩ := hroots p hp hterminated root hroot
      exact hlegible.unbroken_expression hquoted
        ((tidy_scan text tags).followed hinside).expression hworded

/-! ## §5. Outlines. -/

/-- There are as many line ends as lines only if none of the lines is broken. -/
theorem count_lines_eq_iff (lines : List String) :
    (String.join (lines.map (· ++ "\n"))).toList.count '\n' = lines.length
      ↔ ∀ line ∈ lines, Unbroken line := by
  -- each line has at least the end that is added to it
  have hleast : ∀ lines : List String,
      lines.length ≤ (String.join (lines.map (· ++ "\n"))).toList.count '\n' := by
    intro lines
    induction lines with
    | nil => exact Nat.zero_le _
    | cons line lines ih =>
        simp only [List.map_cons, String.join_cons, String.toList_append, List.count_append,
          List.length_cons]
        have hend : "\n".toList.count '\n' = 1 := by decide
        omega
  induction lines with
  | nil => simp
  | cons line lines ih =>
      have hend : "\n".toList.count '\n' = 1 := by decide
      have hrest := hleast lines
      have hline : Unbroken line ↔ line.toList.count '\n' = 0 := List.count_eq_zero.symm
      rw [List.forall_mem_cons, hline]
      refine Iff.trans ?_ (and_congr_right fun _ => ih)
      simp only [List.map_cons, String.join_cons, String.toList_append, List.count_append,
        List.length_cons]
      omega

/-- **The outline of a layer.**  A text and an insert take one line, a conditional takes three: its
own, and one in front of each branch.  The lines are indented by the conditionals around them, so
how the tree is nested is read back from the indentation.  Literal text does not break its line,
but a target does whose text has a line feed: there are exactly as many line ends as lines if no
such target is shown, and this is so if no quoted literal of the layer has a line feed. -/
theorem outline_lines (hvisible : tags.Visible) {name : String} {layer : ParsedLayer}
    (h : ParsedLayer.parse name text tags = .ok layer) :
    let t := layer.tree
    let a := layer.arena
    let lines := Item.linesOfAll a 0 t.items
    t.outline a = String.join (lines.map (· ++ "\n"))
      ∧ lines.length = t.textCount + t.insertCount + 3 * t.conditionalCount
      ∧ (∃ met nesting, met.Perm (List.range t.nodes.size)
          ∧ t.Outlined a 0 (t.block ControlTree.root).nodes met nesting lines
          ∧ ∀ other : Nesting, other.indents 0 = lines.map leadingBlanks ↔ other = nesting)
      ∧ ((t.outline a).toList.count '\n' = lines.length
          ↔ ∀ id target, t.target? id = some target → Unbroken (targetText a target))
      ∧ ((∀ id < a.size, (a.get id).quote ≠ none → Unbroken (a.get id).value)
          → ∀ line ∈ lines, Unbroken line) := by
  intro t a lines
  have htraced : (layer.steps.foldl TreeBuilder.addStep {}).Traced :=
    (TreeBuilder.WellFormed.foldl_addStep (fun _ _ hb hnext htraced => htraced.next hb hnext)
      layer.steps {} TreeBuilder.WellFormed.empty TreeBuilder.Traced.empty).2
  obtain ⟨met, nesting, hperm, hlines⟩ := htraced.outlined a
  rw [← (ParsedLayer.accepted_of_parse h).tree] at hperm hlines
  have hindents : lines.map leadingBlanks = nesting.indents 0 := hlines.leadingBlanks_lines
  -- a node that shows a target is one of the tree, so it is met
  have hbroken : (∀ line ∈ lines, Unbroken line)
      ↔ ∀ id target, t.target? id = some target → Unbroken (targetText a target) := by
    rw [hlines.unbroken_iff]
    refine ⟨fun hmet id target htarget => hmet id ?_ target htarget, fun hall id _ => hall id⟩
    rw [hperm.mem_iff, List.mem_range]
    refine Nat.lt_of_not_le fun hle => ?_
    have hnone : layer.tree.node? id = none := Array.getElem?_eq_none hle
    replace htarget : layer.tree.target? id = some target := htarget
    unfold ControlTree.target? ControlTree.shape? at htarget
    rw [hnone] at htarget
    exact absurd htarget (by simp)
  refine ⟨rfl, ?_, ⟨met, nesting, hperm, hlines, fun other => ?_⟩, ?_, fun hquoted => ?_⟩
  · rw [← ControlTree.lineTotal_range, ← layer.tree.lineTotal_perm hperm]
    exact hlines.length_lines
  · rw [hindents]
    exact ⟨Nesting.indents_injective, fun heq => congrArg (Nesting.indents 0) heq⟩
  · rw [← hbroken]
    exact count_lines_eq_iff lines
  · exact hbroken.2 fun id target htarget =>
      ParsedLayer.unbroken_targetText hvisible h hquoted htarget

/-- What holds of a layer is seen from the layer itself, if it is accepted. -/
theorem exists_of_toOption {ε α : Type} {x : Except ε α} {P : α → Prop} [DecidablePred P]
    (h : x.toOption.any (fun a => decide (P a)) = true) : ∃ a, x = .ok a ∧ P a := by
  cases x with
  | error e => exact absurd h (by simp [Except.toOption])
  | ok a => exact ⟨a, rfl, of_decide_eq_true h⟩

/-- Both kinds of conditionals, a line end and a call. -/
def outlinedText : String :=
  "\x7b\x7bif a.b\x7d\x7d\n\x7b\x7bunless c\x7d\x7d\x7b\x7belse\x7d\x7d"
    ++ "\x7b\x7bf(^2, 'g h')\x7d\x7d\x7b\x7bend\x7d\x7d\x7b\x7bend\x7d\x7d"

theorem outline_lines_outlinedText :
    ({} : Tags).Visible
      ∧ ∃ layer, ParsedLayer.parse "start" outlinedText {} = .ok layer
        ∧ layer.tree.textCount + layer.tree.insertCount + 3 * layer.tree.conditionalCount = 8
        ∧ (layer.tree.outline layer.arena).toList.count '\n' = 8
        ∧ layer.tree.outline layer.arena
          = "if a.b\n  true:\n    text \"\\n\"\n    unless c\n      true:\n"
            ++ "        insert f(^2, 'g h')\n      false:\n  false:\n" := by
  have hvisible : ({} : Tags).Visible := by decide
  obtain ⟨layer, hparse, hcount, houtline, hquoted⟩ : ∃ layer,
      ParsedLayer.parse "start" outlinedText {} = .ok layer
        ∧ layer.tree.textCount + layer.tree.insertCount + 3 * layer.tree.conditionalCount = 8
        ∧ layer.tree.outline layer.arena
          = "if a.b\n  true:\n    text \"\\n\"\n    unless c\n      true:\n"
            ++ "        insert f(^2, 'g h')\n      false:\n  false:\n"
        ∧ ∀ id < layer.arena.size, (layer.arena.get id).quote ≠ none →
          Unbroken (layer.arena.get id).value :=
    exists_of_toOption (by decide +kernel)
  obtain ⟨-, hlines, -, hends, hunbroken⟩ := outline_lines hvisible hparse
  have hall := (count_lines_eq_iff _).2 (hunbroken hquoted)
  exact ⟨hvisible, layer, hparse, hcount, (hall.trans hlines).trans hcount, houtline⟩

/-- **A quoted literal with a line feed breaks its line**: the outline of one insert has two line
ends. -/
theorem outline_quotedLineFeed :
    ∃ layer, ParsedLayer.parse "start" "\x7b\x7b 'a\nb' \x7d\x7d" {} = .ok layer
      ∧ layer.tree.textCount = 0 ∧ layer.tree.insertCount = 1 ∧ layer.tree.conditionalCount = 0
      ∧ layer.tree.outline layer.arena = "insert 'a\nb'\n"
      ∧ (layer.tree.outline layer.arena).toList.count '\n' = 2 :=
  exists_of_toOption (by decide +kernel)

end LayerTemplates
