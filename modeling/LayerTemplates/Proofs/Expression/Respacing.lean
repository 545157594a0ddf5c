/-
  LayerTemplates.Proofs.Expression.Respacing
  ──────────────────────────────────────────
  Blanks are interchangeable.

  Where neither a literal nor a comment is open, a blank ends what is being read and is noted if an
  operand stands before it.  Which blank it is does not matter, and neither do further blanks
  behind it.  So two bodies that differ in their blanks only take the lexer through states that
  differ in positions only, whether the bodies are well formed or not: what stands between two runs
  of blanks is the same for both, and positions are kept but never looked at.

  Main statements:
    * `Lexer.unplaced_feed_blank` — what a blank does.
    * `Lexer.unplaced_feedAll_blanks` — what any number of them does.
    * `Respaced.same` — rests of bodies that differ in their blanks only are read alike.
    * `read_respaced` — so are whole bodies.
-/
import LayerTemplates.Proofs.Expression.Unplaced
import LayerTemplates.Proofs.Layer.Naming

namespace LayerTemplates

/-! ## §1. Bodies that differ in their blanks. -/

/-- Two rests of bodies differ in their blanks only.  Outside of literals and comments any blanks
may stand for others as long as there are some in both, and at the end there may be none in one
of them; all other characters are the same. -/
inductive Respaced (escape : Char) : Quoting → List Char → List Char → Prop
  | nil {q : Quoting} : Respaced escape q [] []
  | trailing {b b' : List Char} (blanks : Blanks b) (blanks' : Blanks b') :
      Respaced escape .outside b b'
  | char {q : Quoting} {c : Char} {s s' : List Char}
      (rest : Respaced escape (q.next escape c) s s') : Respaced escape q (c :: s) (c :: s')
  | run {b b' s s' : List Char} (blanks : Blanks b) (blanks' : Blanks b') (nonempty : b ≠ [])
      (nonempty' : b' ≠ []) (rest : Respaced escape .outside s s') :
      Respaced escape .outside (b ++ s) (b' ++ s')

/-- Every rest of a body differs from itself in its blanks only. -/
theorem Respaced.refl {escape : Char} (s : List Char) : ∀ q : Quoting, Respaced escape q s s := by
  induction s with
  | nil => exact fun _ => .nil
  | cons c s ih => exact fun q => .char (ih (q.next escape c))

/-- What both bodies have in common may stand before rests that differ in their blanks. -/
theorem Respaced.append {escape : Char} {s s' : List Char} (piece : List Char) :
    ∀ {q : Quoting}, Respaced escape (piece.foldl (Quoting.next escape) q) s s' →
      Respaced escape q (piece ++ s) (piece ++ s') := by
  induction piece with
  | nil => exact fun h => h
  | cons c piece ih => exact fun h => .char (ih h)

/-- Two bodies differ in their blanks only; at the start there may be none in one of them. -/
def SameButBlanks (escape : Char) (body other : String) : Prop :=
  ∃ b b' s s', Blanks b ∧ Blanks b' ∧ body.toList = b ++ s ∧ other.toList = b' ++ s'
    ∧ Respaced escape .outside s s'

/-! ## §2. What blanks do. -/

namespace Lexer

variable {lx lx' : Lexer} {c : Char} {b : List Char}

/-- A blank is noted behind an operand. -/
def afterBlank (lx : Lexer) : Lexer :=
  { lx with pending := if lx.pending = .adjacent then .blank else lx.pending }

theorem feedBetween_blank (hc : isBlank c = true) (position : Nat) :
    lx.feedBetween c position = lx.afterBlank := by
  unfold feedBetween afterBlank
  dsimp only
  rw [if_pos hc]
  split <;> rfl

/-- **A blank ends what is being read and is noted**, whatever blank it is. -/
theorem unplaced_feed_blank (hmode : lx.mode.quoting = .outside) (hc : isBlank c = true)
    (position : Nat) : (lx.feed c position).unplaced = (lx.unplaced.settle 0).afterBlank := by
  have hword : ¬ isLexemeChar c = true := fun hchar => by
    rw [not_isBlank_of_isLexemeChar hchar] at hc
    exact absurd hc (by simp)
  have hdigit : ¬ c.isDigit = true := fun hdigit => hword (isLexemeChar_of_isDigit hdigit)
  rw [← unplaced_settle _ position]
  obtain ⟨arena, escape, mode, pending, last, groups, roots, issues, lastPosition⟩ := lx
  unfold feed settle
  cases mode with
  | quoted id quote escaping => exact absurd hmode (by simp [Mode.quoting])
  | comment text => exact absurd hmode (by simp [Mode.quoting])
  | between =>
      dsimp only
      rw [feedBetween_blank hc]
      rfl
  | bare id =>
      dsimp only
      rw [if_neg hword, feedBetween_blank hc]
      rfl
  | number id =>
      dsimp only
      rw [if_neg hdigit, feedBetween_blank hc]
      show (endNumber _ id position).unplaced.afterBlank = _
      rw [unplaced_endNumber, unplaced_endNumber]
      rfl

theorem mode_settle_of_outside (h : lx.mode.quoting = .outside) (position : Nat) :
    (lx.settle position).mode = .between := by
  unfold settle endNumber
  cases hmode : lx.mode with
  | quoted id quote escaping => exact absurd h (by simp [hmode, Mode.quoting])
  | comment text => exact absurd h (by simp [hmode, Mode.quoting])
  | between => exact hmode
  | bare id => rfl
  | number id =>
      dsimp only
      split <;> rfl

theorem settle_of_between (h : lx.mode = .between) (position : Nat) :
    lx.settle position = lx := by
  unfold settle
  rw [h]

theorem afterBlank_afterBlank (lx : Lexer) : lx.afterBlank.afterBlank = lx.afterBlank := by
  unfold afterBlank
  dsimp only
  split <;> rfl

/-- **Any number of blanks does what one blank does.** -/
theorem unplaced_feedAll_blanks (hb : Blanks b) (hne : b ≠ []) :
    ∀ (lx : Lexer) (position : Nat), lx.mode.quoting = .outside →
      (lx.feedAll position b).unplaced = (lx.unplaced.settle 0).afterBlank := by
  induction b with
  | nil => exact absurd rfl hne
  | cons c b ih =>
      intro lx position hmode
      have hc := hb c List.mem_cons_self
      have hfirst := unplaced_feed_blank hmode hc position
      show ((lx.feed c position).feedAll _ b).unplaced = _
      by_cases hnil : b = []
      · rw [hnil]
        exact hfirst
      · -- behind a blank nothing is being read, and the blank is noted already
        have hoff : lx.unplaced.mode.quoting = .outside := hmode
        have hbetween : (lx.unplaced.settle 0).afterBlank.mode = .between :=
          mode_settle_of_outside hoff 0
        have hmode' : (lx.feed c position).mode = .between :=
          (congrArg Lexer.mode hfirst).trans hbetween
        rw [ih (fun d hd => hb d (List.mem_cons_of_mem _ hd)) hnil _ _ (by rw [hmode']; rfl),
          hfirst, settle_of_between hbetween, afterBlank_afterBlank]

/-- The end of a body asks for a delimiter before it, and not for blanks. -/
theorem finish_afterBlank (h : lx.mode = .between) (position : Nat) :
    lx.afterBlank.finish position = lx.finish position := by
  obtain ⟨arena, escape, mode, pending, last, groups, roots, issues, lastPosition⟩ := lx
  obtain rfl : mode = .between := h
  cases pending with
  | start | blank | delimiter d => rfl
  | adjacent => cases groups <;> cases roots <;> rfl

theorem finish_settle (h : lx.mode.quoting = .outside) (position : Nat) :
    (lx.settle position).finish position = lx.finish position := by
  unfold finish complete
  rw [settle_of_between (mode_settle_of_outside h position)]

/-- **Blanks at the end of a body change nothing.** -/
theorem unplaced_finish_blanks (hb : Blanks b) (hmode : lx.mode.quoting = .outside)
    (position stop : Nat) :
    (lx.feedAll position b).arena.unplaced = lx.arena.unplaced
      ∧ ((lx.feedAll position b).finish stop).unplaced = lx.unplaced.finish 0 := by
  by_cases hnil : b = []
  · rw [hnil]
    exact ⟨rfl, (lx.finish_unplaced stop).symm⟩
  · have hread := unplaced_feedAll_blanks hb hnil lx position hmode
    have hoff : lx.unplaced.mode.quoting = .outside := hmode
    refine ⟨(congrArg Lexer.arena hread).trans (lx.unplaced.arena_settle 0), ?_⟩
    rw [← finish_unplaced, hread, finish_afterBlank (mode_settle_of_outside hoff 0),
      finish_settle hoff]

/-- Before the first character blanks change nothing. -/
theorem unplaced_start_blanks (hb : Blanks b) (escape : Char) (position : Nat) :
    (feedAll { arena := {}, escape } position b).unplaced = { arena := {}, escape } := by
  have hstart : unplaced { arena := {}, escape } = { arena := {}, escape } := by
    simp [unplaced, Arena.unplaced]
  by_cases hnil : b = []
  · rw [hnil]
    exact hstart
  · rw [unplaced_feedAll_blanks hb hnil { arena := {}, escape } position rfl, hstart]
    rfl

theorem escape_feedAll (chars : List Char) :
    ∀ (lx : Lexer) (position : Nat), (lx.feedAll position chars).escape = lx.escape := by
  induction chars with
  | nil => exact fun _ _ => rfl
  | cons c rest ih => exact fun lx position => (ih _ _).trans (lx.quoting_feed c position).2

theorem quoting_feedAll_blanks (hb : Blanks b) :
    ∀ (lx : Lexer) (position : Nat), lx.mode.quoting = .outside →
      (lx.feedAll position b).mode.quoting = .outside := by
  induction b with
  | nil => exact fun _ _ h => h
  | cons c b ih =>
      intro lx position h
      refine ih (fun d hd => hb d (List.mem_cons_of_mem _ hd)) _ _ ?_
      rw [(lx.quoting_feed c position).1, h,
        Quoting.next_outside_of_isBlank (hb c List.mem_cons_self)]

end Lexer

/-! ## §3. Two bodies. -/

/-- **Rests of bodies that differ in their blanks only are read alike**, by lexers that differ in
positions only. -/
theorem Respaced.same {escape : Char} {q : Quoting} {s s' : List Char}
    (h : Respaced escape q s s') :
    ∀ (lx lx' : Lexer) (position position' stop stop' : Nat), lx.unplaced = lx'.unplaced →
      lx.escape = escape → lx.mode.quoting = q →
      (lx.feedAll position s).arena.unplaced = (lx'.feedAll position' s').arena.unplaced
        ∧ ((lx.feedAll position s).finish stop).unplaced
          = ((lx'.feedAll position' s').finish stop').unplaced := by
  -- on the rests: whatever is read of them, the lexers differ in positions only
  induction h with
  | nil =>
      intro lx lx' position position' stop stop' hsame _ _
      refine ⟨congrArg Lexer.arena hsame, ?_⟩
      show (lx.finish stop).unplaced = (lx'.finish stop').unplaced
      rw [← lx.finish_unplaced, hsame, lx'.finish_unplaced]
  | trailing blanks blanks' =>
      intro lx lx' position position' stop stop' hsame _ hquoting
      have hquoting' : lx'.mode.quoting = .outside :=
        (congrArg (fun x : Lexer => x.mode.quoting) hsame).symm.trans hquoting
      obtain ⟨harena, hfinish⟩ := Lexer.unplaced_finish_blanks blanks hquoting position stop
      obtain ⟨harena', hfinish'⟩ := Lexer.unplaced_finish_blanks blanks' hquoting' position' stop'
      exact ⟨(harena.trans (congrArg Lexer.arena hsame)).trans harena'.symm,
        (hfinish.trans (congrArg (Lexer.finish · 0) hsame)).trans hfinish'.symm⟩
  | @char q c s s' rest ih =>
      rintro lx lx' position position' stop stop' hsame rfl rfl
      obtain ⟨hquoting, hescape⟩ := lx.quoting_feed c position
      exact ih _ _ _ _ stop stop' (Lexer.feed_congr hsame c position position') hescape hquoting
  | @run b b' s s' blanks blanks' nonempty nonempty' rest ih =>
      rintro lx lx' position position' stop stop' hsame rfl hquoting
      have hquoting' : lx'.mode.quoting = .outside :=
        (congrArg (fun x : Lexer => x.mode.quoting) hsame).symm.trans hquoting
      -- both runs leave a lexer as a single blank would
      rw [Lexer.feedAll_append, Lexer.feedAll_append]
      refine ih _ _ _ _ stop stop' ?_ (Lexer.escape_feedAll b lx position)
        (Lexer.quoting_feedAll_blanks blanks lx position hquoting)
      rw [Lexer.unplaced_feedAll_blanks blanks nonempty lx position hquoting,
        Lexer.unplaced_feedAll_blanks blanks' nonempty' lx' position' hquoting', hsame]

/-- **Blanks are interchangeable.**  Two bodies that differ in their blanks only, outside of
literals and comments, have the same lexemes except for the ranges, the same roots, the same
comment and the same issues except for the positions, in the same order, whether they are well
formed or not.  So they have the same directive. -/
theorem read_respaced {escape : Char} {body other : String}
    (h : SameButBlanks escape body other) :
    let first := Expression.read body escape
    let second := Expression.read other escape
    first.1.unplaced = second.1.unplaced
      ∧ first.2.roots = second.2.roots
      ∧ first.2.comment = second.2.comment
      ∧ first.2.issues.map Issue.cause = second.2.issues.map Issue.cause
      ∧ Directive.classify first.1 first.2.roots = Directive.classify second.1 second.2.roots := by
  intro first second
  obtain ⟨b, b', s, s', hb, hb', hbody, hother, hrest⟩ := h
  have hstart := (Lexer.unplaced_start_blanks hb escape 0).trans
    (Lexer.unplaced_start_blanks hb' escape 0).symm
  have hsame : first.1.unplaced = second.1.unplaced
      ∧ first.2.unplaced = second.2.unplaced := by
    have hread := hrest.same _ _ (0 + byteCount b) (0 + byteCount b') body.utf8ByteSize
      other.utf8ByteSize hstart (Lexer.escape_feedAll b _ 0)
      (Lexer.quoting_feedAll_blanks hb _ 0 rfl)
    rw [← Lexer.feedAll_append, ← Lexer.feedAll_append, ← hbody, ← hother] at hread
    exact hread
  obtain ⟨harena, hexpression⟩ := hsame
  have hroots : first.2.roots = second.2.roots := (congrArg Expression.roots hexpression :)
  have hissues : first.2.issues.map Issue.unplaced = second.2.issues.map Issue.unplaced :=
    congrArg Expression.issues hexpression
  refine ⟨harena, hroots, (congrArg Expression.comment hexpression :), ?_, ?_⟩
  · have hcauses := congrArg (List.map Issue.cause) hissues
    rw [List.map_map, List.map_map] at hcauses
    exact hcauses
  · rw [← Directive.classify_unplaced first.1, harena, hroots, Directive.classify_unplaced]

/-- A body with a blank that is missing a comma, and a bracket that is closed by another one. -/
def crampedBody : String := "a .b(c  d]\t'x  y' # n  n"

/-- The same body with other blanks. -/
def airyBody : String := "\u3000a\n\n.b(c d] 'x  y'\u200b# n  n"

theorem read_respaced_crampedBody :
    let first := Expression.read crampedBody '\\'
    let second := Expression.read airyBody '\\'
    SameButBlanks '\\' crampedBody airyBody
      ∧ first.1.unplaced = second.1.unplaced
      ∧ first.1 ≠ second.1
      ∧ second.2.roots = [0, 4]
      ∧ second.2.comment = some " n  n"
      ∧ second.2.issues.map Issue.cause = [.blankInBrackets, .crossedBrackets .round .square]
      ∧ Directive.classify first.1 first.2.roots
        = Directive.classify second.1 second.2.roots := by
  intro first second
  have hsame : SameButBlanks '\\' crampedBody airyBody := by
    refine ⟨[], ['\u3000'], crampedBody.toList, airyBody.toList.tail, Blanks.nil,
      Blanks.nil.cons (by decide), rfl, by decide, ?_⟩
    have hblanks : ∀ b : List Char, b.all isBlank = true → Blanks b := fun b hb =>
      List.all_eq_true.1 hb
    have hrest : Respaced '\\' .outside ("a".toList ++ ([' '] ++ (".b(c".toList
          ++ ([' ', ' '] ++ ("d]".toList ++ (['\t'] ++ ("'x  y'".toList
          ++ ([' '] ++ "# n  n".toList))))))))
        ("a".toList ++ (['\n', '\n'] ++ (".b(c".toList
          ++ ([' '] ++ ("d]".toList ++ ([' '] ++ ("'x  y'".toList
          ++ (['\u200b'] ++ "# n  n".toList)))))))) := by
      refine .append _ (.run (hblanks _ (by decide)) (hblanks _ (by decide)) (by simp) (by simp) ?_)
      refine .append _ (.run (hblanks _ (by decide)) (hblanks _ (by decide)) (by simp) (by simp) ?_)
      refine .append _ (.run (hblanks _ (by decide)) (hblanks _ (by decide)) (by simp) (by simp) ?_)
      refine .append _ (.run (hblanks _ (by decide)) (hblanks _ (by decide)) (by simp) (by simp) ?_)
      exact .refl _ _
    exact hrest
  obtain ⟨harena, hroots, hcomment, hissues, hdirective⟩ := read_respaced hsame
  refine ⟨hsame, harena, by decide +kernel, hroots.symm.trans (by decide +kernel),
    hcomment.symm.trans (by decide +kernel), hissues.symm.trans (by decide +kernel), hdirective⟩

end LayerTemplates
