/-
  LayerTemplates.Proofs.Expression.Layout
  ───────────────────────────────────────
  What is read of a body that is laid out in chains.

  The chains of a body become its roots, in this order, and each root is the sibling of the one
  before it.  Between two chains the lexer rests at the end of the arena, outside brackets, and the
  last root has no sibling yet; a further chain links it to a new root and changes nothing else.
  So what is read can be told from the chains: the lexemes of the arena are those of their paths,
  in the order in which they are written.

  Main statements:
    * `Strung.roots` — chains become roots.
    * `Laid.holds` — what is read of a body that is laid out in chains.
    * `read_holds` — every body without an issue is laid out in chains, which are what is read.
-/
import LayerTemplates.Proofs.Expression.Lexing
import LayerTemplates.Proofs.Expression.Linking

namespace LayerTemplates

/-! ## §1. Chains and roots. -/

namespace Chain

/-- The paths of chains, each of them the sibling of the one before it. -/
def shape : List Chain → Shape
  | [] => .nothing
  | c :: others => .path c.steps (shape others)

/-- The indices of the roots, if the lexemes of the chains stand from an index on. -/
def rootsFrom : Nat → List Chain → List Nat
  | _, [] => []
  | id, c :: others => id :: rootsFrom (id + (Shape.path c.steps .nothing).size) others

@[simp] theorem length_rootsFrom (chains : List Chain) :
    ∀ id, (rootsFrom id chains).length = chains.length := by
  induction chains with
  | nil => exact fun _ => rfl
  | cons c others ih => exact fun _ => congrArg Nat.succ (ih _)

theorem steps_of_ne_nil (o : Operand) (ts : List Token) {passed : List Step} {last : Step} :
    (Chain.of o ts passed last).steps ≠ [] :=
  List.concat_ne_nil last passed

end Chain

/-- What was read of a body in chains: their paths, one after another, and no issue. -/
structure Expression.Holds (a : Arena) (e : Expression) (chains : List Chain) : Prop where
  clean : e.issues = []
  roots : e.roots = Chain.rootsFrom 0 chains
  shows : a.Shows { role := .root } 0 (Chain.shape chains)
  size : a.size = (Chain.shape chains).size

namespace Lexer

variable {lx : Lexer} {escape : Char} {position x : Nat} {b m t : List Char} {chains : List Chain}

/-! ## §2. Between chains. -/

/-- The lexer rests outside brackets, after a root that has no sibling. -/
structure Apart (lx : Lexer) (x : Nat) : Prop where
  mode : lx.mode = .between
  pending : lx.pending = .adjacent ∨ lx.pending = .blank
  groups : lx.groups = []
  last : lx.last = some x
  roots : lx.roots ≠ []
  inside : x < lx.arena.size
  parent : (lx.arena.view x).parent = none
  next : (lx.arena.view x).next = none

/-- The lexer reads further chains: the last root gets a sibling, and nothing else changes of what
was there. -/
def Goes (lx : Lexer) (x position : Nat) (m : List Char) (chains : List Chain) : Prop :=
  ∃ (a : Arena) (last : Option Nat) (pending : Pending) (stop : Nat), lx.Becomes position m
      { lx.rested a stop with
        pending, last, roots := lx.roots ++ Chain.rootsFrom lx.arena.size chains }
    ∧ (pending = .adjacent ∨ pending = .blank)
    ∧ a.Shows { role := .sibling, prev := some x } lx.arena.size (Chain.shape chains)
    ∧ a.size = lx.arena.size + (Chain.shape chains).size
    ∧ a.view x = { lx.arena.view x with next := (Chain.shape chains).link? lx.arena.size }
    ∧ ∀ j < lx.arena.size, j ≠ x → a.view j = lx.arena.view j

theorem feedAll_blanks_of_ne_nil (h : lx.Apart x) (hb : Blanks b) (hne : b ≠ []) (position : Nat) :
    ∃ last, lx.feedAll position b = { lx with pending := .blank, lastPosition := last } := by
  rcases h.pending with hpending | hpending
  · obtain ⟨pending, last, hfed, hb' | hb'⟩ :=
      feedAll_blanks_adjacent h.mode hpending hb position
    · exact absurd hb'.1 hne
    · rw [hb'.2] at hfed
      exact ⟨last, hfed⟩
  · obtain ⟨last, hfed⟩ := feedAll_blanks hb lx position h.mode (by rw [hpending]; simp)
    refine ⟨last, ?_⟩
    rw [← hpending]
    exact hfed

theorem Apart.spaced (h : lx.Apart x) (last : Nat) :
    Apart { lx with pending := .blank, lastPosition := last } x :=
  ⟨h.mode, .inr rfl, h.groups, h.last, h.roots, h.inside, h.parent, h.next⟩

/-- A lexer with two roots is not at a leading operator. -/
theorem unguarded_of_roots {start : Nat} {rest : List Char} {roots : List Nat}
    (h : lx.roots = roots ++ [start]) (hroots : roots ≠ []) : lx.Unguarded start rest := by
  intro _ hsingle
  rw [h] at hsingle
  have hlength := congrArg List.length hsingle
  rw [List.length_append] at hlength
  exact absurd (List.length_eq_zero_iff.1 (Nat.succ.inj hlength)) hroots

/-- The lexer rests after a chain that became a root. -/
theorem apart_of_shows (lx : Lexer) {a : Arena} {place : Place} {id : Nat} {passed : List Step} {final : Step}
    (hshows : a.Shows place id (.path (passed ++ [final]) .nothing)) (hplace : place.parent = none)
    (hsize : id + (Shape.path (passed ++ [final]) .nothing).size = a.size)
    (hgroups : lx.groups = []) (roots : List Nat) (stop : Nat) :
    Apart { lx.rested a stop with roots := roots ++ [id], last := some id } id := by
  have hinside : id < a.size :=
    hsize ▸ Nat.lt_add_of_pos_right (Shape.size_path_pos passed final .nothing)
  have hfirst : (a.view id).parent = place.parent ∧ (a.view id).next = none := by
    cases passed <;> exact ⟨congrArg Lexeme.parent hshows.1, congrArg Lexeme.next hshows.1⟩
  exact ⟨rfl, .inl rfl, hgroups, rfl, by simp, hinside, hfirst.1.trans hplace, hfirst.2⟩

/-- A further chain, where blanks stand before it. -/
theorem Apart.chain {o : Operand} {final : Step} {passed : List Step} {p y : List Char}
    {ts : List Token} (h : lx.Apart x) (hblank : lx.pending = .blank) (hescape : lx.escape = escape)
    (hp : Spelling escape p o)
    (htail : Draws escape (.suffixes (o.step .plain) passed final) y ts) (position : Nat) :
    ∃ (a : Arena) (after : Lexer), lx.Becomes position (p ++ y) after
      ∧ (∃ stop, after = { lx.rested a stop with
          roots := lx.roots ++ [lx.arena.size], last := some lx.arena.size })
      ∧ after.Apart lx.arena.size
      ∧ a.Shows { role := .sibling, prev := some x } lx.arena.size
          (.path (passed ++ [final]) .nothing)
      ∧ lx.arena.size + (Shape.path (passed ++ [final]) .nothing).size = a.size
      ∧ a.view x = { lx.arena.view x with next := some lx.arena.size }
      ∧ ∀ j < lx.arena.size, j ≠ x → a.view j = lx.arena.view j := by
  let linked : Lexer :=
    { lx with roots := lx.roots ++ [lx.arena.size], last := some lx.arena.size }
  have hhangs := hangs_root hblank h.groups h.last h.inside
  rw [h.parent] at hhangs
  obtain ⟨a, stop, hread, hshows, hsize, hsame⟩ := @Hangs.chain lx y _ _ _ _ _ escape p passed
    final linked hhangs h.mode hescape hescape
    (by unfold anchor; rw [show linked.groups = [] from h.groups]) hp
    (fun hstart => by rw [hblank] at hstart; exact absurd hstart (by simp))
    (fun _ => htail.stops) (fun _ _ _ => unguarded_of_roots rfl h.roots) htail.links position
  refine ⟨a, _, hread, ⟨stop, rfl⟩, apart_of_shows lx hshows rfl hsize h.groups _ stop, hshows,
    hsize, ?_, fun j hj hne => ?_⟩
  · rw [hsame x h.inside, if_pos rfl]
  · rw [hsame j hj, if_neg (by simpa using Ne.symm hne)]

end Lexer

open Lexer

variable {escape : Char} {m t : List Char} {chains : List Chain}

/-- Further chains start with a blank. -/
theorem Strung.stops {rest : List Char} (h : Strung escape m chains) (hrest : Stops rest) :
    Stops (m ++ rest) := by
  cases h with
  | nil => exact hrest
  | @cons o final passed b p y t ts chains nonempty blanks head tail others =>
      cases b with
      | nil => exact absurd rfl nonempty
      | cons c b =>
          intro d hd
          obtain rfl := Option.some.inj hd
          exact isLexemeChar_of_isBlank (blanks _ List.mem_cons_self)

/-- A chain becomes a root, and those behind it become others. -/
theorem Lexer.Apart.goes {lx : Lexer} {x : Nat} {o : Operand} {final : Step}
    {passed : List Step} {p y : List Char} {ts : List Token} (h : lx.Apart x)
    (hblank : lx.pending = .blank) (hescape : lx.escape = escape) (hp : Spelling escape p o)
    (htail : Draws escape (.suffixes (o.step .plain) passed final) y ts)
    (hm : Strung escape m chains)
    (ih : ∀ (lx : Lexer) (x position : Nat), lx.escape = escape → lx.Apart x →
      lx.Goes x position m chains) (position : Nat) :
    lx.Goes x position (p ++ (y ++ m)) (.of o ts passed final :: chains) := by
  obtain ⟨a, after, hread, ⟨stop, rfl⟩, hafter, hshows, hsize, hfirst, hsame⟩ :=
    h.chain hblank hescape hp htail position
  -- the chain becomes a root, and the others go on from it
  let linked : Lexer := { lx.rested a stop with
    roots := lx.roots ++ [lx.arena.size], last := some lx.arena.size }
  obtain ⟨a', last, pending, stop', hread', hpending, hshows', hsize', hfirst', hsame'⟩ :=
    ih linked lx.arena.size (position + byteCount (p ++ y)) hescape hafter
  have hpositive : lx.arena.size < a.size := hafter.inside
  refine ⟨a', last, pending, stop', ?_, hpending, ?_, ?_, ?_, fun j hj hne => ?_⟩
  · have hroots : lx.roots ++ Chain.rootsFrom lx.arena.size (.of o ts passed final :: chains)
        = linked.roots ++ Chain.rootsFrom linked.arena.size chains := by
      show _ = (lx.roots ++ [lx.arena.size]) ++ Chain.rootsFrom a.size chains
      rw [Chain.rootsFrom, ← hsize, List.append_assoc]
      rfl
    rw [hroots, ← List.append_assoc p]
    exact .append hread hread' fun _ => hm.stops
  · refine hshows.followed (Chain.steps_of_ne_nil o ts) hsize hfirst' (fun j hj hlt => ?_) hshows'
    exact hsame' j hlt (Nat.ne_of_gt hj)
  · show a'.size = lx.arena.size + (Shape.path (passed ++ [final]) (Chain.shape chains)).size
    rw [Shape.size_path _ (by simp), hsize', show linked.arena.size = a.size from rfl, ← hsize,
      Nat.add_assoc]
  · rw [hsame' x (Nat.lt_trans h.inside hpositive) (Nat.ne_of_lt h.inside)]
    show a.view x = { lx.arena.view x with
      next := (Shape.path (passed ++ [final]) (Chain.shape chains)).link? lx.arena.size }
    rw [hfirst]
    cases passed <;> rfl
  · rw [hsame' j (Nat.lt_trans hj hpositive) (Nat.ne_of_lt hj)]
    exact hsame j hj hne

/-- **Chains become roots.** -/
theorem Strung.roots (h : Strung escape m chains) :
    ∀ (lx : Lexer) (x position : Nat), lx.escape = escape → lx.Apart x →
      lx.Goes x position m chains := by
  -- from the first chain on; each is linked to the one before it
  induction h with
  | nil =>
      intro lx x position _ h
      have hrested : { lx.rested lx.arena lx.lastPosition with pending := lx.pending } = lx := by
        unfold rested
        rw [← h.mode]
      refine ⟨lx.arena, lx.last, lx.pending, lx.lastPosition, ?_, h.pending, trivial, rfl, ?_,
        fun _ _ _ => rfl⟩
      · rw [Chain.rootsFrom, List.append_nil]
        exact hrested.symm ▸ .refl lx position
      · rw [Chain.shape, Shape.link?_nothing, ← h.next]
  | @cons o final passed b p y t ts chains nonempty blanks head tail rest ih =>
      intro lx x position hescape h
      obtain ⟨q, hfed⟩ := feedAll_blanks_of_ne_nil h blanks nonempty position
      let near : Lexer := { lx with pending := .blank, lastPosition := q }
      have hnear : near.Apart x := h.spaced q
      obtain ⟨a, last, pending, stop, hread, hrest⟩ :=
        hnear.goes rfl hescape head tail rest ih (position + byteCount b)
      exact ⟨a, last, pending, stop, .fed hfed hread, hrest⟩

/-! ## §3. Bodies. -/

namespace Lexer

variable {lx : Lexer} {position x : Nat} {b : List Char}

theorem feedAll_comment (chars : List Char) :
    ∀ (lx : Lexer) (position : Nat) (text : String), lx.mode = .comment text →
      ∃ text' last, lx.feedAll position chars
        = { lx with mode := .comment text', lastPosition := last } := by
  induction chars with
  | nil => exact fun lx _ text hmode => ⟨text, lx.lastPosition, by rw [← hmode]; rfl⟩
  | cons c chars ih =>
      intro lx position text hmode
      have hfed : lx.feed c position
          = { lx with mode := .comment (text.push c), lastPosition := position } := by
        unfold feed
        rw [hmode]
      obtain ⟨text', last, hrest⟩ := ih
        { lx with mode := .comment (text.push c), lastPosition := position }
        (position + c.utf8Size) _ rfl
      refine ⟨text', last, ?_⟩
      show (lx.feed c position).feedAll _ chars = _
      rw [hfed, hrest]

/-- Blanks and a comment at the end of a body change no lexeme. -/
theorem feedAll_ending (hmode : lx.mode = .between)
    (hpending : lx.pending = .adjacent ∨ lx.pending = .blank) (ht : Ending t) (position : Nat) :
    ∃ mode pending last, lx.feedAll position t = { lx with mode, pending, lastPosition := last }
      ∧ (mode = .between ∨ ∃ text, mode = .comment text) ∧ ∀ d, pending ≠ .delimiter d := by
  -- blanks behind an operand change at most what is pending
  have hblanks : ∀ b, Blanks b → ∃ pending last, lx.feedAll position b
      = { lx with pending, lastPosition := last } ∧ (pending = .adjacent ∨ pending = .blank) := by
    intro b hb
    rcases hpending with hadjacent | hblank
    · obtain ⟨pending, last, hfed, hpending⟩ :=
        feedAll_blanks_adjacent hmode hadjacent hb position
      exact ⟨pending, last, hfed, hpending.imp And.right And.right⟩
    · obtain ⟨last, hfed⟩ := feedAll_blanks hb lx position hmode (by rw [hblank]; simp)
      exact ⟨.blank, last, by rw [hfed, ← hblank], .inr rfl⟩
  have hnone : ∀ pending : Pending, (pending = .adjacent ∨ pending = .blank) →
      pending ≠ .start ∧ ∀ d, pending ≠ .delimiter d := by
    rintro pending (rfl | rfl) <;> simp
  cases ht with
  | blanks hb =>
      obtain ⟨pending, last, hfed, hafter⟩ := hblanks _ hb
      refine ⟨.between, pending, last, ?_, .inl rfl, (hnone pending hafter).2⟩
      rw [hfed, ← hmode]
  | @comment b text hb =>
      obtain ⟨pending, last, hfed, hafter⟩ := hblanks _ hb
      let near : Lexer := { lx with pending, lastPosition := position + byteCount b }
      have hsign : feed { lx with pending, lastPosition := last } '#' (position + byteCount b)
          = { near with mode := .comment "" } := by
        rw [feed_between { lx with pending, lastPosition := last } hmode]
        show (let lx := if near.pending = .start then near.operatorSign '#' _ else near
          { lx with mode := .comment "" }) = _
        rw [if_neg (hnone pending hafter).1]
      obtain ⟨text', last', hrest⟩ := feedAll_comment text { near with mode := .comment "" }
        (position + byteCount b + '#'.utf8Size) "" rfl
      refine ⟨.comment text', pending, last', ?_, .inr ⟨_, rfl⟩, (hnone pending hafter).2⟩
      rw [feedAll_append, hfed]
      show (feed { lx with pending, lastPosition := last } '#' _).feedAll _ text = _
      rw [hsign, hrest]

/-- Nothing is amiss at the end of a body that has a root and nothing open. -/
theorem issues_finish (hmode : lx.mode = .between ∨ ∃ text, lx.mode = .comment text)
    (hpending : ∀ d, lx.pending ≠ .delimiter d) (hgroups : lx.groups = []) (hroots : lx.roots ≠ [])
    (hissues : lx.issues = []) (stop : Nat) : (lx.finish stop).issues = [] := by
  have hsettled : lx.settle stop = lx := by
    unfold settle
    rcases hmode with hmode | ⟨text, hmode⟩ <;> rw [hmode]
  rw [issues_finish_eq_nil_iff, hsettled]
  exact ⟨hissues, hpending, hgroups, fun hnone => absurd hnone hroots⟩

/-- What is read of a body in which a first part has been read, and further chains follow. -/
theorem Apart.outcome (h : lx.Apart x) (hissues : lx.issues = [])
    (hm : lx.Goes x position m chains) (ht : Ending t) (stop : Nat) :
    let e := lx.outcome position (m ++ t) stop
    e.2.issues = [] ∧ e.2.roots = lx.roots ++ Chain.rootsFrom lx.arena.size chains
      ∧ e.1.Shows { role := .sibling, prev := some x } lx.arena.size (Chain.shape chains)
      ∧ e.1.size = lx.arena.size + (Chain.shape chains).size
      ∧ e.1.view x = { lx.arena.view x with next := (Chain.shape chains).link? lx.arena.size }
      ∧ ∀ j < lx.arena.size, j ≠ x → e.1.view j = lx.arena.view j := by
  obtain ⟨a, last, pending, stop', hread, hpending, hshows, hsize, hfirst, hsame⟩ := hm
  let read : Lexer := { lx.rested a stop' with
    pending, last, roots := lx.roots ++ Chain.rootsFrom lx.arena.size chains }
  obtain ⟨mode, pending', last', hfed, hmode, hpending'⟩ :=
    @feedAll_ending t read rfl hpending ht (position + byteCount m)
  let ended : Lexer := { read with mode, pending := pending', lastPosition := last' }
  have houtcome : lx.outcome position (m ++ t) stop = (a, ended.finish stop) := by
    rw [hread t stop ht.stops]
    show ((feedAll read _ t).arena, (feedAll read _ t).finish stop) = _
    rw [hfed]
    rfl
  have hroots : ended.roots ≠ [] := by simp [ended, read, h.roots]
  have hclean := @issues_finish ended hmode hpending' h.groups hroots hissues stop
  rw [houtcome]
  exact ⟨hclean, ended.roots_finish stop, hshows, hsize, hfirst, hsame⟩

/-- What is read of a body in which the first chain has been read, and others follow. -/
theorem Apart.holds {c : Chain} (h : lx.Apart 0) (hissues : lx.issues = []) (hroots : lx.roots = [0])
    (hshows : lx.arena.Shows { role := .root } 0 (.path c.steps .nothing))
    (hsize : (Shape.path c.steps .nothing).size = lx.arena.size) (hne : c.steps ≠ [])
    (hm : lx.Goes 0 position m chains) (ht : Ending t) (stop : Nat) :
    Expression.Holds (lx.outcome position (m ++ t) stop).1 (lx.outcome position (m ++ t) stop).2
      (c :: chains) := by
  obtain ⟨hclean, hroots', hshows', hsize', hfirst, hsame⟩ := h.outcome hissues hm ht stop
  refine ⟨hclean, ?_, ?_, ?_⟩
  · rw [hroots', hroots, Chain.rootsFrom, Nat.zero_add, hsize]
    rfl
  · refine hshows.followed hne (by rw [Nat.zero_add, hsize]) hfirst (fun j hj hlt => ?_) hshows'
    exact hsame j hlt (Nat.ne_of_gt hj)
  · rw [hsize', Chain.shape, Shape.size_path _ hne, hsize]

/-- The lexer after a leading sign. -/
def signed (escape c : Char) (position : Nat) : Lexer :=
  { arena := ⟨#[{ value := String.singleton c, span := ⟨position, position + c.utf8Size⟩ }]⟩
    escape, pending := .blank, last := some 0, roots := [0], lastPosition := position }

theorem signed_apart (escape c : Char) (position : Nat) : (signed escape c position).Apart 0 :=
  ⟨rfl, .inr rfl, rfl, rfl, by simp [signed], Nat.zero_lt_one, rfl, rfl⟩

end Lexer

/-- A word that names an operator and leads a body is a keyword. -/
theorem Spelling.isKeyword {p : List Char} {o : Operand} (h : Spelling escape p o)
    (hunsigned : p.head? ≠ some '=') (hform : o.form = .plain) (hquote : o.quote = none)
    (hoperator : (Operator.ofKeyword? o.value).isSome = true) : IsKeyword p := by
  cases h with
  | word nonempty chars =>
      obtain ⟨operator, hnames⟩ := Option.isSome_iff_exists.1 hoperator
      refine isKeyword_of_ofKeyword? hnames ?_ ?_
      · rintro rfl
        exact hunsigned rfl
      · rintro rfl
        exact absurd (chars '#' List.mem_cons_self) (by decide)
  | literal => exact absurd hquote (by simp [Operand.inQuotes])
  | ancestor => exact absurd hform (by simp)

/-- A leading operand is guarded from what follows if it is a keyword. -/
theorem Lexer.unguarded_leading {lx : Lexer} {a : Arena} {o : Operand} {p x : List Char}
    {place : Place} {id stop : Nat} (hview : a.view id = (o.step .plain).lexeme place none none none)
    (ho : Spelling escape p o) (hunsigned : p.head? ≠ some '=')
    (hapart : IsKeyword p → ∀ c, x.head? = some c → isBlank c = false) :
    (lx.rested a stop).Unguarded id x := by
  intro _ _ hoperator
  refine hapart (ho.isKeyword hunsigned ?_ ?_ ?_) <;>
    unfold Arena.operatorAt? at hoperator <;> dsimp only at hoperator <;> split at hoperator
  · next hplain =>
      rw [show ((lx.rested a stop).arena.get id).form = o.form from congrArg Lexeme.form hview]
        at hplain
      exact hplain.1
  · exact absurd hoperator (by simp)
  · next hplain =>
      rw [show ((lx.rested a stop).arena.get id).quote = o.quote from congrArg Lexeme.quote hview]
        at hplain
      exact hplain.2.1
  · exact absurd hoperator (by simp)
  · rw [show ((lx.rested a stop).arena.get id).value = o.value from congrArg Lexeme.value hview]
      at hoperator
    exact hoperator
  · exact absurd hoperator (by simp)

/-- The lexer at the start of a body. -/
def Lexer.atStart (escape : Char) (last : Nat) : Lexer := { arena := {}, escape, lastPosition := last }

theorem outcome_blanks {b : List Char} (hb : Blanks b) (rest : List Char) (stop : Nat) :
    ∃ last, (atStart escape 0).outcome 0 (b ++ rest) stop
      = (atStart escape last).outcome (0 + byteCount b) rest stop := by
  obtain ⟨last, hfed⟩ := feedAll_blanks hb (atStart escape 0) 0 rfl (by simp [atStart])
  exact ⟨last, by rw [outcome_append, hfed]; rfl⟩

/-- What is read behind an insert sign. -/
theorem holds_insert {o : Operand} {final : Step} {passed : List Step} {b p x : List Char}
    {ts : List Token} (hb : Blanks b) (head : Spelling escape p o)
    (tail : Draws escape (.suffixes (o.step .plain) passed final) x ts)
    (others : Strung escape m chains) (ending : Ending t) (position position' stop : Nat) :
    let e := (signed escape '=' position).outcome position' (b ++ (p ++ (x ++ (m ++ t)))) stop
    e.2.Holds e.1 (.sign '=' :: .of o ts passed final :: chains) := by
  obtain ⟨last, hfed⟩ := feedAll_blanks hb (signed escape '=' position) position' rfl
    (by simp [signed])
  let near : Lexer := { signed escape '=' position with lastPosition := last }
  have hnear : near.Apart 0 := (signed_apart escape '=' position).spaced last
  have hgoes := hnear.goes rfl rfl head tail others others.roots (position' + byteCount b)
  have hholds := hnear.holds (c := .sign '=') rfl rfl ⟨rfl, trivial, trivial, trivial⟩ rfl
    (by simp [Chain.sign]) hgoes ending stop
  rw [outcome_append, hfed]
  rw [List.append_assoc, List.append_assoc] at hholds
  exact hholds

/-- What is read of chains without a sign. -/
theorem holds_operands {o : Operand} {final : Step} {passed : List Step} {p x : List Char}
    {ts : List Token} (head : Spelling escape p o) (unsigned : p.head? ≠ some '=')
    (tail : Draws escape (.suffixes (o.step .plain) passed final) x ts)
    (apart : IsKeyword p → ∀ c, x.head? = some c → isBlank c = false)
    (others : Strung escape m chains) (ending : Ending t) (last position stop : Nat) :
    let e := (atStart escape last).outcome position (p ++ (x ++ (m ++ t))) stop
    e.2.Holds e.1 (.of o ts passed final :: chains) := by
  let linked : Lexer := { atStart escape last with roots := [0], last := some 0 }
  obtain ⟨a, stop', hchain, hshows, hsize, -⟩ := @Hangs.chain (atStart escape last) x _ _ _ _ _ escape
    p passed final linked (hangs_first rfl rfl) rfl rfl rfl rfl head (fun _ => unsigned)
    (fun _ => tail.stops) (fun a stop hgains => unguarded_leading hgains.new head unsigned apart)
    tail.links position
  have hapart : (linked.rested a stop').Apart 0 :=
    apart_of_shows (atStart escape last) hshows rfl hsize rfl [] stop'
  have hholds := hapart.holds (c := .of o ts passed final) rfl rfl hshows
    ((Nat.zero_add _).symm.trans hsize) (Chain.steps_of_ne_nil o ts)
    (others.roots (linked.rested a stop') 0 (position + byteCount (p ++ x)) rfl hapart) ending stop
  rw [← List.append_assoc p, hchain (m ++ t) stop (others.stops ending.stops)]
  exact hholds

/-- What is read of a comment. -/
theorem holds_comment (text : List Char) (last position stop : Nat) :
    let e := (atStart escape last).outcome position ('#' :: text) stop
    e.2.Holds e.1 [.sign '#'] := by
  let near : Lexer := { signed escape '#' position with mode := .comment "" }
  obtain ⟨text', last', hfed⟩ := feedAll_comment text near (position + '#'.utf8Size) "" rfl
  have hended : (atStart escape last).outcome position ('#' :: text) stop
      = (near.arena, finish { near with mode := .comment text', lastPosition := last' } stop) := by
    show ((feedAll near _ text).arena, (feedAll near _ text).finish stop) = _
    rw [hfed]
  dsimp only
  rw [hended]
  refine ⟨?_, roots_finish _ _, ⟨rfl, trivial, trivial, trivial⟩, rfl⟩
  exact issues_finish (.inr ⟨_, rfl⟩) (by simp [near, signed]) rfl (by simp [near, signed]) rfl stop

theorem Laid.outcome {body : List Char} (h : Laid escape body chains) (stop : Nat) :
    let e := (atStart escape 0).outcome 0 body stop
    e.2.Holds e.1 chains := by
  cases h with
  | @sign b t before ending =>
      obtain ⟨last, hread⟩ := outcome_blanks before ('=' :: t) stop
      dsimp only
      rw [hread]
      exact (signed_apart escape '=' _).holds (c := .sign '=') rfl rfl ⟨rfl, trivial, trivial, trivial⟩
        rfl (by simp [Chain.sign]) (Strung.nil.roots _ 0 _ rfl (signed_apart _ _ _)) ending stop
  | insert before behind head tail others ending =>
      obtain ⟨last, hread⟩ := outcome_blanks before _ stop
      dsimp only
      rw [hread]
      exact holds_insert behind head tail others ending _ _ stop
  | operands before head unsigned tail apart others ending =>
      obtain ⟨last, hread⟩ := outcome_blanks before _ stop
      dsimp only
      rw [hread]
      exact holds_operands head unsigned tail apart others ending _ _ stop
  | comment before =>
      obtain ⟨last, hread⟩ := outcome_blanks before _ stop
      dsimp only
      rw [hread]
      exact holds_comment _ _ _ stop

/-- **What is read of a body that is laid out in chains.** -/
theorem Laid.holds {body : String} (h : Laid escape body.toList chains) :
    Expression.Holds (Expression.read body escape).1 (Expression.read body escape).2 chains :=
  h.outcome body.utf8ByteSize

/-- **A body without an issue is laid out in chains**, and these are what is read of it. -/
theorem read_holds {body : String} (h : (Expression.read body escape).2.issues = []) :
    ∃ chains, Laid escape body.toList chains
      ∧ Expression.Holds (Expression.read body escape).1 (Expression.read body escape).2 chains := by
  obtain ⟨chains, hlaid⟩ := ((read_issues_eq_nil_iff body escape).1 h).laid
  exact ⟨chains, hlaid, hlaid.holds⟩

end LayerTemplates
