/-
  LayerTemplates.Proofs.Layer.Following
  ─────────────────────────────────────
  The links of a layer can be followed.

  Whatever the lexer of a placeholder is fed, its links are well founded after every character.
  One lexer after another adds to the arena of a layer, and each starts from a tidy arena, so the
  arena of a scanned layer is tidy as a whole.  There the bounds in the functions that follow
  links are never met: a path, a sibling list and a canonical text are what following links to
  their end gives, and every lexeme on the way is one of the arena.

  Main statements:
    * `Lexer.Orderly.feedEach` — feeding characters keeps the lexer orderly, and links.
    * `Arena.Tidy.spelt` — a canonical text is that of the whole expression.
    * `tidy_scan` — the arena of a scanned layer is tidy.
    * `links_well_founded` — all of it.
-/
import LayerTemplates.Lexeme.Canonical
import LayerTemplates.Proofs.Expression.Orderly
import LayerTemplates.Proofs.Layer.Scanning

namespace LayerTemplates

/-! ## §1. Characters one by one. -/

namespace Lexer

/-- The lexer after characters, each of which stands at a byte offset. -/
def feedEach (lx : Lexer) (fed : List (Char × Nat)) : Lexer :=
  fed.foldl (fun lx item => lx.feed item.1 item.2) lx

variable {first : Nat} {lx : Lexer}

/-- What every character keeps all of them keep, wherever they stand. -/
theorem feedEach_keeps {motive : Lexer → Prop}
    (step : ∀ lx c position, motive lx → motive (feed lx c position)) (fed : List (Char × Nat)) :
    ∀ lx : Lexer, motive lx → motive (lx.feedEach fed) := by
  induction fed with
  | nil => intro lx h; exact h
  | cons item fed ih => intro lx h; exact ih _ (step lx item.1 item.2 h)

/-- **Characters keep the lexer orderly, and the links that are set.** -/
theorem Orderly.feedEach (h : lx.Orderly first) (fed : List (Char × Nat)) :
    Advances first lx (lx.feedEach fed) := by
  apply feedEach_keeps (motive := Advances first lx)
  · intro lx' c position hlx'
    have hfed := hlx'.orderly.feed c position
    exact ⟨hfed.orderly, hlx'.kept.trans hfed.kept⟩
  · exact ⟨h, .refl _⟩

/-- The links that the lexer has set are well founded, and what it holds on to goes with what
stands before the next operand. -/
structure WellLinked (first : Nat) (lx : Lexer) : Prop where
  /-- Links that lead on go to newer lexemes, those that lead back to older ones, and no lexeme
  is led to twice. -/
  links : lx.arena.Tidy first
  /-- While nothing is being read, the body has just started if there is no root. -/
  start_iff : lx.mode.operand? = none → (lx.pending = .start ↔ lx.roots = [])
  /-- After an operand the innermost level has a lexeme for the next delimiter. -/
  anchored : lx.pending = .blank ∨ lx.pending = .adjacent →
    ∃ id : Nat, lx.anchor = some id ∧ first ≤ id ∧ id < lx.arena.size
  /-- Every open bracket has an owner. -/
  owned : ∀ group ∈ lx.groups, first ≤ group.owner ∧ group.owner < lx.arena.size

theorem Orderly.wellLinked (h : lx.Orderly first) (hrooted : lx.Rooted) :
    lx.WellLinked first where
  links := h.arena
  start_iff hmode := ⟨h.rootless hmode, fun hroots => (hrooted hroots).2.1⟩
  anchored hpending := by
    obtain ⟨id, hid⟩ := Option.ne_none_iff_exists'.1 (h.anchor_ne_none hpending.symm)
    have hfree := h.levels.free ((anchor_eq lx).symm.trans hid)
    exact ⟨id, hid, hfree.first_le, hfree.lt_size⟩
  owned := h.levels.owners

end Lexer

/-! ## §2. Following links to their end. -/

namespace Arena

/-- The text of the expression that starts at a lexeme: its path is followed to the end, the
argument lists on it to theirs, and the arguments have a text in the same way. -/
inductive Spelt (a : Arena) : Nat → String → Prop
  | path {id : Nat} {later : List Nat} (argument : Nat → String)
      (steps : a.Traced .child id (id :: later))
      (listed : ∀ step ∈ id :: later, ∀ arg : Nat, (a.get step).firstArg = some arg →
        a.Traced .next arg (a.siblings arg))
      (spelt : ∀ step ∈ id :: later, ∀ arg : Nat, (a.get step).firstArg = some arg →
        ∀ other ∈ a.siblings arg, Spelt a other (argument other)) :
      Spelt a id (a.stepText argument id ++ String.join (later.map (a.laterStepText argument)))

/-- All that starts at a lexeme is followed to its end, and stays in the arena. -/
structure Followed (a : Arena) (id : Nat) : Prop where
  deepest : ∃ before, a.Traced .child id (before ++ [a.deepest id])
  siblings : a.Traced .next id (a.siblings id)
  path : ∃ steps, a.Traced .child id steps ∧ a.path id = steps.map fun step => (a.get step).value
  expression : a.Spelt id (a.expression id)

variable {a : Arena} {id : Nat}

/-- In a tidy arena every chain of links is followed to its end. -/
theorem Tidy.traced (h : a.Tidy 0) (link : Link) (hid : id < a.size) :
    a.Traced link id (a.chain (fun l => l.link link) a.size id) :=
  (h.ahead link).traced (Nat.le_refl _) a.size id (Nat.zero_le _) hid (Nat.le_add_left _ _)

/-- **A canonical text is that of the whole expression**: arguments are newer than the lexeme
that they belong to, so they never nest deeper than the bound. -/
theorem Tidy.spelt (h : a.Tidy 0) (depth : Nat) :
    ∀ id : Nat, id < a.size → a.size ≤ id + depth → a.Spelt id (a.expressionWithin depth id) := by
  induction depth with
  | zero =>
      intro id hid hdepth
      omega
  | succ depth ih =>
      intro id hid hdepth
      have hsteps : a.Traced .child id (a.chain Lexeme.child a.size id) := h.traced .child hid
      have hnewer := hsteps.between (h.ahead .child) (Nat.zero_le _) hid
      obtain ⟨later, hlater⟩ := hsteps.exists_cons
      rw [hlater] at hsteps hnewer
      have hargument : ∀ step ∈ id :: later, ∀ arg : Nat, (a.get step).firstArg = some arg →
          id < arg ∧ arg < a.size := by
        intro step hstep arg harg
        have hforward := h.forward .firstArg step arg (Nat.zero_le _) harg
        have hbetween := hnewer step hstep
        omega
      unfold expressionWithin
      rw [hlater]
      refine .path _ hsteps ?_ ?_
      · intro step hstep arg harg
        exact h.traced .next (hargument step hstep arg harg).2
      · -- every argument is newer than the lexeme, so there is a level less below it
        intro step hstep arg harg other hother
        obtain ⟨hlt, hinside⟩ := hargument step hstep arg harg
        have hsiblings : a.Traced .next arg (a.siblings arg) := h.traced .next hinside
        have hbetween := hsiblings.between (h.ahead .next) (Nat.zero_le _) hinside other hother
        exact ih other (by omega) (by omega)

/-- **In a tidy arena links are followed to their end** from every lexeme. -/
theorem Tidy.followed (h : a.Tidy 0) (hid : id < a.size) : a.Followed id where
  deepest := by
    have hsteps : a.Traced .child id (a.chain Lexeme.child a.size id) := h.traced .child hid
    obtain ⟨before, hbefore⟩ := hsteps.exists_append id
    refine ⟨before, ?_⟩
    show a.Traced .child id (before ++ [(a.chain Lexeme.child a.size id).getLastD id])
    rw [← hbefore]
    exact hsteps
  siblings := h.traced .next hid
  path := ⟨_, h.traced .child hid, rfl⟩
  expression := h.spelt a.size id hid (Nat.le_add_left _ _)

end Arena

/-! ## §3. Layers. -/

theorem tidy_empty : Arena.Tidy 0 {} := Arena.tidy_size {}

theorem tidy_pushText {first : Nat} {arena : Arena} (h : arena.Tidy first) (chars : List Char)
    (start : Nat) : (pushText arena chars start).1.Tidy first := by
  unfold pushText
  split
  · exact h
  · exact h.alloc rfl

/-- Reading a placeholder keeps an arena tidy. -/
theorem tidy_readBody {arena : Arena} (h : arena.Tidy 0) (closeTag chars : List Char)
    (escape : Char) (position : Nat) :
    (readBody closeTag { arena, escape } position chars).lexer.arena.Tidy 0 := by
  have hread := readBody_readFrom closeTag chars { arena, escape } position
  rw [hread.lexer_eq]
  have hstart : Lexer.Orderly 0 { arena, escape } := Lexer.orderly_start h (Nat.zero_le _) escape
  exact (Lexer.feedAll_keeps (motive := Lexer.Orderly 0)
    (fun _ c position hlx => (hlx.feed c position).orderly) _ _ position hstart).arena

/-- **Scanning keeps an arena tidy**, one placeholder after another. -/
theorem tidy_scanFrom (tags : Tags) (fuel : Nat) :
    ∀ (position : Nat) (chars : List Char) (arena : Arena), arena.Tidy 0 →
      (scanFrom tags fuel position chars arena).arena.Tidy 0 := by
  induction fuel with
  | zero => intro position chars arena h; exact h
  | succ fuel ih =>
      intro position chars arena h
      unfold scanFrom
      dsimp only
      generalize breakAt tags.openTag.toList chars = broken
      obtain ⟨before, after⟩ := broken
      have htext := tidy_pushText h before position
      cases after with
      | nil => exact htext
      | cons c after =>
          dsimp only
          have hbody := tidy_readBody htext tags.closeTag.toList
            ((c :: after).drop tags.openTag.length) tags.escape
            (position + byteCount before + tags.openTag.utf8ByteSize)
          generalize readBody tags.closeTag.toList _ _ _ = body at hbody ⊢
          cases body.closing with
          | none => exact hbody
          | some closing => exact ih _ _ _ hbody

theorem tidy_scan (text : String) (tags : Tags) : (scan text tags).arena.Tidy 0 :=
  tidy_scanFrom tags (text.length + 1) 0 text.toList {} tidy_empty

/-- **The links of lexemes are always well founded.**  Whatever the lexer is fed, from whatever
arena it starts, after every character: it has left the lexemes of before alone, its own links
lead on to newer lexemes and back to older ones, no lexeme is led to twice, and no child link or
sibling link is replaced later on.  So in the arena of every scanned layer all that follows links
comes to an end inside the arena, from every lexeme. -/
theorem links_well_founded :
    (∀ (base : Arena) (escape : Char) (fed more : List (Char × Nat)),
      let lx := Lexer.feedEach { arena := base, escape } fed
      base.Extends lx.arena ∧ lx.WellLinked base.size
        ∧ lx.arena.Keeps (lx.feedEach more).arena)
      ∧ ∀ (text : String) (tags : Tags) (id : Nat), id < (scan text tags).arena.size →
        (scan text tags).arena.Followed id := by
  constructor
  · intro base escape fed more lx
    have hstart : Lexer.Orderly base.size { arena := base, escape } :=
      Lexer.orderly_start (Arena.tidy_size base) (Nat.le_refl _) escape
    have hfed : lx.Orderly base.size := (hstart.feedEach fed).orderly
    have hbeside : Lexer.Beside base lx := Lexer.feedEach_keeps (motive := Lexer.Beside base)
      (fun _ c position h => h.feed c position) fed _ (.start base escape)
    have hrooted : lx.Rooted := Lexer.feedEach_keeps (motive := Lexer.Rooted)
      (fun _ c position h => h.feed c position) fed _ (Lexer.rooted_start base escape)
    exact ⟨hbeside.arena.toExtends, hfed.wellLinked hrooted, (hfed.feedEach more).kept⟩
  · intro text tags id hid
    exact (tidy_scan text tags).followed hid

/-- A second argument list, a bracket that is closed by another one, and a path behind them. -/
theorem links_well_founded_crossed :
    let arena := (scan "\x7b\x7bf(x)(y).g([a])\x7d\x7d" {}).arena
    0 < arena.size ∧ arena.expression 0 = "f(y).g(a)" ∧ arena.Spelt 0 "f(y).g(a)" := by
  intro arena
  obtain ⟨hsize, hexpression⟩ : 0 < arena.size ∧ arena.expression 0 = "f(y).g(a)" := by
    decide +kernel
  have hfollowed : arena.Followed 0 := links_well_founded.2 _ {} 0 hsize
  exact ⟨hsize, hexpression, hexpression ▸ hfollowed.expression⟩

end LayerTemplates
