/-
  LayerTemplates.Proofs.Expression.Linking
  ────────────────────────────────────────
  Chains are linked as they are drawn.

  Between two suffixes the lexer rests at the last step of a path: it stands at the end of the
  arena, nothing hangs behind it yet, and the anchor leads to it.  A suffix takes such a lexer to
  one that rests at the step where the suffix ends, with the steps in between passed; whatever
  stands in front of the step stays as it is.  Arguments are shown from the index on at which the
  list starts, and only the lexeme that they hang on is changed by them.

  Main statements:
    * `Resting.delimited` — what a delimiter does to a lexer at rest.
    * `Draws.links` — what is drawn is linked.
-/
import LayerTemplates.Proofs.Expression.Hanging
import LayerTemplates.Proofs.Expression.Simulation

namespace LayerTemplates

namespace Lexer

variable {lx : Lexer} {b x : List Char} {start z : Nat} {place : Place} {s : Step}

/-! ## §1. Blanks and closing brackets. -/

theorem feed_blank (hmode : lx.mode = .between) {c : Char} (hc : isBlank c = true)
    (position : Nat) :
    lx.feed c position
      = { lx with
          pending := if lx.pending = .adjacent then .blank else lx.pending
          lastPosition := position } := by
  rw [feed_between lx hmode]
  unfold feedBetween
  dsimp only
  rw [if_pos hc]
  split <;> rfl

/-- Blanks change nothing, unless an operand stands right before them. -/
theorem feedAll_blanks (hb : Blanks b) :
    ∀ (lx : Lexer) (position : Nat), lx.mode = .between → lx.pending ≠ .adjacent →
      ∃ last, lx.feedAll position b = { lx with lastPosition := last } := by
  induction b with
  | nil => exact fun lx _ _ _ => ⟨lx.lastPosition, rfl⟩
  | cons c b ih =>
      intro lx position hmode hpending
      obtain ⟨last, hlast⟩ := ih (fun d hd => hb d (List.mem_cons_of_mem _ hd))
        { lx with lastPosition := position } (position + c.utf8Size) hmode hpending
      refine ⟨last, ?_⟩
      show (lx.feed c position).feedAll _ b = _
      rw [feed_blank hmode (hb c List.mem_cons_self), if_neg hpending, hlast]

/-- After an operand the first of them is noted. -/
theorem feedAll_blanks_adjacent (hmode : lx.mode = .between) (hpending : lx.pending = .adjacent)
    (hb : Blanks b) (position : Nat) :
    ∃ pending last, lx.feedAll position b = { lx with pending, lastPosition := last }
      ∧ (b = [] ∧ pending = .adjacent ∨ b ≠ [] ∧ pending = .blank) := by
  cases b with
  | nil =>
      refine ⟨.adjacent, lx.lastPosition, ?_, .inl ⟨rfl, rfl⟩⟩
      rw [← hpending]
      rfl
  | cons c b =>
      obtain ⟨last, hlast⟩ := feedAll_blanks (b := b) (fun d hd => hb d (List.mem_cons_of_mem _ hd))
        { lx with pending := .blank, lastPosition := position } (position + c.utf8Size) hmode
        (by simp)
      refine ⟨.blank, last, ?_, .inr ⟨by simp, rfl⟩⟩
      show (lx.feed c position).feedAll _ b = _
      rw [feed_blank hmode (hb c List.mem_cons_self), if_pos hpending, hlast]

/-- A bracket is closed where something stands in it, or where an argument list is empty. -/
theorem feed_close (hmode : lx.mode = .between) {group : Group} {outer : List Group}
    (hgroups : lx.groups = group :: outer) (hclosable : Closable lx.pending group.bracket)
    (position : Nat) :
    lx.feed group.bracket.closeSymbol position
      = { lx with groups := outer, pending := .adjacent, lastPosition := position } := by
  have hsymbol : ∀ (lx : Lexer) (bracket : Bracket),
      lx.feedBetween bracket.closeSymbol position = lx.closeBracket bracket position := by
    intro lx bracket
    cases bracket <;> rfl
  have hnoted : noteDoubled { lx with lastPosition := position } group.bracket position
      = { lx with lastPosition := position } :=
    @noteDoubled_eq { lx with lastPosition := position } _ hclosable position
  rw [feed_between lx hmode, hsymbol]
  unfold closeBracket
  rw [hnoted]
  dsimp only
  rw [hgroups]
  dsimp only
  rw [if_pos rfl]

/-- A comma stands after an argument. -/
theorem feed_comma (hmode : lx.mode = .between)
    (hpending : lx.pending = .adjacent ∨ lx.pending = .blank) {group : Group} {outer : List Group}
    (hgroups : lx.groups = group :: outer) (hround : group.bracket = .round) (position : Nat) :
    lx.feed ',' position
      = { lx with pending := .delimiter .comma, lastPosition := position } := by
  rw [feed_between lx hmode]
  show comma _ _ = _
  unfold comma
  dsimp only
  rw [hgroups]
  rcases hpending with hpending | hpending <;> rw [hpending] <;> simp [hround]

/-- The symbol of a delimiter other than a comma. -/
theorem feed_delimiter (lx : Lexer) (hmode : lx.mode = .between) {d : Delimiter} (hd : d ≠ .comma)
    (position : Nat) :
    lx.feed d.symbol position = { lx with lastPosition := position }.delimit d position := by
  rw [feed_between lx hmode]
  cases d with
  | comma => exact absurd rfl hd
  | dot => rfl
  | opening bracket => cases bracket <;> rfl

/-- Blanks go on with no word. -/
theorem stops_append {rest : List Char} (hb : Blanks b) (hrest : Stops rest) :
    Stops (b ++ rest) := by
  cases b with
  | nil => exact hrest
  | cons c b =>
      intro d hd
      obtain rfl := Option.some.inj hd
      exact isLexemeChar_of_isBlank (hb _ List.mem_cons_self)

/-! ## §2. Lexers at rest. -/

/-- The lexer rests at the last step of a path, which started at the anchor. -/
structure Resting (lx : Lexer) (start : Nat) (place : Place) (z : Nat) (s : Step) : Prop where
  mode : lx.mode = .between
  pending : lx.pending = .adjacent
  anchored : lx.anchor = some start
  leads : lx.arena.Leads start z
  ending : lx.arena.Ending place z s
  size : lx.arena.size = z + s.size

/-- What a dot or an opening bracket after the last step does, apart from asking for an operand:
a bracket belongs to that step, and an argument list makes a function of it. -/
def opened (lx : Lexer) (z : Nat) : Delimiter → Lexer
  | .dot | .comma => lx
  | .opening .square => { lx with groups := { bracket := .square, owner := z } :: lx.groups }
  | .opening .round =>
      { lx with
        arena := lx.arena.modify z fun l => { l with kind := .function }
        groups := { bracket := .round, owner := z } :: lx.groups }

/-- No blank stands between an operator that leads a body and a suffix of it. -/
def Unguarded (lx : Lexer) (start : Nat) (x : List Char) : Prop :=
  lx.groups = [] → lx.roots = [start] → (lx.arena.operatorAt? start).isSome = true →
    ∀ c, x.head? = some c → isBlank c = false

/-- In brackets there is no such operator. -/
theorem unguarded_of_groups {group : Group} {outer : List Group}
    (h : lx.groups = group :: outer) : lx.Unguarded start x := by
  intro hgroups
  rw [h] at hgroups
  exact absurd hgroups (by simp)

/-- A path or an argument list makes another thing of an operator. -/
theorem unguarded_of_links (h : (lx.arena.get start).links ≠ (none, false)) :
    lx.Unguarded start x := by
  intro _ _ hoperator
  rw [Arena.isSome_operatorAt?, Lexeme.word?_of_links h] at hoperator
  exact absurd hoperator (by simp [namesOperator])

/-- The end of a path, and whether it has an argument list. -/
theorem links_ending {a : Arena} (h : a.Ending place z s) :
    (a.get z).links = (none, s.kind == .function) :=
  congrArg Lexeme.links h.view

namespace Resting

variable (h : lx.Resting start place z s)

include h

theorem ends : lx.arena.Ends start z (s.kind == .function) where
  leads := h.leads
  links := links_ending h.ending
  inside := by
    show z < lx.arena.size
    rw [h.size]
    unfold Step.size
    omega

theorem rested_eq : lx.rested lx.arena lx.lastPosition = lx := by
  unfold rested
  rw [← h.mode, ← h.pending]

/-- Blanks come before a delimiter, which the lexer does not refuse. -/
theorem approach (hb : Blanks b) {rest : List Char} {c : Char}
    (hfree : lx.Unguarded start (b ++ c :: rest)) (position : Nat) :
    ∃ pending last, lx.feedAll position b = { lx with pending, lastPosition := last }
      ∧ (pending = .adjacent ∨ pending = .blank)
      ∧ ∀ last, ¬ isOperatorAnchor { lx with pending, lastPosition := last } start = true := by
  obtain ⟨pending, last, hfed, hpending⟩ :=
    feedAll_blanks_adjacent h.mode h.pending hb position
  refine ⟨pending, last, hfed, hpending.imp And.right And.right, fun last hoperator => ?_⟩
  unfold isOperatorAnchor at hoperator
  simp only [Bool.and_eq_true, beq_iff_eq, List.isEmpty_iff] at hoperator
  obtain ⟨⟨⟨hblank, hgroups⟩, hroots⟩, hnames⟩ := hoperator
  rcases hpending with ⟨-, hadjacent⟩ | ⟨hne, -⟩
  · rw [hadjacent] at hblank
    exact absurd hblank (by simp)
  · cases b with
    | nil => exact hne rfl
    | cons c b =>
        have hc := hfree hgroups hroots hnames c rfl
        rw [hb c List.mem_cons_self] at hc
        exact absurd hc (by simp)

/-- A delimiter belongs to the last step. -/
theorem delimit_eq {d : Delimiter} (hd : d ≠ .comma) (hs : d = .opening .round → s.kind ≠ .function)
    {pending : Pending} (hpending : pending = .adjacent ∨ pending = .blank) {last : Nat}
    (hoperator : ¬ isOperatorAnchor { lx with pending, lastPosition := last } start = true) :
    delimit { lx with pending, lastPosition := last } d last
      = { lx.opened z d with pending := .delimiter d, lastPosition := last } := by
  let near : Lexer := { lx with pending, lastPosition := last }
  obtain ⟨hdot, hopening⟩ := @delimit_of_anchor near start hpending h.anchored hoperator last
  cases d with
  | comma => exact absurd rfl hd
  | dot => exact hdot
  | opening bracket =>
      rw [hopening]
      unfold openBracket
      rw [show near.arena.deepest start = z from h.ends.deepest_eq]
      cases bracket with
      | square => rfl
      | round =>
          have hkind : (lx.arena.get z).kind ≠ .function := by
            rw [show (lx.arena.get z).kind = s.kind from congrArg Lexeme.kind h.ending.view]
            exact hs rfl
          dsimp only
          rw [if_neg (show ¬ (near.arena.get z).kind = .function from hkind)]
          rfl

/-- **A delimiter** other than a comma, with blanks around it. -/
theorem delimited {d : Delimiter} (hd : d ≠ .comma)
    (hs : d = .opening .round → s.kind ≠ .function) {b' rest : List Char} (hb : Blanks b)
    (hb' : Blanks b') (hfree : lx.Unguarded start (b ++ d.symbol :: rest)) (position : Nat) :
    ∃ last, lx.feedAll position (b ++ d.symbol :: b')
      = { lx.opened z d with pending := .delimiter d, lastPosition := last } := by
  obtain ⟨pending, last, hfed, hpending, hoperator⟩ := h.approach hb hfree position
  have hopened := h.delimit_eq hd hs hpending (hoperator (position + byteCount b))
  have hmode : (lx.opened z d).mode = .between := by
    rw [← h.mode]
    rcases d with _ | _ | bracket
    · rfl
    · rfl
    · cases bracket <;> rfl
  obtain ⟨last', hfed'⟩ := feedAll_blanks hb'
    { lx.opened z d with pending := .delimiter d, lastPosition := position + byteCount b }
    (position + byteCount b + d.symbol.utf8Size) hmode (by simp)
  refine ⟨last', ?_⟩
  rw [feedAll_append, hfed]
  show (feed { lx with pending, lastPosition := last } d.symbol _).feedAll _ b' = _
  rw [feed_delimiter { lx with pending, lastPosition := last } h.mode hd, hopened, hfed']

/-- A closing bracket after an operand, with blanks between. -/
theorem closed {group : Group} {outer : List Group} (hgroups : lx.groups = group :: outer)
    (hb : Blanks b) (position : Nat) :
    ∃ last, lx.feedAll position (b ++ [group.bracket.closeSymbol])
      = { lx with groups := outer, lastPosition := last } := by
  obtain ⟨pending, last, hfed, hpending⟩ :=
    feedAll_blanks_adjacent h.mode h.pending hb position
  have hclosed := @feed_close { lx with pending, lastPosition := last } h.mode _ _ hgroups
    (hpending.imp And.right fun hblank => .inl hblank.2) (position + byteCount b)
  refine ⟨position + byteCount b, ?_⟩
  rw [feedAll_append, hfed]
  dsimp only [feedAll]
  rw [hclosed, ← h.pending]

end Resting

/-! ## §3. Steps that are passed. -/

variable {a a' : Arena} {o : Operand} {kind : LexemeKind} {source : Option Nat}
  {link : Lexeme → Lexeme} {steps : List Step} {last : Place} {stop : Nat}

/-- In front of an index where nothing has changed paths are the same. -/
theorem kept_of_view {bound : Nat} (h : ∀ j < bound, a'.view j = a.view j) : a.Kept a' bound :=
  fun j hj => show (a'.view j).links = (a.view j).links from congrArg Lexeme.links (h j hj)

/-- Steps that were passed lead to the next one. -/
theorem leads_of_passed (h : a.Passed place z steps last stop) : a.Leads z stop := by
  induction h with
  | here => exact .refl
  | @step place last id stop s later view arguments rest ih =>
      have hchild : (a.get id).child = some (id + s.size) := congrArg Lexeme.child view
      have hnewer : id < id + s.size := by
        unfold Step.size
        omega
      exact .step hchild hnewer ih

/-- The last step is passed when it gets a next one. -/
theorem passed_of_ending (h : a.Ending place z s)
    (hz : a'.view z = { a.view z with child := some (z + s.size) })
    (hsame : ∀ j, z < j → j < z + s.size → a'.view j = a.view j) :
    a'.Passed place z [s] { role := .child, parent := some z } (z + s.size) := by
  refine .step ?_ ?_ .here
  · rw [hz, h.view]
    rfl
  · refine h.arguments.congr fun j hj hlt => hsame j (by omega) ?_
    unfold Step.size
    omega

/-- The lexer rests at an operand that was hung. -/
theorem resting_of_gains (after : Lexer) (h : lx.arena.Gains a (o.step kind) place source link)
    (hleads : a.Leads start lx.arena.size) (hanchor : after.anchor = some start) (last : Nat) :
    (after.rested a last).Resting start place lx.arena.size (o.step kind) where
  mode := rfl
  pending := rfl
  anchored := hanchor
  leads := hleads
  ending := ⟨h.new, trivial⟩
  size := h.size

theorem Resting.unguarded (h : lx.Resting start place z s)
    (hs : start < z ∨ s.kind = .function) : lx.Unguarded start x := by
  refine unguarded_of_links fun hlinks => ?_
  by_cases heq : start = z
  · rcases hs with hlt | hfunction
    · exact Nat.ne_of_lt hlt heq
    · rw [heq, links_ending h.ending, hfunction] at hlinks
      exact absurd hlinks (by simp)
  · exact h.leads.child_isSome heq (congrArg Prod.fst hlinks)

/-! ## §4. What is drawn is linked. -/

/-- The lexer goes on from one step to another, and the steps before that are passed. -/
def Extends (lx : Lexer) (start : Nat) (place : Place) (z : Nat) (passed : List Step) (last : Step)
    (position : Nat) (x : List Char) : Prop :=
  ∃ a place' z' stop, lx.Becomes position x (lx.rested a stop)
    ∧ (lx.rested a stop).Resting start place' z' last ∧ a.Passed place z passed place' z'
    ∧ ∀ j < z, a.view j = lx.arena.view j

/-- The lexer reads arguments, which are shown from the end of the arena on, and hang on an older
lexeme; its bracket is still open. -/
def Fills (lx : Lexer) (group : Group) (outer : List Group) (place : Place) (source : Option Nat)
    (link : Lexeme → Lexeme) (shape : Shape) (position : Nat) (x : List Char) : Prop :=
  ∃ a last pending stop, lx.Becomes position x
      { lx.rested a stop with groups := { group with last } :: outer, pending }
    ∧ (pending = .adjacent ∨ pending = .blank) ∧ a.Shows place lx.arena.size shape
    ∧ a.size = lx.arena.size + shape.size
    ∧ ∀ j < lx.arena.size, a.view j
      = if source = some j then link (lx.arena.view j) else lx.arena.view j

/-- What characters that stand for something do to a lexer. -/
def Links (escape : Char) : Part → List Char → Prop
  | .suffixes s passed last, x =>
      ∀ (lx : Lexer) (start : Nat) (place : Place) (z position : Nat), lx.escape = escape →
        lx.Resting start place z s → lx.Unguarded start x →
          lx.Extends start place z passed last position x
  | .arguments shape, x =>
      ∀ (lx : Lexer) (group : Group) (outer : List Group) (place : Place) (source : Option Nat)
        (link : Lexeme → Lexeme) (position : Nat), lx.escape = escape → lx.mode = .between →
        (∃ d, lx.pending = .delimiter d) → group.bracket = .round →
        lx.Hangs { lx with groups := { group with last := some lx.arena.size } :: outer }
          .argument place source link →
          lx.Fills group outer place source link shape position x

variable {escape : Char} {position : Nat} {b' b'' p y args : List Char} {passed more : List Step}
  {final inner : Step} {shape : Shape}

theorem links_done : Links escape (.suffixes s [] s) [] := by
  intro lx start place z position _ h _
  refine ⟨lx.arena, place, z, lx.lastPosition, ?_, ?_, .here, fun _ _ => rfl⟩
  · rw [h.rested_eq]
    exact .refl _ _
  · rw [h.rested_eq]
    exact h

/-- An operand that is hung as the next step passes the last one. -/
theorem Resting.gained (h : lx.Resting start place z s)
    (hgains : lx.arena.Gains a (o.step kind) { role := .child, parent := some z } (some z)
      fun l => { l with child := some lx.arena.size }) :
    a.Passed place z [s] { role := .child, parent := some z } lx.arena.size
      ∧ ∀ j < z, a.view j = lx.arena.view j := by
  have hz : z < lx.arena.size := h.ends.inside
  refine ⟨?_, fun j hj => ?_⟩
  · rw [h.size]
    refine passed_of_ending h.ending ?_ fun j hj hlt => ?_
    · rw [hgains.others z hz, if_pos rfl, h.size]
    · rw [hgains.others j (h.size ▸ hlt), if_neg (by simp; omega)]
  · rw [hgains.others j (Nat.lt_trans hj hz), if_neg (by simp; omega)]

theorem links_dot (hb : Blanks b) (hb' : Blanks b') (hp : Spelling escape p o)
    (hx : ∀ rest, Stops rest → Stops (x ++ rest))
    (ih : Links escape (.suffixes (o.step .plain) passed final) x) :
    Links escape (.suffixes s (s :: passed) final) (b ++ '.' :: (b' ++ (p ++ x))) := by
  intro lx start place z position hescape h hfree
  obtain ⟨q, hfed⟩ := h.delimited (d := .dot) (by simp) (by simp) hb hb' hfree position
  have hhangs := @hangs_step { lx with pending := .delimiter .dot, lastPosition := q } start z _
    rfl h.anchored h.ends
  obtain ⟨a, q', hread, hgains⟩ := hhangs.reads h.mode rfl (hescape ▸ hp) (by simp)
    (position + byteCount (b ++ '.' :: b'))
  obtain ⟨hstep, hbefore⟩ := h.gained hgains
  have hz : z < lx.arena.size := h.ends.inside
  have hleads : a.Leads start lx.arena.size :=
    (h.leads.kept (kept_of_view hbefore) (Nat.le_refl _)).trans (leads_of_passed hstep)
  have hrest := resting_of_gains lx hgains hleads h.anchored q'
  obtain ⟨a', place', z', q'', hread', hrest', hpassed, hsame⟩ :=
    ih (lx.rested a q') start _ lx.arena.size (position + byteCount (b ++ '.' :: b') + byteCount p)
      hescape hrest (hrest.unguarded (.inl (Nat.lt_of_le_of_lt h.leads.le hz)))
  refine ⟨a', place', z', q'', ?_, hrest', ?_, fun j hj => ?_⟩
  · rw [show b ++ '.' :: (b' ++ (p ++ x)) = (b ++ '.' :: b') ++ (p ++ x) by simp]
    exact .fed hfed (.append hread hread' hx)
  · exact (hstep.congr fun j _ hlt => hsame j hlt).append hpassed
  · exact (hsame j (Nat.lt_trans hj hz)).trans (hbefore j hj)

/-- The path goes on through the brackets. -/
theorem links_square (hb : Blanks b) (hb' : Blanks b') (hp : Spelling escape p o)
    (hx : ∀ rest, Stops rest → Stops (x ++ rest)) (hb'' : Blanks b'')
    (ihx : Links escape (.suffixes (o.step .element) passed inner) x)
    (ihy : Links escape (.suffixes inner more final) y) :
    Links escape (.suffixes s (s :: (passed ++ more)) final)
      (b ++ '[' :: (b' ++ (p ++ (x ++ (b'' ++ ']' :: y))))) := by
  intro lx start place z position hescape h hfree
  obtain ⟨q, hfed⟩ :=
    h.delimited (d := .opening .square) (by simp) (by simp) hb hb' hfree position
  let group : Group := { bracket := .square, owner := z }
  have hz : z < lx.arena.size := h.ends.inside
  have hhangs := @hangs_element { lx with
    groups := group :: lx.groups, pending := .delimiter (.opening .square), lastPosition := q }
    group lx.groups rfl rfl hz
  obtain ⟨a, q', hread, hgains⟩ := hhangs.reads h.mode rfl (hescape ▸ hp) (by simp)
    (position + byteCount (b ++ '[' :: b'))
  obtain ⟨hstep, hbefore⟩ := h.gained hgains
  -- inside the brackets
  let opened : Lexer := { lx with groups := { group with last := some lx.arena.size } :: lx.groups }
  have hrest := resting_of_gains opened hgains .refl rfl q'
  obtain ⟨a₁, place₁, z₁, q₁, hread₁, hrest₁, hpassed₁, hsame₁⟩ :=
    ihx (opened.rested a q') _ _ _ (position + byteCount (b ++ '[' :: b') + byteCount p) hescape
      hrest (unguarded_of_groups rfl)
  -- behind them
  have hleads : a₁.Leads start z₁ := by
    refine Arena.Leads.trans ?_ hrest₁.leads
    refine Arena.Leads.kept (a := a) ?_ (kept_of_view hsame₁) (Nat.le_refl _)
    exact (h.leads.kept (kept_of_view hbefore) (Nat.le_refl _)).trans (leads_of_passed hstep)
  obtain ⟨last, hclosed⟩ := hrest₁.closed rfl hb''
    (position + byteCount (b ++ '[' :: b') + byteCount p + byteCount x)
  have hrest₂ : (lx.rested a₁ last).Resting start place₁ z₁ inner :=
    ⟨rfl, rfl, h.anchored, hleads, hrest₁.ending, hrest₁.size⟩
  have hnewer : start < z₁ :=
    Nat.lt_of_le_of_lt h.leads.le (Nat.lt_of_lt_of_le hz hrest₁.leads.le)
  obtain ⟨a₂, place₂, z₂, q₂, hread₂, hrest₂, hpassed₂, hsame₂⟩ :=
    ihy (lx.rested a₁ last) start place₁ z₁
      (position + byteCount (b ++ '[' :: b') + byteCount p + byteCount x + byteCount (b'' ++ [']']))
      hescape hrest₂ (hrest₂.unguarded (.inl hnewer))
  have hkept : ∀ j < lx.arena.size, a₂.view j = a.view j := fun j hj =>
    (hsame₂ j (Nat.lt_of_lt_of_le hj hrest₁.leads.le)).trans (hsame₁ j hj)
  refine ⟨a₂, place₂, z₂, q₂, ?_, hrest₂, ?_, fun j hj => ?_⟩
  · have hchars : b ++ '[' :: (b' ++ (p ++ (x ++ (b'' ++ ']' :: y))))
        = (b ++ '[' :: b') ++ (p ++ (x ++ ((b'' ++ [']']) ++ y))) := by simp
    have hstops : ∀ rest, Stops ((b'' ++ [']']) ++ y ++ rest) := fun rest => by
      rw [List.append_assoc, List.append_assoc]
      exact stops_blanks hb'' (by decide)
    rw [hchars]
    refine .fed hfed (.append hread (.append hread₁ (.fed hclosed hread₂) ?_) ?_)
    · exact fun rest _ => hstops rest
    · intro rest _
      rw [List.append_assoc]
      exact hx _ (hstops rest)
  · have hstep₂ := hstep.congr fun j _ hlt => hkept j hlt
    exact hstep₂.append ((hpassed₁.congr fun j _ hlt => hsame₂ j hlt).append hpassed₂)
  · exact (hkept j (Nat.lt_trans hj hz)).trans (hbefore j hj)

/-- What opening an argument list does to the last step, which was none of a function. -/
theorem Resting.called (h : lx.Resting start place z s) (hs : s.arguments = .nothing) :
    let a := lx.arena.modify z fun l => { l with kind := .function }
    a.view z = (s.call .nothing).lexeme place none none none
      ∧ ∀ j ≠ z, a.view j = lx.arena.view j := by
  refine ⟨?_, fun j hj => ?_⟩
  · have hview := h.ending.view
    rw [hs] at hview
    unfold Arena.view at hview ⊢
    rw [Arena.get_modify_self _ _ h.ends.inside]
    exact congrArg (fun l : Lexeme => { l with kind := .function }) hview
  · unfold Arena.view
    rw [Arena.get_modify_of_ne _ _ hj]

/-- An empty argument list. -/
theorem links_call (hs : s.Uncalled) (hb : Blanks b) (hb' : Blanks b')
    (ih : Links escape (.suffixes (s.call .nothing) passed final) x) :
    Links escape (.suffixes s passed final) (b ++ '(' :: (b' ++ ')' :: x)) := by
  intro lx start place z position hescape h hfree
  obtain ⟨q, hfed⟩ := h.delimited (d := .opening .round) (by simp) (fun _ => hs.1) hb hb' hfree
    position
  obtain ⟨hview, hsame⟩ := h.called hs.2
  let a : Arena := lx.arena.modify z fun l => { l with kind := .function }
  let q' : Nat := position + byteCount (b ++ '(' :: b')
  have hclosed := @feed_close { lx with
    arena := a, groups := { bracket := .round, owner := z } :: lx.groups
    pending := .delimiter (.opening .round), lastPosition := q } h.mode _ _ rfl
    (.inr (.inr ⟨rfl, rfl⟩)) q'
  have hrest : (lx.rested a q').Resting start place z (s.call .nothing) := by
    refine ⟨rfl, rfl, h.anchored, ?_, ⟨hview, trivial⟩, ?_⟩
    · exact h.leads.kept (kept_of_view fun j hj => hsame j (Nat.ne_of_lt hj)) (Nat.le_refl _)
    · show Arena.size (Arena.modify _ _ _) = z + (1 + 0)
      rw [Arena.size_modify, h.size, Step.size, hs.2]
      rfl
  obtain ⟨a', place', z', q'', hread', hrest', hpassed, hsame'⟩ :=
    ih (lx.rested a q') start place z (position + byteCount (b ++ '(' :: (b' ++ [')']))) hescape
      hrest (hrest.unguarded (.inr rfl))
  refine ⟨a', place', z', q'', ?_, hrest', hpassed, fun j hj => ?_⟩
  · rw [show b ++ '(' :: (b' ++ ')' :: x) = (b ++ '(' :: (b' ++ [')'])) ++ x by simp]
    refine .fed ?_ hread'
    rw [show b ++ '(' :: (b' ++ [')']) = (b ++ '(' :: b') ++ [')'] by simp, feedAll_append]
    refine (congrArg (fun lx => feedAll lx q' [')']) hfed).trans (hclosed.trans ?_)
    unfold rested
    rw [← h.mode]
  · exact (hsame' j hj).trans (hsame j (Nat.ne_of_lt hj))

/-- Arguments hang on the last step. -/
theorem links_round (hs : s.Uncalled) (hb : Blanks b) (hshape : ∀ i, shape.link? i = some i)
    (ihargs : Links escape (.arguments shape) args)
    (ih : Links escape (.suffixes (s.call shape) passed final) x) :
    Links escape (.suffixes s passed final) (b ++ '(' :: (args ++ ')' :: x)) := by
  intro lx start place z position hescape h hfree
  obtain ⟨q, hfed⟩ := h.delimited (d := .opening .round) (by simp) (fun _ => hs.1) hb .nil hfree
    position
  obtain ⟨hview, hsame⟩ := h.called hs.2
  let a : Arena := lx.arena.modify z fun l => { l with kind := .function }
  let group : Group := { bracket := .round, owner := z }
  let opened : Lexer := { lx with
    arena := a, groups := group :: lx.groups
    pending := .delimiter (.opening .round), lastPosition := q }
  have hz : z < lx.arena.size := h.ends.inside
  have hsize : a.size = lx.arena.size := Arena.size_modify _ _ _
  have hnext : a.size = z + 1 := by
    rw [hsize, h.size, Step.size, hs.2]
    rfl
  have hhangs := @hangs_argument opened group lx.groups rfl rfl (hsize ▸ hz)
  obtain ⟨a', last, pending, q', hread, hpending, hshows, hsize', hsame'⟩ :=
    ihargs opened group lx.groups _ _ _ (position + byteCount (b ++ ['('])) hescape h.mode
      ⟨_, rfl⟩ rfl hhangs
  -- the list is closed
  let q₁ : Nat := position + byteCount (b ++ ['(']) + byteCount args
  have hclosed := @feed_close { opened.rested a' q' with
    groups := { group with last } :: lx.groups, pending } rfl _ _ rfl
    (hpending.imp_right .inl) q₁
  have hbefore : ∀ j < z, a'.view j = lx.arena.view j := fun j hj => by
    rw [hsame' j (hsize ▸ Nat.lt_trans hj hz),
      if_neg (show ¬ some z = some j by simp; omega)]
    exact hsame j (Nat.ne_of_lt hj)
  have hrest : (lx.rested a' q₁).Resting start place z (s.call shape) := by
    refine ⟨rfl, rfl, h.anchored, ?_, ⟨?_, hnext ▸ hshows⟩, ?_⟩
    · exact h.leads.kept (kept_of_view hbefore) (Nat.le_refl _)
    · show a'.view z = _
      rw [hsame' z (hsize ▸ hz), if_pos rfl, hview, show opened.arena.size = z + 1 from hnext,
        show (s.call shape).arguments.link? (z + 1) = some (z + 1) from hshape _]
      rfl
    · show a'.size = z + (1 + shape.size)
      rw [hsize', show opened.arena.size = z + 1 from hnext, Nat.add_assoc]
  obtain ⟨a₁, place₁, z₁, q₂, hread₁, hrest₁, hpassed₁, hsame₁⟩ :=
    ih (lx.rested a' q₁) start place z (q₁ + byteCount [')']) hescape hrest
      (hrest.unguarded (.inr rfl))
  refine ⟨a₁, place₁, z₁, q₂, ?_, hrest₁, hpassed₁, fun j hj => ?_⟩
  · rw [show b ++ '(' :: (args ++ ')' :: x) = (b ++ ['(']) ++ (args ++ ([')'] ++ x)) by simp]
    refine .fed hfed (.append hread (.fed hclosed hread₁) ?_)
    exact fun rest _ => stops_blanks .nil (by decide)
  · exact (hsame₁ j hj).trans (hbefore j hj)

/-- **An operand and its suffixes** are linked where the operand is hung. -/
theorem Hangs.chain {after : Lexer} (h : lx.Hangs after kind place source link)
    (hmode : lx.mode = .between) (hescape : lx.escape = escape) (hafter : after.escape = escape)
    (hanchor : after.anchor = some lx.arena.size) (hp : Spelling escape p o)
    (hsign : lx.pending = .start → p.head? ≠ some '=')
    (hx : ∀ rest, Stops rest → Stops (x ++ rest))
    (hfree : ∀ a stop, lx.arena.Gains a (o.step kind) place source link →
      (after.rested a stop).Unguarded lx.arena.size x)
    (ih : Links escape (.suffixes (o.step kind) passed final) x) (position : Nat) :
    ∃ a stop, lx.Becomes position (p ++ x) (after.rested a stop)
      ∧ a.Shows place lx.arena.size (.path (passed ++ [final]) .nothing)
      ∧ lx.arena.size + (Shape.path (passed ++ [final]) .nothing).size = a.size
      ∧ ∀ j < lx.arena.size, a.view j
        = if source = some j then link (lx.arena.view j) else lx.arena.view j := by
  obtain ⟨a, q, hread, hgains⟩ :=
    h.reads hmode (hafter.trans hescape.symm) (hescape ▸ hp) hsign position
  have hrest := resting_of_gains after hgains .refl hanchor q
  obtain ⟨a', place', z', q', hread', hrest', hpassed, hsame⟩ :=
    ih (after.rested a q) _ _ _ (position + byteCount p) hafter hrest (hfree a q hgains)
  obtain ⟨hshows, hstop⟩ := hpassed.shows hrest'.ending
  refine ⟨a', q', .append hread hread' hx, hshows, ?_, fun j hj => ?_⟩
  · rw [hstop]
    exact hrest'.size.symm
  · rw [hsame j hj]
    exact hgains.others j hj

/-- The operand with which an argument starts, and its suffixes. -/
theorem fills_argument {group : Group} {outer : List Group} (hescape : lx.escape = escape)
    (hmode : lx.mode = .between) (hpending : ∃ d, lx.pending = .delimiter d)
    (hhangs : lx.Hangs { lx with groups := { group with last := some lx.arena.size } :: outer }
      .argument place source link)
    (hb : Blanks b) (hp : Spelling escape p o)
    (hx : ∀ rest, Stops rest → Stops (x ++ rest))
    (ih : Links escape (.suffixes (o.step .argument) passed final) x) (hb' : Blanks b')
    (position : Nat) :
    ∃ a pending stop, lx.Becomes position (b ++ (p ++ x ++ b'))
        { lx.rested a stop with
          groups := { group with last := some lx.arena.size } :: outer, pending }
      ∧ (pending = .adjacent ∨ pending = .blank)
      ∧ a.Shows place lx.arena.size (.path (passed ++ [final]) .nothing)
      ∧ lx.arena.size + (Shape.path (passed ++ [final]) .nothing).size = a.size
      ∧ ∀ j < lx.arena.size, a.view j
        = if source = some j then link (lx.arena.view j) else lx.arena.view j := by
  obtain ⟨d, hd⟩ := hpending
  have hnone : lx.pending ≠ .adjacent ∧ lx.pending ≠ .start := by rw [hd]; simp
  obtain ⟨q, hfed⟩ := feedAll_blanks hb lx position hmode hnone.1
  let opened : Lexer := { lx with groups := { group with last := some lx.arena.size } :: outer }
  obtain ⟨a, q', hread, hshows, hsize, hsame⟩ := @Hangs.chain { lx with lastPosition := q } _ _ _ _ _
    _ _ _ _ _ opened hhangs hmode hescape hescape rfl hp (fun hstart => absurd hstart hnone.2) hx
    (fun _ _ _ => unguarded_of_groups rfl) ih (position + byteCount b)
  obtain ⟨pending, last, hspaced, hpending⟩ := @feedAll_blanks_adjacent (opened.rested a q') b' rfl
    rfl hb' (position + byteCount b + byteCount (p ++ x))
  refine ⟨a, pending, last, .fed hfed (.append hread ?_ ?_), hpending.imp And.right And.right,
    hshows, hsize, hsame⟩
  · have hfed' := Becomes.fed hspaced (.refl _ _)
    rw [List.append_nil] at hfed'
    exact hfed'
  · exact fun rest hrest => stops_append hb' hrest

theorem links_argument (hb : Blanks b) (hp : Spelling escape p o)
    (hx : ∀ rest, Stops rest → Stops (x ++ rest))
    (ih : Links escape (.suffixes (o.step .argument) passed final) x) (hb' : Blanks b') :
    Links escape (.arguments (.path (passed ++ [final]) .nothing)) (b ++ (p ++ (x ++ b'))) := by
  intro lx group outer place source link position hescape hmode hpending hround hhangs
  obtain ⟨a, pending, stop, hread, hrest, hshows, hsize, hsame⟩ :=
    fills_argument hescape hmode hpending hhangs hb hp hx ih hb' position
  rw [← List.append_assoc p]
  exact ⟨a, some lx.arena.size, pending, stop, hread, hrest, hshows, hsize.symm, hsame⟩

/-- A further argument is the sibling of the one before it. -/
theorem links_more (hb : Blanks b) (hp : Spelling escape p o)
    (hx : ∀ rest, Stops rest → Stops (x ++ rest))
    (ihx : Links escape (.suffixes (o.step .argument) passed final) x) (hb' : Blanks b')
    (hshape : ∀ i, shape.link? i = some i) (ih : Links escape (.arguments shape) args) :
    Links escape (.arguments (.path (passed ++ [final]) shape))
      (b ++ (p ++ (x ++ (b' ++ ',' :: args)))) := by
  intro lx group outer place source link position hescape hmode hpending hround hhangs
  obtain ⟨a, pending, stop, hread, hafter, hshows, hsize, hsame⟩ := fills_argument
    hescape hmode hpending hhangs hb hp hx ihx hb' position
  have hne : passed ++ [final] ≠ [] := by simp
  have hpositive : lx.arena.size < a.size :=
    hsize ▸ Nat.lt_add_of_pos_right (Shape.size_path_pos passed final .nothing)
  -- the comma asks for an operand beside the first one
  let position' : Nat := position + byteCount (b ++ (p ++ x ++ b'))
  let filled : Group := { group with last := some lx.arena.size }
  have hcomma := @feed_comma { lx.rested a stop with groups := filled :: outer, pending } rfl hafter
    filled outer rfl hround position'
  let between : Lexer := { lx.rested a stop with
    groups := filled :: outer, pending := .delimiter .comma, lastPosition := position' }
  have hparent : (a.view lx.arena.size).parent = place.parent := by
    cases passed <;> exact congrArg Lexeme.parent hshows.1
  have hfurther := @hangs_further between filled outer lx.arena.size rfl rfl hround rfl hpositive
  obtain ⟨a', last, pending', stop', hread', hafter', hshows', hsize', hsame'⟩ :=
    ih between filled outer _ _ _ (position' + byteCount [',']) hescape rfl ⟨_, rfl⟩ hround hfurther
  refine ⟨a', last, pending', stop', ?_, hafter', ?_, ?_, fun j hj => ?_⟩
  · rw [show b ++ (p ++ (x ++ (b' ++ ',' :: args))) = b ++ (p ++ x ++ b') ++ ([','] ++ args) by
      simp]
    refine .append hread (.fed hcomma hread') fun rest _ => ?_
    exact stops_blanks .nil (by decide)
  · refine hshows.followed hne hsize ?_ (fun j hj hlt => ?_) ?_
    · rw [hsame' _ hpositive, if_pos rfl, hshape]
      rfl
    · rw [hsame' j hlt, if_neg (show ¬ some lx.arena.size = some j by simp; omega)]
      rfl
    · rw [← hparent]
      exact hshows'
  · rw [Shape.size_path _ hne, hsize', show between.arena.size = a.size from rfl, ← hsize,
      Nat.add_assoc]
  · rw [hsame' j (Nat.lt_trans hj hpositive),
      if_neg (show ¬ some lx.arena.size = some j by simp; omega)]
    exact hsame j hj

end Lexer

/-- Arguments that are not empty have a first one. -/
theorem Draws.link?_arguments {escape : Char} {shape : Shape} {x : List Char} {ts : List Token}
    (h : Draws escape (.arguments shape) x ts) (i : Nat) : shape.link? i = some i := by
  cases h with
  | @argument o last passed => cases passed <;> rfl
  | @more o last passed => cases passed <;> rfl

/-- **What is drawn is linked.** -/
theorem Draws.links {escape : Char} {part : Part} {x : List Char} {ts : List Token}
    (h : Draws escape part x ts) : Lexer.Links escape part x := by
  -- one case per rule of the grammar
  induction h with
  | done => exact Lexer.links_done
  | dot before behind step rest ih =>
      exact Lexer.links_dot before behind step (fun _ => rest.stops) ih
  | square before behind head inside close rest ihx ihy =>
      exact Lexer.links_square before behind head (fun _ => inside.stops) close ihx ihy
  | call uncalled before behind rest ih => exact Lexer.links_call uncalled before behind ih
  | round uncalled before inside rest ihx ih =>
      exact Lexer.links_round uncalled before inside.link?_arguments ihx ih
  | argument before head inside behind ih =>
      exact Lexer.links_argument before head (fun _ => inside.stops) ih behind
  | more before head inside behind rest ihx ih =>
      exact Lexer.links_more before head (fun _ => inside.stops) ihx behind rest.link?_arguments ih

end LayerTemplates
