/-
  LayerTemplates.Proofs.Expression.Simulation
  ───────────────────────────────────────────
  The lexer and the machine, operand by operand and delimiter by delimiter.

  A lexer that has noted nothing and a configuration of the machine are in step by what they
  have in common: the brackets that are open, what stands before the next operand, whether the
  innermost lexeme has an argument list, and the word that leads the body.  Each operation of
  the lexer either keeps step or notes an issue where the machine stops.

  Main statements:
    * `InStep.begin` — the start of an operand that is in place.
    * `agrees_delimit`, `agrees_comma`, `agrees_close` — delimiters.
-/
import LayerTemplates.Proofs.Expression.Acceptor
import LayerTemplates.Proofs.Expression.Issues
import LayerTemplates.Proofs.Expression.Links

namespace LayerTemplates

/-! ## §1. The word that leads a body. -/

/-- The characters of a bare word without a path or arguments. -/
def Lexeme.word? (l : Lexeme) : Option (List Char) :=
  if l.form = .plain ∧ l.quote = none ∧ l.kind = .plain ∧ l.child = none then
    some l.value.toList
  else none

/-- The bare word that is all of the body, if it has one root and that is a word. -/
def leadOf (a : Arena) : List LexemeId → Option (List Char)
  | [id] => (a.get id).word?
  | _ => none

theorem Lexeme.word?_of_links {l : Lexeme} (h : l.links ≠ (none, false)) : l.word? = none := by
  unfold word?
  rw [if_neg]
  rintro ⟨-, -, hkind, hchild⟩
  apply h
  unfold links
  rw [hkind, hchild]
  rfl

theorem Lexeme.word?_of_quote {l : Lexeme} (h : l.quote ≠ none) : l.word? = none :=
  if_neg fun hword => h hword.2.1

theorem Lexeme.word?_of_form {l : Lexeme} (h : l.form ≠ .plain) : l.word? = none :=
  if_neg fun hword => h hword.1

/-- A lexeme names an operator if its word does. -/
theorem Arena.isSome_operatorAt? (a : Arena) (id : LexemeId) :
    (a.operatorAt? id).isSome = namesOperator (a.get id).word? := by
  unfold operatorAt? Lexeme.word?
  dsimp only
  split
  · unfold namesOperator
    rw [Option.any_some, String.ofList_toList]
  · rfl

theorem leadOf_eq_none {a : Arena} {roots : List LexemeId}
    (h : ∀ id, roots = [id] → (a.get id).word? = none) : leadOf a roots = none := by
  unfold leadOf
  split
  · next id => exact h id rfl
  · rfl

theorem leadOf_congr {a a' : Arena} {roots : List LexemeId}
    (h : ∀ id, (a'.get id).word? = (a.get id).word?) : leadOf a' roots = leadOf a roots := by
  unfold leadOf
  split
  · exact h _
  · rfl

/-! ## §2. In step. -/

/-- What stands before the next operand tells something of the open brackets. -/
inductive Placed : Pending → List Group → Option LexemeId → Prop
  | start : Placed .start [] none
  | operand {groups : List Group} {last : Option LexemeId} {x : LexemeId} {pending : Pending}
      (anchored : anchorOf groups last = some x)
      (after : pending = .adjacent ∨ pending = .blank) : Placed pending groups last
  | dot {groups : List Group} {last : Option LexemeId} {x : LexemeId}
      (anchored : anchorOf groups last = some x) : Placed (.delimiter .dot) groups last
  | comma {group : Group} {outer : List Group} {last : Option LexemeId} {x : LexemeId}
      (round : group.bracket = .round) (anchored : group.last = some x) :
      Placed (.delimiter .comma) (group :: outer) last
  | opening {group : Group} {outer : List Group} {last : Option LexemeId} {bracket : Bracket}
      (bracket_eq : group.bracket = bracket) (empty : group.last = none) :
      Placed (.delimiter (.opening bracket)) (group :: outer) last

/-- Either an operand has to come, or one stands before. -/
theorem Placed.before {pending : Pending} {groups : List Group} {last : Option LexemeId}
    (h : Placed pending groups last) :
    (pending = .start ∨ ∃ d, pending = .delimiter d)
      ∨ (pending = .adjacent ∨ pending = .blank) ∧ ∃ x, anchorOf groups last = some x := by
  cases h with
  | start => exact Or.inl (Or.inl rfl)
  | operand anchored after => exact Or.inr ⟨after, _, anchored⟩
  | dot | comma | opening => exact Or.inl (Or.inr ⟨_, rfl⟩)

theorem Placed.start_eq {groups : List Group} {last : Option LexemeId}
    (h : Placed .start groups last) : groups = [] ∧ last = none := by
  cases h with
  | start => exact ⟨rfl, rfl⟩
  | operand _ after => exact absurd after (by simp)

/-- The lexer has noted nothing, and it shares with the machine what the machine knows. -/
structure InStep (escape : Char) (lx : Lexer) (s : Config) : Prop where
  escape : lx.escape = escape
  clean : lx.issues = []
  pending : lx.pending = s.pending
  groups : lx.groups.map Group.bracket = s.groups
  linked : Linked lx.arena lx.groups lx.last s.called
  last : lx.last = lx.roots.getLast?
  lead : leadOf lx.arena lx.roots = s.lead

/-- The lexer and the machine are reading the same thing. -/
inductive ReadsAlike (lx : Lexer) (s : Config) : Mode → Phase → Prop
  | between (placed : Placed lx.pending lx.groups lx.last) : ReadsAlike lx s .between .between
  | word {id : LexemeId} (anchored : lx.anchor ≠ none) (inside : id < lx.arena.size)
      (leads : s.lead ≠ none → lx.roots = [id]) : ReadsAlike lx s (.bare id) .word
  | literal {id : LexemeId} {quote : Char} {escaping filled : Bool} (anchored : lx.anchor ≠ none)
      (inside : id < lx.arena.size) (quoted : (lx.arena.get id).quote ≠ none)
      (value : filled = !(lx.arena.get id).value.isEmpty) :
      ReadsAlike lx s (.quoted id quote escaping) (.literal quote escaping filled)
  | number {id : LexemeId} {filled : Bool} (anchored : lx.anchor ≠ none)
      (inside : id < lx.arena.size) (relative : (lx.arena.get id).form = .relative)
      (value : filled = !(lx.arena.get id).value.isEmpty) :
      ReadsAlike lx s (.number id) (.number filled)
  | comment {text : String} (started : lx.pending ≠ .start) :
      ReadsAlike lx s (.comment text) .comment

/-- The lexer between two characters does what the machine does. -/
structure Sim (escape : Char) (lx : Lexer) (s : Config) : Prop extends InStep escape lx s where
  reading : ReadsAlike lx s lx.mode s.reading

/-- The lexer goes on as the machine does, or has noted an issue where the machine stops. -/
def Agrees (escape : Char) (lx : Lexer) : Option Config → Prop
  | some s => Sim escape lx s
  | none => lx.issues ≠ []

variable {escape : Char} {lx : Lexer} {s s' : Config} {id : LexemeId}

theorem InStep.root_eq_last (h : InStep escape lx s) (hroots : lx.roots = [id]) :
    lx.last = some id := by
  rw [h.last, hroots]
  rfl

/-- A change of one lexeme that touches no links. -/
theorem InStep.modify (h : InStep escape lx s) {f : Lexeme → Lexeme} {lead : Option (List Char)}
    (hlinks : (f (lx.arena.get id)).links = (lx.arena.get id).links)
    (hlead : leadOf (lx.arena.modify id f) lx.roots = lead) :
    InStep escape { lx with arena := lx.arena.modify id f } { s with lead } where
  escape := h.escape
  clean := h.clean
  pending := h.pending
  groups := h.groups
  linked := h.linked.kept (Arena.kept_modify _ _ _ hlinks)
    (Nat.le_of_eq (Arena.size_modify _ _ _).symm)
  last := h.last
  lead := hlead

/-- A change of a lexeme that is no bare word, before and after. -/
theorem InStep.modify_unled (h : InStep escape lx s) {f : Lexeme → Lexeme}
    (hlinks : (f (lx.arena.get id)).links = (lx.arena.get id).links)
    (hword : (f (lx.arena.get id)).word? = (lx.arena.get id).word?) :
    InStep escape { lx with arena := lx.arena.modify id f } s := by
  refine h.modify hlinks (Eq.trans ?_ h.lead)
  exact leadOf_congr fun root => Arena.comp_get_modify _ _ _ Lexeme.word? hword

/-- A character of a bare word belongs to the word that leads the body, if one does. -/
theorem InStep.pushChar_word (h : InStep escape lx s) (hid : id < lx.arena.size)
    (hlead : s.lead ≠ none → lx.roots = [id]) (c : Char) (position : Nat) :
    InStep escape (lx.pushChar id c position) { s with lead := s.lead.map (· ++ [c]) } := by
  refine h.modify rfl ?_
  rw [← h.lead] at hlead ⊢
  by_cases hroots : lx.roots = [id]
  · rw [hroots]
    show ((lx.arena.modify id _).get id).word? = (lx.arena.get id).word?.map _
    rw [Arena.get_modify_self _ _ hid]
    unfold Lexeme.word?
    dsimp only
    split
    · rw [String.toList_push]
      rfl
    · rfl
  · -- a word that is not the only root leads nothing, before and after
    have hnone : leadOf lx.arena lx.roots = none := by
      by_cases hlx : leadOf lx.arena lx.roots = none
      · exact hlx
      · exact absurd (hlead hlx) hroots
    rw [hnone]
    refine leadOf_eq_none fun root hroot => ?_
    rw [hroot] at hroots hnone
    have hne : root ≠ id := fun heq => hroots (heq ▸ rfl)
    rw [Arena.get_modify_of_ne _ _ hne]
    exact hnone

theorem InStep.ended (h : InStep escape lx s) (hanchor : lx.anchor ≠ none) :
    Sim escape lx.endOperand s.ended where
  escape := h.escape
  clean := h.clean
  pending := rfl
  groups := h.groups
  linked := h.linked
  last := h.last
  lead := h.lead
  reading := by
    obtain ⟨x, hx⟩ := Option.ne_none_iff_exists'.1 hanchor
    exact .between (.operand (lx.anchor_eq ▸ hx) (Or.inl rfl))

/-! ## §3. Operands. -/

/-- The operand at `id` has begun, and the lexer and the machine are in step again. -/
structure Begun (escape : Char) (lexeme : Lexeme) (id : LexemeId) (lx : Lexer) (s : Config) :
    Prop where
  inStep : InStep escape lx s
  anchored : lx.anchor ≠ none
  inside : id < lx.arena.size
  spelling : (lx.arena.get id).spelling = lexeme.spelling
  leads : s.lead ≠ none → lx.roots = [id]

variable {lexeme : Lexeme} {reading : Phase} {a : Arena}

/-- The operand is the first one in the body. -/
theorem InStep.begin_first (h : InStep escape lx s) (hgroups : lx.groups = [])
    (hlinks : lexeme.links = (none, false)) :
    Begun escape lexeme lx.arena.size
      { lx with
        arena := lx.arena.alloc lexeme, roots := [lx.arena.size], last := some lx.arena.size }
      { s with reading, called := false, lead := lexeme.word? } := by
  have hadds := lx.arena.adds_alloc lexeme
  refine ⟨⟨h.escape, h.clean, h.pending, h.groups, ?_, rfl, ?_⟩, ?_, hadds.size_lt,
    hadds.spelling, fun _ => rfl⟩
  · show Linked _ lx.groups _ _
    rw [hgroups]
    exact Linked.root ⟨.refl, hadds.links.trans hlinks, hadds.size_lt⟩
  · show ((lx.arena.alloc lexeme).get lx.arena.size).word? = lexeme.word?
    rw [Arena.get_alloc, if_pos rfl]
  · rw [Lexer.anchor_eq]
    show anchorOf lx.groups _ ≠ none
    rw [hgroups]
    simp [anchorOf]

/-- The operand is a further one outside brackets. -/
theorem InStep.begin_further (h : InStep escape lx s) (hgroups : lx.groups = [])
    (hroots : lx.roots ≠ []) (hlinks : lexeme.links = (none, false))
    (hadds : lx.arena.Adds a lexeme lx.arena.size) :
    Begun escape lexeme lx.arena.size
      { lx with
        arena := a, roots := lx.roots ++ [lx.arena.size], last := some lx.arena.size }
      { s with reading, called := false, lead := none } := by
  refine ⟨⟨h.escape, h.clean, h.pending, h.groups, ?_, ?_, ?_⟩, ?_, hadds.size_lt,
    hadds.spelling, fun hlead => absurd rfl hlead⟩
  · show Linked _ lx.groups _ _
    rw [hgroups]
    exact Linked.root ⟨.refl, hadds.links.trans hlinks, hadds.size_lt⟩
  · exact List.getLast?_concat.symm
  · -- there are two roots at least
    refine leadOf_eq_none fun root hroot => ?_
    have hlength := congrArg List.length hroot
    rw [List.length_append] at hlength
    exact absurd (List.length_eq_zero_iff.1 (Nat.succ.inj hlength)) hroots
  · rw [Lexer.anchor_eq]
    show anchorOf lx.groups _ ≠ none
    rw [hgroups]
    simp [anchorOf]

/-- The operand starts a path in a bracket. -/
theorem InStep.begin_inner {group : Group} {outer : List Group} (h : InStep escape lx s)
    (hgroups : lx.groups = group :: outer) (hlinks : lexeme.links = (none, false))
    (hadds : lx.arena.Adds a lexeme group.owner)
    (howned : Group.Owned a { group with last := some lx.arena.size }) :
    Begun escape lexeme lx.arena.size
      { lx with
        arena := a, groups := { group with last := some lx.arena.size } :: outer }
      { s with reading, called := false, lead := none } := by
  have hlinked : Linked a ({ group with last := some lx.arena.size } :: outer) lx.last false :=
    Linked.inner (hgroups ▸ h.linked.held) hadds.kept (Nat.le_of_lt hadds.size_lt) howned
      ⟨.refl, hadds.links.trans hlinks, hadds.size_lt⟩
  refine ⟨⟨h.escape, h.clean, h.pending, ?_, hlinked, h.last, ?_⟩, ?_, hadds.size_lt,
    hadds.spelling, fun hlead => absurd rfl hlead⟩
  · have hbrackets := h.groups
    rw [hgroups] at hbrackets
    exact hbrackets
  · refine leadOf_eq_none fun root hroot => Lexeme.word?_of_links ?_
    exact hlinked.held.taken rfl (Or.inl (by simp)) (h.root_eq_last hroot)
  · rw [Lexer.anchor_eq]
    simp [anchorOf]

/-- The operand is the next step of a path. -/
theorem InStep.begin_step {x z : LexemeId} (h : InStep escape lx s)
    (hx : anchorOf lx.groups lx.last = some x) (hz : lx.arena.Ends x z s.called)
    (hlinks : lexeme.links = (none, false)) (hadds : lx.arena.Adds a lexeme z)
    (hchild : (a.get z).child = some lx.arena.size) :
    Begun escape lexeme lx.arena.size { lx with arena := a }
      { s with reading, called := false, lead := none } := by
  have hlinked : Linked a lx.groups lx.last false :=
    h.linked.further hx hz hadds.kept (Nat.le_of_lt hadds.size_lt) hchild hz.inside
      ⟨.refl, hadds.links.trans hlinks, hadds.size_lt⟩
  refine ⟨⟨h.escape, h.clean, h.pending, h.groups, hlinked, h.last, ?_⟩, ?_, hadds.size_lt,
    hadds.spelling, fun hlead => absurd rfl hlead⟩
  · -- outside brackets the new path starts at the root, inside them a bracket stands before it
    refine leadOf_eq_none fun root hroot => Lexeme.word?_of_links ?_
    have hlast := h.root_eq_last hroot
    cases hgroups : lx.groups with
    | nil =>
        rw [hgroups] at hx
        obtain rfl : root = x := Option.some.inj (hlast.symm.trans hx)
        have hleads : a.Leads root lx.arena.size :=
          (hz.leads.kept hadds.kept (Nat.le_refl _)).trans (.step hchild hz.inside .refl)
        have hne : root ≠ lx.arena.size :=
          Nat.ne_of_lt (Nat.lt_of_le_of_lt hz.leads.le hz.inside)
        exact fun hnone => hleads.child_isSome hne (congrArg Prod.fst hnone)
    | cons group outer =>
        rw [hgroups] at hx hlinked
        refine hlinked.held.taken rfl (Or.inl ?_) hlast
        rw [show group.last = some x from hx]
        simp
  · rw [Lexer.anchor_eq]
    show anchorOf lx.groups lx.last ≠ none
    rw [hx]
    simp

/-- **An operand that is in place**: the lexer links it, and the machine goes on. -/
theorem InStep.begin (h : InStep escape lx s) (hplaced : Placed lx.pending lx.groups lx.last)
    (lexeme : Lexeme) (hlinks : lexeme.links = (none, false)) {word : Option (List Char)}
    (hword : lexeme.word? = word) (hs : s.begin reading word = some s') (position : Nat) :
    Begun escape lexeme lx.arena.size (lx.beginOperand lexeme position) s' := by
  subst hword
  obtain ⟨arena, escape', mode, pending, last, groups, roots, issues, lastPosition⟩ := lx
  obtain ⟨was, pending', called, lead, brackets⟩ := s
  obtain rfl : pending = pending' := h.pending
  unfold Config.begin at hs
  have hadds : arena.Adds (arena.alloc lexeme) lexeme arena.size := arena.adds_alloc lexeme
  -- one case for each way in which `joinOperand` links the new lexeme
  dsimp only at hplaced
  cases hplaced with
  | start =>
      obtain rfl := Option.some.inj hs
      obtain rfl : roots = [] := List.getLast?_eq_none_iff.1 h.last.symm
      exact h.begin_first rfl hlinks
  | @operand _ _ x _ anchored after =>
      rcases after with rfl | rfl
      · exact absurd hs (by simp)
      · cases groups with
        | cons group outer =>
            obtain rfl : group.bracket :: outer.map Group.bracket = brackets := h.groups
            exact absurd hs (by simp)
        | nil =>
            obtain rfl : [] = brackets := h.groups
            obtain rfl := Option.some.inj hs
            obtain rfl : last = some x := anchored
            have hroots : roots ≠ [] := by
              rintro rfl
              exact absurd h.last (by simp)
            exact h.begin_further rfl hroots hlinks (hadds.attachNext x arena.size)
  | @dot _ _ x anchored =>
      obtain rfl := Option.some.inj hs
      obtain ⟨z, hz⟩ := h.linked.ends x anchored
      -- the path ends where it ended before the lexeme was allocated
      have hend : (arena.alloc lexeme).deepest x = z :=
        (hz.kept hadds.kept (Nat.le_of_lt hadds.size_lt)).deepest_eq
      unfold Lexer.beginOperand Lexer.joinOperand
      dsimp only
      rw [Lexer.anchor_eq]
      dsimp only
      rw [anchored]
      dsimp only
      rw [hend]
      exact h.begin_step anchored hz hlinks
        (hadds.attachChild arena.size hz.inside (Nat.le_of_lt hz.inside))
        (Arena.child_attachChild _ _ (Nat.lt_trans hz.inside hadds.size_lt))
  | @comma group outer _ x round anchored =>
      obtain rfl := Option.some.inj hs
      obtain ⟨bracket, owner, glast⟩ := group
      obtain rfl : bracket = .round := round
      obtain rfl : glast = some x := anchored
      have howned := h.linked.held.owned
      have hsibling := (hadds.attachNext x arena.size).grouped .round arena.size
      exact h.begin_inner rfl hlinks (hsibling.mono (Nat.le_of_lt howned.inside))
        (howned.resumed rfl hsibling)
  | @opening group outer _ bracket bracket_eq empty =>
      obtain rfl := Option.some.inj hs
      obtain ⟨bracket, owner, glast⟩ := group
      obtain rfl := bracket_eq
      have howned := h.linked.held.owned
      have howner : owner < arena.size := howned.inside
      cases bracket with
      | round =>
          have hfirst := hadds.attachFirstArg arena.size
            ((hadds.kept _ howner).trans (howned.round rfl))
          exact h.begin_inner rfl hlinks (hfirst.mono (Nat.le_of_lt howner))
            (howned.resumed rfl hfirst)
      | square =>
          have hchild :=
            (hadds.attachChild arena.size howner (Nat.le_of_lt howner)).grouped .square arena.size
          refine h.begin_inner rfl hlinks hchild
            ⟨Nat.lt_trans howner hchild.size_lt, fun x hx => ?_, fun _ => ?_, fun hround => ?_⟩
          · obtain rfl := Option.some.inj hx
            exact howner
          · refine (Lexeme.child_eq (Arena.links_modify_grouped _ _ _ .square)).trans ?_
            exact Arena.child_attachChild _ _ (Nat.lt_trans howner hadds.size_lt)
          · exact absurd hround (by simp)

/-- Where the machine has no place for an operand the lexer notes an issue. -/
theorem InStep.begin_refused (h : InStep escape lx s) {word : Option (List Char)}
    (hs : s.begin reading word = none) (lexeme : Lexeme) (position : Nat) :
    (lx.beginOperand lexeme position).issues ≠ [] := by
  obtain ⟨arena, escape', mode, pending, last, groups, roots, issues, lastPosition⟩ := lx
  obtain ⟨was, pending', called, lead, brackets⟩ := s
  obtain rfl : pending = pending' := h.pending
  obtain rfl : groups.map Group.bracket = brackets := h.groups
  unfold Config.begin at hs
  unfold Lexer.beginOperand Lexer.joinOperand
  cases pending with
  | start | delimiter d => exact absurd hs (by simp)
  | adjacent =>
      dsimp only
      rw [Lexer.issues_joinSibling]
      exact Lexer.note_ne_nil _ _ _
  | blank =>
      cases groups with
      | nil => exact absurd hs (by simp)
      | cons group outer =>
          dsimp only [List.isEmpty_cons]
          rw [if_neg (by simp), Lexer.issues_joinSibling]
          exact Lexer.note_ne_nil _ _ _

/-! ## §4. Delimiters. -/

/-- The lexer refuses a delimiter after an operator as the machine does. -/
theorem InStep.isOperatorAnchor_iff (h : InStep escape lx s) {x : LexemeId}
    (hx : anchorOf lx.groups lx.last = some x) :
    lx.isOperatorAnchor x = true
      ↔ s.pending = .blank ∧ s.groups = [] ∧ namesOperator s.lead = true := by
  unfold Lexer.isOperatorAnchor
  rw [Arena.isSome_operatorAt?, ← h.pending, ← h.groups, ← h.lead]
  simp only [Bool.and_eq_true, beq_iff_eq, List.isEmpty_iff, List.map_eq_nil_iff, and_assoc]
  refine and_congr_right fun _ => and_congr_right fun hgroups => ?_
  constructor
  · rintro ⟨hroots, hnames⟩
    rw [hroots]
    exact hnames
  · intro hnames
    have hroot : ∃ root, lx.roots = [root] := by
      unfold leadOf at hnames
      split at hnames
      · next root hroots => exact ⟨root, hroots⟩
      · exact absurd hnames (by simp [namesOperator])
    obtain ⟨root, hroot⟩ := hroot
    rw [hgroups] at hx
    obtain rfl : root = x := Option.some.inj ((h.root_eq_last hroot).symm.trans hx)
    rw [hroot] at hnames
    exact ⟨hroot, hnames⟩

/-- A delimiter that is in place after an operand. -/
theorem Lexer.delimit_of_anchor {x : LexemeId} (hp : lx.pending = .adjacent ∨ lx.pending = .blank)
    (hx : lx.anchor = some x) (hfree : ¬ lx.isOperatorAnchor x = true) (position : Nat) :
    lx.delimit .dot position = { lx with pending := .delimiter .dot }
      ∧ ∀ bracket, lx.delimit (.opening bracket) position
        = { lx.openBracket bracket x position with pending := .delimiter (.opening bracket) } := by
  unfold delimit
  rcases hp with hp | hp <;> simp [hp, hx, hfree]

theorem agrees_dot {x : LexemeId} (h : InStep escape lx s)
    (hx : anchorOf lx.groups lx.last = some x) (hmode : lx.mode = .between)
    (hreading : s.reading = .between) :
    Sim escape { lx with pending := .delimiter .dot } { s with pending := .delimiter .dot } where
  escape := h.escape
  clean := h.clean
  pending := rfl
  groups := h.groups
  linked := h.linked
  last := h.last
  lead := h.lead
  reading := by
    show ReadsAlike _ _ lx.mode s.reading
    rw [hmode, hreading]
    exact .between (.dot hx)

theorem agrees_square {x : LexemeId} (h : InStep escape lx s)
    (hx : anchorOf lx.groups lx.last = some x) (hmode : lx.mode = .between)
    (hreading : s.reading = .between) (position : Nat) :
    Sim escape
      { lx.openBracket .square x position with pending := .delimiter (.opening .square) }
      { s with
        pending := .delimiter (.opening .square), groups := .square :: s.groups } := by
  obtain ⟨z, hz⟩ := h.linked.ends x hx
  have hlinked : Linked lx.arena ({ bracket := .square, owner := z } :: lx.groups) lx.last
      s.called :=
    h.linked.open hx hz (fun _ _ => rfl) (Nat.le_refl _)
      (fun _ => congrArg Prod.fst hz.links) (fun hround => absurd hround (by simp))
  unfold Lexer.openBracket
  dsimp only
  rw [hz.deepest_eq]
  refine ⟨⟨h.escape, h.clean, rfl, congrArg _ h.groups, hlinked, h.last, h.lead⟩, ?_⟩
  show ReadsAlike _ _ lx.mode s.reading
  rw [hmode, hreading]
  exact .between (.opening rfl rfl)

/-- An argument list makes a function of its owner, which is none before. -/
theorem agrees_round {x : LexemeId} (h : InStep escape lx s)
    (hx : anchorOf lx.groups lx.last = some x) (hmode : lx.mode = .between)
    (hreading : s.reading = .between) (position : Nat) :
    Agrees escape
      { lx.openBracket .round x position with pending := .delimiter (.opening .round) }
      (s.delimited (.opening .round)) := by
  obtain ⟨z, hz⟩ := h.linked.ends x hx
  have hkind : (lx.arena.get z).kind = .function ↔ s.called = true := by
    have hsnd : ((lx.arena.get z).kind == .function) = s.called := congrArg Prod.snd hz.links
    rw [← hsnd, beq_iff_eq]
  unfold Lexer.openBracket Config.delimited
  dsimp only
  rw [hz.deepest_eq]
  by_cases hcalled : s.called = true
  · rw [if_pos hcalled, if_pos (hkind.2 hcalled)]
    exact lx.note_ne_nil _ _
  rw [if_neg hcalled, if_neg fun hfunction => hcalled (hkind.1 hfunction)]
  -- the owner becomes a function before the list has an argument, and stays the end of its path
  let function : Lexeme → Lexeme := fun l => { l with kind := .function }
  have hround : ((lx.arena.modify z function).get z).links = (none, true) := by
    rw [Arena.get_modify_self _ _ hz.inside]
    exact congrArg (Prod.mk · true) (congrArg Prod.fst hz.links)
  have hlinked : Linked (lx.arena.modify z function)
      ({ bracket := .round, owner := z } :: lx.groups) lx.last s.called :=
    h.linked.open hx hz (Arena.kept_modify_of_le _ _ (Nat.le_refl _))
      (Nat.le_of_eq (Arena.size_modify _ _ _).symm) (fun hsquare => absurd hsquare (by simp))
      fun _ => hround
  refine ⟨⟨h.escape, h.clean, rfl, congrArg _ h.groups, hlinked, h.last, ?_⟩, ?_⟩
  · refine leadOf_eq_none fun root hroot => Lexeme.word?_of_links ?_
    exact hlinked.held.taken rfl (Or.inr rfl) (h.root_eq_last hroot)
  · show ReadsAlike _ _ lx.mode s.reading
    rw [hmode, hreading]
    exact .between (.opening rfl rfl)

/-- **A dot or an opening bracket**: the lexer goes on as the machine does. -/
theorem agrees_delimit (h : InStep escape lx s) (hplaced : Placed lx.pending lx.groups lx.last)
    (hmode : lx.mode = .between) (hreading : s.reading = .between) {d : Delimiter}
    (hd : d ≠ .comma) (position : Nat) : Agrees escape (lx.delimit d position) (s.delimit d) := by
  -- without an operand before it the delimiter is out of place on both sides
  rcases hplaced.before with hp | ⟨hp, x, hx⟩
  · unfold Lexer.delimit Config.delimit
    rw [h.pending] at hp ⊢
    rcases hp with hp | ⟨e, hp⟩ <;> rw [hp, if_neg (by simp)] <;> exact lx.note_ne_nil _ _
  have hanchor : lx.anchor = some x := lx.anchor_eq.trans hx
  -- and so it is behind an operator that leads the body
  by_cases hoperator : lx.isOperatorAnchor x = true
  · obtain ⟨hblank, hgroups, hnames⟩ := (h.isOperatorAnchor_iff hx).1 hoperator
    unfold Lexer.delimit Config.delimit
    rw [h.pending, hblank, if_neg (by simp [hgroups, hnames])]
    dsimp only
    rw [hanchor]
    dsimp only
    rw [if_pos hoperator]
    exact lx.note_ne_nil _ _
  have hfree : s.pending = .adjacent
      ∨ s.pending = .blank ∧ ¬ (s.groups = [] ∧ namesOperator s.lead = true) := by
    rw [h.pending] at hp
    refine hp.imp_right fun hblank => ⟨hblank, fun hlead => hoperator ?_⟩
    exact (h.isOperatorAnchor_iff hx).2 ⟨hblank, hlead⟩
  obtain ⟨hdot, hopening⟩ := Lexer.delimit_of_anchor hp hanchor hoperator position
  unfold Config.delimit
  rw [if_pos hfree]
  cases d with
  | comma => exact absurd rfl hd
  | dot =>
      rw [hdot]
      exact agrees_dot h hx hmode hreading
  | opening bracket =>
      rw [hopening]
      cases bracket with
      | square => exact agrees_square h hx hmode hreading position
      | round => exact agrees_round h hx hmode hreading position

/-- **A comma**: the lexer goes on as the machine does. -/
theorem agrees_comma (h : InStep escape lx s) (hplaced : Placed lx.pending lx.groups lx.last)
    (hmode : lx.mode = .between) (hreading : s.reading = .between) (position : Nat) :
    Agrees escape (lx.comma position) s.comma := by
  -- without an operand before it the comma is out of place on both sides
  rcases hplaced.before with hp | ⟨hp, x, hx⟩
  · unfold Lexer.comma Config.comma
    rw [h.pending] at hp ⊢
    have hnone : ¬ ((s.pending = .adjacent ∨ s.pending = .blank)
        ∧ s.groups.head? = some .round) := by
      rintro ⟨hafter, -⟩
      rcases hp with hp | ⟨e, hp⟩ <;> rw [hp] at hafter <;> simp at hafter
    rw [if_neg hnone]
    rcases hp with hp | ⟨e, hp⟩ <;> rw [hp] <;> exact lx.note_ne_nil _ _
  have hcomma : lx.comma position =
      if (lx.groups.head?.any fun group => group.bracket == .round) = true then
        { lx with pending := .delimiter .comma }
      else lx.note .strayComma position := by
    unfold Lexer.comma
    rcases hp with hp | hp <;> rw [hp]
  -- whether the innermost bracket is an argument list is seen in the groups of either
  have hhead : (lx.groups.head?.any fun group => group.bracket == .round) = true
      ↔ s.groups.head? = some .round := by
    rw [← h.groups]
    cases lx.groups <;> simp
  rw [h.pending] at hp
  unfold Config.comma
  rw [hcomma]
  by_cases hround : s.groups.head? = some .round
  · rw [if_pos (hhead.2 hround), if_pos ⟨hp, hround⟩]
    refine ⟨⟨h.escape, h.clean, rfl, h.groups, h.linked, h.last, h.lead⟩, ?_⟩
    have hplaced' : Placed (.delimiter .comma) lx.groups lx.last := by
      rw [← h.groups] at hround
      cases hgroups : lx.groups with
      | nil => rw [hgroups] at hround; exact absurd hround (by simp)
      | cons group outer =>
          rw [hgroups] at hround hx
          exact .comma (Option.some.inj hround) hx
    show ReadsAlike _ _ lx.mode s.reading
    rw [hmode, hreading]
    exact .between hplaced'
  · rw [if_neg (hround ∘ hhead.1), if_neg fun hs => hround hs.2]
    exact lx.note_ne_nil _ _

/-- A bracket that may be closed. -/
theorem sim_close (h : InStep escape lx s) (hmode : lx.mode = .between)
    (hreading : s.reading = .between) {group : Group} {outer : List Group}
    (hgroups : lx.groups = group :: outer)
    (hgroup : group.bracket = .square → group.last ≠ none) :
    Sim escape { lx with groups := outer, pending := .adjacent }
      { s with
        groups := outer.map Group.bracket, pending := .adjacent
        called := s.called || group.bracket == .round } := by
  have hlinked := h.linked
  rw [hgroups] at hlinked
  refine ⟨⟨h.escape, h.clean, rfl, rfl, hlinked.close hgroup, h.last, h.lead⟩, ?_⟩
  show ReadsAlike _ _ lx.mode s.reading
  rw [hmode, hreading]
  cases hlinked.held with
  | cons anchored _ _ _ => exact .between (.operand anchored (Or.inl rfl))

/-- What a closing bracket may stand after. -/
def Closable (pending : Pending) (closer : Bracket) : Prop :=
  pending = .adjacent ∨ pending = .blank
    ∨ pending = .delimiter (.opening .round) ∧ closer = .round

theorem Lexer.noteDoubled_eq {closer : Bracket} (h : Closable lx.pending closer)
    (position : Nat) : lx.noteDoubled closer position = lx := by
  unfold noteDoubled
  rcases h with h | h | ⟨h, hcloser⟩
  · rw [h]
  · rw [h]
  · rw [h]
    exact if_pos ⟨rfl, hcloser⟩

theorem Lexer.noteDoubled_ne_nil {closer : Bracket} (h : ¬ Closable lx.pending closer)
    (hstart : lx.pending ≠ .start) (position : Nat) :
    (lx.noteDoubled closer position).issues ≠ [] := by
  unfold noteDoubled
  cases hp : lx.pending with
  | start => exact absurd hp hstart
  | blank => exact absurd (Or.inr (Or.inl hp)) h
  | adjacent => exact absurd (Or.inl hp) h
  | delimiter previous =>
      dsimp only
      rw [if_neg]
      · exact lx.note_ne_nil _ _
      · rintro ⟨rfl, hcloser⟩
        exact h (Or.inr (Or.inr ⟨hp, hcloser⟩))

/-- **A closing bracket**: the lexer goes on as the machine does. -/
theorem agrees_close (h : InStep escape lx s) (hplaced : Placed lx.pending lx.groups lx.last)
    (hmode : lx.mode = .between) (hreading : s.reading = .between) (closer : Bracket)
    (position : Nat) : Agrees escape (lx.closeBracket closer position) (s.close closer) := by
  unfold Config.close
  rw [← h.groups, ← h.pending]
  cases hgroups : lx.groups with
  | nil =>
      unfold Lexer.closeBracket
      rw [hgroups]
      exact Lexer.note_ne_nil _ _ _
  | cons group outer =>
      rw [List.map_cons]
      dsimp only
      rw [hgroups] at hplaced
      by_cases hclosable : Closable lx.pending closer
      case neg =>
        rw [if_neg fun hin => hclosable hin.2]
        have hstart : lx.pending ≠ .start := by
          intro hstart
          rw [hstart] at hplaced
          exact absurd hplaced.start_eq.1 (by simp)
        exact (lx.issues_noteDoubled_closeBracket closer position).ne_nil
          (Lexer.noteDoubled_ne_nil hclosable hstart position)
      by_cases hbracket : group.bracket = closer
      case neg =>
        rw [if_neg fun hin => hbracket hin.1]
        unfold Lexer.closeBracket
        rw [hgroups, Lexer.noteDoubled_eq hclosable]
        dsimp only
        rw [if_neg hbracket]
        exact lx.note_ne_nil _ _
      rw [if_pos ⟨hbracket, hclosable⟩]
      unfold Lexer.closeBracket
      rw [hgroups, Lexer.noteDoubled_eq hclosable]
      dsimp only
      rw [if_pos hbracket, ← hbracket]
      -- square brackets are not closed before something stands in them
      refine sim_close h hmode hreading hgroups fun hsquare => ?_
      rcases hplaced.before with hp | ⟨-, x, hx⟩
      · rw [← hbracket, hsquare] at hclosable
        rcases hp with hp | ⟨d, hp⟩ <;> simp [Closable, hp] at hclosable
      · rw [show group.last = some x from hx]
        simp

end LayerTemplates
