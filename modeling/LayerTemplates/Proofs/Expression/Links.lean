/-
  LayerTemplates.Proofs.Expression.Links
  ──────────────────────────────────────
  The links that lead from the operand before a delimiter to the lexeme that owns it.

  Child links go from a lexeme to one that was allocated later.  Along them every anchor, the
  outermost one and that of every open bracket, leads to an innermost lexeme: to the owner of
  the bracket inside it, or to the end of the path that is being written.  Linking a new
  operand touches nothing in front of that innermost lexeme, so what the outer brackets know
  of their owners stays true.

  Main statements:
    * `Arena.Ends.deepest_eq` — following child links finds the end of a path.
    * `Held.kept` — what changes behind the owner of a bracket does not concern the bracket.
    * `Held.taken` — a root in front of an open bracket is no bare word any more.
    * `Linked.close` — a closed bracket passes the end of its path on.
-/
import LayerTemplates.Expression.Lexer

namespace LayerTemplates

/-! ## §1. What linking changes. -/

/-- The next step of a path, and whether the lexeme has an argument list. -/
def Lexeme.links (l : Lexeme) : Option LexemeId × Bool := (l.child, l.kind == .function)

/-- What a lexeme was written as. -/
def Lexeme.spelling (l : Lexeme) : String × LexemeForm × Option Char := (l.value, l.form, l.quote)

/-- The links that matter here include the one to the next step of a path. -/
theorem Lexeme.child_eq {l l' : Lexeme} (h : l.links = l'.links) : l.child = l'.child :=
  congrArg Prod.fst h

@[simp] theorem Lexeme.spelling_grouped (kind : LexemeKind) (l : Lexeme) :
    (l.grouped kind).spelling = l.spelling := by
  unfold Lexeme.grouped
  split <;> rfl

/-- The kinds of a group are not that of a function. -/
theorem Lexeme.links_grouped {kind : LexemeKind} (hkind : kind ≠ .function) (l : Lexeme) :
    (l.grouped kind).links = l.links := by
  unfold Lexeme.grouped
  split
  · next hplain =>
      unfold Lexeme.links
      rw [hplain, beq_false_of_ne hkind]
      rfl
  · rfl

namespace Arena

variable {a a' a'' : Arena} {bound : Nat}

/-- What a change keeps of the lexeme that it changes it keeps of all. -/
theorem comp_get_modify {β : Type} (a : Arena) (id j : LexemeId) {f : Lexeme → Lexeme}
    (g : Lexeme → β) (hf : g (f (a.get id)) = g (a.get id)) :
    g ((a.modify id f).get j) = g (a.get j) := by
  by_cases hj : j = id
  · rw [hj]
    by_cases hid : id < a.size
    · rw [get_modify_self a f hid, hf]
    · have hout : a.lexemes.size ≤ id := Nat.le_of_not_lt hid
      simp [get, modify, hout]
  · rw [get_modify_of_ne a f hj]

/-- The lexemes in front of an index have the same links. -/
def Kept (a a' : Arena) (bound : Nat) : Prop := ∀ j < bound, (a'.get j).links = (a.get j).links

/-- What two changes keep, one after the other, they keep together. -/
theorem Kept.trans (h : a.Kept a' bound) (h' : a'.Kept a'' bound) : a.Kept a'' bound :=
  fun j hj => (h' j hj).trans (h j hj)

/-- Fewer lexemes are kept where more are. -/
theorem Kept.mono {less : Nat} (h : a.Kept a' bound) (hle : less ≤ bound) : a.Kept a' less :=
  fun j hj => h j (Nat.lt_of_lt_of_le hj hle)

/-- A new lexeme comes behind all that are there. -/
theorem kept_alloc (a : Arena) (l : Lexeme) : a.Kept (a.alloc l) a.size := fun j hj => by
  rw [get_alloc, if_neg (Nat.ne_of_lt hj)]

/-- A change that keeps the links of its lexeme keeps all of them. -/
theorem kept_modify (a : Arena) (id : LexemeId) {f : Lexeme → Lexeme} (bound : Nat)
    (hf : (f (a.get id)).links = (a.get id).links) : a.Kept (a.modify id f) bound :=
  fun j _ => comp_get_modify a id j Lexeme.links hf

/-- Any change keeps what stands in front of its lexeme. -/
theorem kept_modify_of_le (a : Arena) {id : LexemeId} (f : Lexeme → Lexeme) (hle : bound ≤ id) :
    a.Kept (a.modify id f) bound := fun j hj => by
  rw [get_modify_of_ne a f (Nat.ne_of_lt (Nat.lt_of_lt_of_le hj hle))]

@[simp] theorem size_attachNext (a : Arena) (prev next : LexemeId) :
    (a.attachNext prev next).size = a.size := by
  simp [attachNext]

@[simp] theorem size_attachChild (a : Arena) (parent child : LexemeId) :
    (a.attachChild parent child).size = a.size := by
  simp [attachChild]

@[simp] theorem size_attachFirstArg (a : Arena) (function arg : LexemeId) :
    (a.attachFirstArg function arg).size = a.size := by
  simp [attachFirstArg]

/-- A sibling is neither a step of a path nor an argument list. -/
theorem links_attachNext (a : Arena) (prev next j : LexemeId) :
    ((a.attachNext prev next).get j).links = (a.get j).links := by
  refine Eq.trans (comp_get_modify _ next j Lexeme.links rfl) ?_
  exact comp_get_modify a prev j Lexeme.links rfl

theorem spelling_attachNext (a : Arena) (prev next j : LexemeId) :
    ((a.attachNext prev next).get j).spelling = (a.get j).spelling := by
  refine Eq.trans (comp_get_modify _ next j Lexeme.spelling rfl) ?_
  exact comp_get_modify a prev j Lexeme.spelling rfl

/-- The new child link is that of the parent, and no other lexeme has one more. -/
theorem links_attachChild (a : Arena) {parent j : LexemeId} (child : LexemeId) (hj : j ≠ parent) :
    ((a.attachChild parent child).get j).links = (a.get j).links := by
  refine Eq.trans (comp_get_modify _ child j Lexeme.links rfl) ?_
  rw [get_modify_of_ne a _ hj]

/-- Inside the arena the parent has the child that it was given. -/
theorem child_attachChild (a : Arena) {parent : LexemeId} (child : LexemeId)
    (hparent : parent < a.size) : ((a.attachChild parent child).get parent).child = some child := by
  refine Eq.trans (comp_get_modify _ child parent Lexeme.child rfl) ?_
  rw [get_modify_self a _ hparent]

theorem spelling_attachChild (a : Arena) (parent child j : LexemeId) :
    ((a.attachChild parent child).get j).spelling = (a.get j).spelling := by
  refine Eq.trans (comp_get_modify _ child j Lexeme.spelling rfl) ?_
  exact comp_get_modify a parent j Lexeme.spelling rfl

/-- The owner of an argument list is a function before it has an argument. -/
theorem links_attachFirstArg (a : Arena) {function : LexemeId} (arg j : LexemeId)
    (hfunction : (a.get function).links = (none, true)) :
    ((a.attachFirstArg function arg).get j).links = (a.get j).links := by
  refine Eq.trans (comp_get_modify _ arg j Lexeme.links
    (Lexeme.links_grouped (by decide) _)) ?_
  refine comp_get_modify a function j Lexeme.links (Eq.trans ?_ hfunction.symm)
  exact congrArg (Prod.mk · true) (congrArg Prod.fst hfunction)

theorem spelling_attachFirstArg (a : Arena) (function arg j : LexemeId) :
    ((a.attachFirstArg function arg).get j).spelling = (a.get j).spelling := by
  refine Eq.trans (comp_get_modify _ arg j Lexeme.spelling
    (Lexeme.spelling_grouped _ _)) ?_
  exact comp_get_modify a function j Lexeme.spelling rfl

/-- Taking the kind of a group changes neither links nor spelling. -/
theorem links_modify_grouped (a : Arena) (id j : LexemeId) (bracket : Bracket) :
    ((a.modify id (Lexeme.grouped (Lexer.kindIn bracket))).get j).links = (a.get j).links :=
  comp_get_modify a id j Lexeme.links
    (Lexeme.links_grouped (by cases bracket <;> decide) (a.get id))

theorem spelling_modify_grouped (a : Arena) (id j : LexemeId) (kind : LexemeKind) :
    ((a.modify id (Lexeme.grouped kind)).get j).spelling = (a.get j).spelling :=
  comp_get_modify a id j Lexeme.spelling (Lexeme.spelling_grouped kind (a.get id))

/-- One arena has one lexeme more than the other, as it was made but for how it is linked, and
the same links in front of an index. -/
structure Adds (a a' : Arena) (lexeme : Lexeme) (bound : Nat) : Prop where
  size : a'.size = a.size + 1
  kept : a.Kept a' bound
  links : (a'.get a.size).links = lexeme.links
  spelling : (a'.get a.size).spelling = lexeme.spelling

variable {lexeme : Lexeme}

/-- A lexeme that is allocated is the one that is added, and nothing is linked yet. -/
theorem adds_alloc (a : Arena) (lexeme : Lexeme) : a.Adds (a.alloc lexeme) lexeme a.size where
  size := size_alloc a lexeme
  kept := kept_alloc a lexeme
  links := by rw [get_alloc, if_pos rfl]
  spelling := by rw [get_alloc, if_pos rfl]

theorem Adds.size_lt (h : a.Adds a' lexeme bound) : a.size < a'.size := by
  rw [h.size]
  exact Nat.lt_succ_self _

/-- Of the links that are kept fewer may be claimed. -/
theorem Adds.mono {less : Nat} (h : a.Adds a' lexeme bound) (hle : less ≤ bound) :
    a.Adds a' lexeme less :=
  { h with kept := h.kept.mono hle }

/-- The lexeme that was added may be linked to a sibling, which does not count as a link here. -/
theorem Adds.attachNext (h : a.Adds a' lexeme bound) (prev next : LexemeId) :
    a.Adds (a'.attachNext prev next) lexeme bound where
  size := (size_attachNext _ _ _).trans h.size
  kept := h.kept.trans fun j _ => links_attachNext a' prev next j
  links := (links_attachNext _ _ _ _).trans h.links
  spelling := (spelling_attachNext _ _ _ _).trans h.spelling

/-- It may get the kind of a bracket, which is not that of a function. -/
theorem Adds.grouped (h : a.Adds a' lexeme bound) (bracket : Bracket) (id : LexemeId) :
    a.Adds (a'.modify id (Lexeme.grouped (Lexer.kindIn bracket))) lexeme bound where
  size := (size_modify _ _ _).trans h.size
  kept := h.kept.trans fun j _ => links_modify_grouped a' id j bracket
  links := (links_modify_grouped _ _ _ _).trans h.links
  spelling := (spelling_modify_grouped _ _ _ _).trans h.spelling

/-- It may become the first argument of a function, which was one before. -/
theorem Adds.attachFirstArg (h : a.Adds a' lexeme bound) {function : LexemeId} (arg : LexemeId)
    (hfunction : (a'.get function).links = (none, true)) :
    a.Adds (a'.attachFirstArg function arg) lexeme bound where
  size := (size_attachFirstArg _ _ _).trans h.size
  kept := h.kept.trans fun j _ => links_attachFirstArg a' arg j hfunction
  links := (links_attachFirstArg _ _ _ hfunction).trans h.links
  spelling := (spelling_attachFirstArg _ _ _ _).trans h.spelling

/-- A child changes the links of its parent, and of nothing in front of it. -/
theorem Adds.attachChild (h : a.Adds a' lexeme bound) {parent : LexemeId} (child : LexemeId)
    (hparent : parent < a.size) (hle : parent ≤ bound) :
    a.Adds (a'.attachChild parent child) lexeme parent where
  size := (size_attachChild _ _ _).trans h.size
  kept := (h.kept.mono hle).trans fun _ hj => links_attachChild a' child (Nat.ne_of_lt hj)
  links := (links_attachChild _ _ (Nat.ne_of_gt hparent)).trans h.links
  spelling := (spelling_attachChild _ _ _ _).trans h.spelling

/-! ## §2. Paths. -/

/-- Child links lead from one lexeme to another, each to a lexeme that is newer. -/
inductive Leads (a : Arena) : LexemeId → LexemeId → Prop
  | refl {x : LexemeId} : Leads a x x
  | step {x y z : LexemeId} (child : (a.get x).child = some y) (newer : x < y)
      (rest : Leads a y z) : Leads a x z

/-- A path ends in a lexeme, which has an argument list or not. -/
structure Ends (a : Arena) (x z : LexemeId) (called : Bool) : Prop where
  leads : a.Leads x z
  links : (a.get z).links = (none, called)
  inside : z < a.size

variable {x y z : LexemeId} {called : Bool}

/-- Child links lead to newer lexemes, so a path ends no earlier than it starts. -/
theorem Leads.le (h : a.Leads x z) : x ≤ z := by
  induction h with
  | refl => exact Nat.le_refl _
  | step _ newer _ ih => exact Nat.le_of_lt (Nat.lt_of_lt_of_le newer ih)

/-- Paths are joined where one ends and the other starts. -/
theorem Leads.trans (h : a.Leads x y) (h' : a.Leads y z) : a.Leads x z := by
  induction h with
  | refl => exact h'
  | step child newer _ ih => exact .step child newer (ih h')

/-- Only the links in front of the end count. -/
theorem Leads.kept (h : a.Leads x z) (hkept : a.Kept a' bound) (hz : z ≤ bound) :
    a'.Leads x z := by
  induction h with
  | refl => exact .refl
  | step child newer rest ih =>
      have hx := Nat.lt_of_lt_of_le newer (Nat.le_trans rest.le hz)
      exact .step ((Lexeme.child_eq (hkept _ hx)).trans child) newer (ih hz)

/-- A path that leads somewhere else takes a child link first. -/
theorem Leads.child_isSome (h : a.Leads x z) (hne : x ≠ z) : (a.get x).child ≠ none := by
  cases h with
  | refl => exact absurd rfl hne
  | step child _ _ => rw [child]; simp

/-- A chain with steps enough to get to the end of a path stops there, since no child link leads
on. -/
theorem getLastD_chain (h : a.Leads x z) (hz : (a.get z).child = none) :
    ∀ fuel : Nat, z ≤ x + fuel → ∀ d, (a.chain Lexeme.child fuel x).getLastD d = z := by
  -- along the path: every step leads to a newer lexeme, so it needs no more fuel than the
  -- distance of the indices
  induction h with
  | refl =>
      intro fuel _ d
      cases fuel with
      | zero => rfl
      | succ fuel => rw [chain, hz]; rfl
  | @step x y z child newer rest ih =>
      intro fuel hfuel d
      have hxz : x < x + fuel := Nat.lt_of_lt_of_le (Nat.lt_of_lt_of_le newer rest.le) hfuel
      cases fuel with
      | zero => exact absurd hxz (Nat.lt_irrefl x)
      | succ fuel =>
          have hle : z ≤ y + fuel := by
            refine Nat.le_trans hfuel ?_
            rw [← Nat.add_assoc, Nat.add_right_comm]
            exact Nat.add_le_add_right newer fuel
          rw [chain, child]
          show (x :: a.chain Lexeme.child fuel y).getLastD d = z
          rw [List.getLastD_cons]
          exact ih hz fuel hle x

/-- **Following child links finds the end of a path.** -/
theorem Ends.deepest_eq (h : a.Ends x z called) : a.deepest x = z :=
  getLastD_chain h.leads (congrArg Prod.fst h.links) a.size
    (Nat.le_trans (Nat.le_of_lt h.inside) (Nat.le_add_left _ _)) x

/-- The end of a path is the same in an arena that has only grown. -/
theorem Ends.kept (h : a.Ends x z called) (hkept : a.Kept a' a.size) (hsize : a.size ≤ a'.size) :
    a'.Ends x z called :=
  ⟨h.leads.kept hkept (Nat.le_of_lt h.inside), (hkept z h.inside).trans h.links,
    Nat.lt_of_lt_of_le h.inside hsize⟩

end Arena

/-! ## §3. Open brackets. -/

/-- The lexeme that a delimiter would belong to. -/
def anchorOf : List Group → Option LexemeId → Option LexemeId
  | [], last => last
  | group :: _, _ => group.last

/-- The anchor is a function of the open brackets and of the last lexeme outside them. -/
theorem Lexer.anchor_eq (lx : Lexer) : lx.anchor = anchorOf lx.groups lx.last := by
  unfold anchor anchorOf
  cases lx.groups <;> rfl

/-- A bracket knows its owner.  What stands in square brackets is the next step of the path;
an argument list makes a function of its owner. -/
structure Group.Owned (a : Arena) (group : Group) : Prop where
  inside : group.owner < a.size
  newer : ∀ x, group.last = some x → group.owner < x
  square : group.bracket = .square → (a.get group.owner).child = group.last
  round : group.bracket = .round → (a.get group.owner).links = (none, true)

/-- Every open bracket belongs to the innermost lexeme of the path outside it. -/
inductive Held (a : Arena) (last : Option LexemeId) : List Group → Prop
  | nil : Held a last []
  | cons {group : Group} {outer : List Group} {x : LexemeId}
      (anchored : anchorOf outer last = some x) (leads : a.Leads x group.owner)
      (owned : group.Owned a) (rest : Held a last outer) : Held a last (group :: outer)

/-- Every open bracket is held, and the path that is being written ends in a lexeme that has
an argument list or not. -/
structure Linked (a : Arena) (groups : List Group) (last : Option LexemeId) (called : Bool) :
    Prop where
  held : Held a last groups
  ends : ∀ x, anchorOf groups last = some x → ∃ z, a.Ends x z called

variable {a a' : Arena} {group : Group} {groups outer : List Group} {last : Option LexemeId}
  {called : Bool} {bound : Nat} {x z id : LexemeId}

/-- What a bracket knows of its owner stays true where the links of the owner are kept. -/
theorem Group.Owned.kept (h : group.Owned a) (hkept : a.Kept a' bound)
    (hbound : group.owner < bound) (hsize : a.size ≤ a'.size) : group.Owned a' where
  inside := Nat.lt_of_lt_of_le h.inside hsize
  newer := h.newer
  square hsquare := (Lexeme.child_eq (hkept _ hbound)).trans (h.square hsquare)
  round hround := (hkept _ hbound).trans (h.round hround)

/-- A further operand in an argument list changes nothing in front of it. -/
theorem Group.Owned.resumed {lexeme : Lexeme} (h : group.Owned a) (hround : group.bracket = .round)
    (hadds : a.Adds a' lexeme a.size) : Group.Owned a' { group with last := some a.size } where
  inside := Nat.lt_trans h.inside hadds.size_lt
  newer x hx := by
    obtain rfl := Option.some.inj hx
    exact h.inside
  square hsquare := absurd (hround.symm.trans hsquare) (by simp)
  round _ := (hadds.kept _ h.inside).trans (h.round hround)

/-- The innermost bracket knows its owner. -/
theorem Held.owned (h : Held a last (group :: outer)) : group.Owned a := by
  cases h with
  | cons _ _ owned _ => exact owned

/-- The owner of a bracket is older than what stands in the bracket. -/
theorem Held.owner_lt (h : Held a last groups) (hx : anchorOf groups last = some x) :
    ∀ group, groups.head? = some group → group.owner < x := by
  cases h with
  | nil => intro group hgroup; exact absurd hgroup (by simp)
  | cons _ _ owned _ =>
      intro group hgroup
      obtain rfl := Option.some.inj hgroup
      exact owned.newer x hx

/-- What changes behind the owner of the innermost bracket does not concern the brackets. -/
theorem Held.kept (h : Held a last groups) (hkept : a.Kept a' bound) (hsize : a.size ≤ a'.size)
    (hbound : ∀ group, groups.head? = some group → group.owner < bound) : Held a' last groups := by
  -- from the outermost bracket inwards; owners get newer on the way in
  induction h with
  | nil => exact .nil
  | @cons group outer x anchored leads owned rest ih =>
      have howner : group.owner < bound := hbound group rfl
      refine .cons anchored (leads.kept hkept (Nat.le_of_lt howner))
        (owned.kept hkept howner hsize) (ih fun g hg => ?_)
      exact Nat.lt_trans (Nat.lt_of_lt_of_le (rest.owner_lt anchored g hg) leads.le) howner

/-- A root with a path or an argument list in front of it is no bare word. -/
theorem Held.taken (h : Held a last groups) (hgroups : groups.head? = some group)
    (hgroup : group.last ≠ none ∨ group.bracket = .round) (hlast : last = some x) :
    (a.get x).links ≠ (none, false) := by
  -- only the outermost bracket says something of the root; the ones inside it lead there
  induction h generalizing group with
  | nil => exact absurd hgroups (by simp)
  | @cons g outer y anchored leads owned rest ih =>
      obtain rfl := Option.some.inj hgroups
      cases outer with
      | cons g' outer =>
          refine ih rfl (Or.inl ?_)
          rw [show g'.last = some y from anchored]
          simp
      | nil =>
          obtain rfl : x = y := Option.some.inj (hlast.symm.trans anchored)
          intro hlinks
          -- either the root owns the bracket itself, or a path leads from it to the owner
          by_cases howner : x = g.owner
          · rw [howner] at hlinks
            cases hbracket : g.bracket with
            | round =>
                rw [owned.round hbracket] at hlinks
                exact absurd hlinks (by simp)
            | square =>
                rcases hgroup with hgroup | hgroup
                · exact hgroup ((owned.square hbracket).symm.trans (congrArg Prod.fst hlinks))
                · rw [hbracket] at hgroup
                  exact absurd hgroup (by simp)
          · exact leads.child_isSome howner (congrArg Prod.fst hlinks)

/-! ## §4. Operands and brackets. -/

/-- An arena that grows and keeps all links changes neither brackets nor the path that is being
written. -/
theorem Linked.kept (h : Linked a groups last called) (hkept : a.Kept a' a.size)
    (hsize : a.size ≤ a'.size) : Linked a' groups last called := by
  refine ⟨h.held.kept hkept hsize fun group hgroup => ?_, fun x hx => ?_⟩
  · cases h.held with
    | nil => exact absurd hgroup (by simp)
    | cons _ _ owned _ =>
        obtain rfl := Option.some.inj hgroup
        exact owned.inside
  · obtain ⟨z, hz⟩ := h.ends x hx
    exact ⟨z, hz.kept hkept hsize⟩

/-- An operand outside brackets starts a path. -/
theorem Linked.root (hid : a.Ends id id called) : Linked a [] (some id) called := by
  refine ⟨.nil, fun x hx => ?_⟩
  obtain rfl := Option.some.inj hx
  exact ⟨id, hid⟩

/-- An operand in a bracket starts a path. -/
theorem Linked.inner (h : Held a last (group :: outer)) (hkept : a.Kept a' group.owner)
    (hsize : a.size ≤ a'.size) (howned : Group.Owned a' { group with last := some id })
    (hid : a'.Ends id id called) :
    Linked a' ({ group with last := some id } :: outer) last called := by
  refine ⟨?_, fun x hx => ?_⟩
  · cases h with
    | cons anchored leads owned rest =>
        refine .cons anchored (leads.kept hkept (Nat.le_refl _)) howned
          (rest.kept hkept hsize fun g hg => ?_)
        exact Nat.lt_of_lt_of_le (rest.owner_lt anchored g hg) leads.le
  · obtain rfl := Option.some.inj hx
    exact ⟨id, hid⟩

/-- An operand after a dot goes on with the path. -/
theorem Linked.further (h : Linked a groups last called) (hx : anchorOf groups last = some x)
    (hz : a.Ends x z called) (hkept : a.Kept a' z) (hsize : a.size ≤ a'.size)
    (hchild : (a'.get z).child = some id) (hnewer : z < id) (hid : a'.Ends id id false) :
    Linked a' groups last false := by
  refine ⟨h.held.kept hkept hsize fun g hg => ?_, fun y hy => ?_⟩
  · exact Nat.lt_of_lt_of_le (h.held.owner_lt hx g hg) hz.leads.le
  · obtain rfl := Option.some.inj (hx.symm.trans hy)
    refine ⟨id, ?_, hid.links, hid.inside⟩
    exact (hz.leads.kept hkept (Nat.le_refl _)).trans (.step hchild hnewer .refl)

/-- A bracket opens at the end of the path. -/
theorem Linked.open (h : Linked a groups last called) (hx : anchorOf groups last = some x)
    (hz : a.Ends x z called) (hkept : a.Kept a' z) (hsize : a.size ≤ a'.size)
    {bracket : Bracket} {after : Bool}
    (hsquare : bracket = .square → (a'.get z).child = none)
    (hround : bracket = .round → (a'.get z).links = (none, true)) :
    Linked a' ({ bracket, owner := z } :: groups) last after := by
  refine ⟨.cons hx (hz.leads.kept hkept (Nat.le_refl _)) ⟨?_, ?_, hsquare, hround⟩ ?_, ?_⟩
  · exact Nat.lt_of_lt_of_le hz.inside hsize
  · intro y hy
    exact absurd hy (by simp)
  · refine h.held.kept hkept hsize fun g hg => ?_
    exact Nat.lt_of_lt_of_le (h.held.owner_lt hx g hg) hz.leads.le
  · intro y hy
    exact absurd hy (by simp [anchorOf])

/-- A closed bracket passes the end of its path on. -/
theorem Linked.close (h : Linked a (group :: outer) last called)
    (hgroup : group.bracket = .square → group.last ≠ none) :
    Linked a outer last (called || group.bracket == .round) := by
  cases h.held with
  | @cons _ _ x anchored leads owned rest =>
      refine ⟨rest, fun y hy => ?_⟩
      obtain rfl := Option.some.inj (anchored.symm.trans hy)
      cases hbracket : group.bracket with
      | round =>
          -- the arguments hang aside; the owner itself is the end of the path
          refine ⟨group.owner, leads, ?_, owned.inside⟩
          rw [owned.round hbracket]
          simp
      | square =>
          -- the path goes on through the bracket to the end of the path inside it
          obtain ⟨l, hl⟩ := Option.ne_none_iff_exists'.1 (hgroup hbracket)
          obtain ⟨z, hz⟩ := h.ends l hl
          refine ⟨z, leads.trans (.step ?_ (owned.newer l hl) hz.leads), ?_, hz.inside⟩
          · rw [owned.square hbracket, hl]
          · rw [hz.links]
            simp

end LayerTemplates
