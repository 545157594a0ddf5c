/-
  LayerTemplates.Proofs.Control.Building
  ──────────────────────────────────────
  What the builder makes of a sequence of steps.

  A tree shows items at a list of nodes if following the nodes, and the blocks of the
  conditionals among them, meets just these items.  The blocks of a conditional are newer
  than the block that it stands in; so whatever is added to an older block, or to a block
  made later, leaves what is shown as it is.

  Main statement:
    * `Nested.built` — well-nested steps add the items that they stand for at the cursor.
-/
import LayerTemplates.Proofs.Control.Nesting

namespace LayerTemplates

/-! ## §1. Trees that grow. -/

namespace ControlTree

variable (t : ControlTree)

/-- A new node gets the number of nodes for its index, and the others keep theirs. -/
theorem node?_pushNode (block : BlockId) (kind : NodeKind) (entry : String) (id : NodeId) :
    (t.pushNode block kind entry).node? id
      = if id = t.nodes.size then some { kind, block, entry } else t.node? id := by
  simp [node?, pushNode, Array.getElem?_push]

/-- The block that gets the node lists it last, if it is a block of the tree. -/
theorem nodes_pushNode_self {block : BlockId} (h : block < t.blocks.size) (kind : NodeKind)
    (entry : String) :
    ((t.pushNode block kind entry).block block).nodes
      = (t.block block).nodes ++ [t.nodes.size] := by
  simp [ControlTree.block, pushNode, Array.getElem_modify, h]

/-- No other block lists it. -/
theorem nodes_pushNode_of_ne {block k : BlockId} (h : k ≠ block) (kind : NodeKind)
    (entry : String) :
    ((t.pushNode block kind entry).block k).nodes = (t.block k).nodes := by
  simp [ControlTree.block, pushNode, Array.getElem?_modify, Ne.symm h]

@[simp] theorem size_nodes_pushNode (block : BlockId) (kind : NodeKind) (entry : String) :
    (t.pushNode block kind entry).nodes.size = t.nodes.size + 1 := by
  simp [pushNode]

@[simp] theorem size_blocks_pushNode (block : BlockId) (kind : NodeKind) (entry : String) :
    (t.pushNode block kind entry).blocks.size = t.blocks.size := by
  simp [pushNode]

@[simp] theorem nodes_pushBlock (opener : NodeId) : (t.pushBlock opener).nodes = t.nodes := rfl

@[simp] theorem size_blocks_pushBlock (opener : NodeId) :
    (t.pushBlock opener).blocks.size = t.blocks.size + 1 := by
  simp [pushBlock]

/-- A new block is empty, as is every block outside the tree. -/
@[simp] theorem block_pushBlock_nodes (opener : NodeId) (k : BlockId) :
    ((t.pushBlock opener).block k).nodes = (t.block k).nodes := by
  unfold ControlTree.block pushBlock
  rw [Array.getElem?_push]
  by_cases h : k = t.blocks.size
  · simp [h]
  · rw [if_neg h]

/-- Outside the tree there is the empty block, which lists nothing. -/
theorem nodes_of_size_le {k : BlockId} (h : t.blocks.size ≤ k) : (t.block k).nodes = [] := by
  simp [ControlTree.block, h]

/-- The conditional that is opened next; its branches are the next two blocks. -/
def fresh (invert : Bool) (target : Option LexemeId) : Conditional :=
  { invert, target, truePath := t.blocks.size, falsePath := t.blocks.size + 1 }

/-- Adds a conditional with two empty branches at the end of a block. -/
def pushConditional (block : BlockId) (invert : Bool) (target : Option LexemeId)
    (entry : String) : ControlTree :=
  ((t.pushBlock t.nodes.size).pushBlock t.nodes.size).pushNode block
    (.conditional (t.fresh invert target)) entry

section PushConditional

variable (block : BlockId) (invert : Bool) (target : Option LexemeId) (entry : String)

@[simp] theorem size_nodes_pushConditional :
    (t.pushConditional block invert target entry).nodes.size = t.nodes.size + 1 := by
  simp [pushConditional]

@[simp] theorem size_blocks_pushConditional :
    (t.pushConditional block invert target entry).blocks.size = t.blocks.size + 2 := by
  simp [pushConditional]

/-- A conditional is one node more, although it brings two blocks with it. -/
theorem node?_pushConditional (id : NodeId) :
    (t.pushConditional block invert target entry).node? id
      = if id = t.nodes.size
        then some { kind := .conditional (t.fresh invert target), block, entry }
        else t.node? id := by
  unfold pushConditional
  rw [node?_pushNode]
  rfl

/-- The node stands last in its block, not in one of the branches that come with it. -/
theorem nodes_pushConditional_self {block : BlockId} (h : block < t.blocks.size) :
    ((t.pushConditional block invert target entry).block block).nodes
      = (t.block block).nodes ++ [t.nodes.size] := by
  have hblock : block < ((t.pushBlock t.nodes.size).pushBlock t.nodes.size).blocks.size := by
    rw [size_blocks_pushBlock, size_blocks_pushBlock]
    exact Nat.lt_add_right 2 h
  unfold pushConditional
  rw [nodes_pushNode_self _ hblock, block_pushBlock_nodes, block_pushBlock_nodes]
  rfl

theorem nodes_pushConditional_of_ne {block k : BlockId} (h : k ≠ block) :
    ((t.pushConditional block invert target entry).block k).nodes = (t.block k).nodes := by
  unfold pushConditional
  rw [nodes_pushNode_of_ne _ h, block_pushBlock_nodes, block_pushBlock_nodes]

/-- The branches are new, and nothing is in them. -/
theorem nodes_pushConditional_of_le {block k : Nat} (h : block < t.blocks.size)
    (hk : t.blocks.size ≤ k) :
    ((t.pushConditional block invert target entry).block k).nodes = [] := by
  have hne : k ≠ block := Nat.ne_of_gt (Nat.lt_of_lt_of_le h hk)
  rw [t.nodes_pushConditional_of_ne invert target entry hne, nodes_of_size_le t hk]

end PushConditional

@[simp] theorem size_nodes_setConditional (id : NodeId) (c : Conditional) :
    (t.setConditional id c).nodes.size = t.nodes.size := by
  simp [setConditional]

/-- The node of a conditional stays where it is and keeps its entry, whatever becomes of its
status. -/
theorem node?_setConditional (id : NodeId) (c : Conditional) (other : NodeId) :
    (t.setConditional id c).node? other
      = if other = id then (t.node? id).map fun node => { node with kind := .conditional c }
        else t.node? other := by
  unfold node? setConditional
  rw [Array.getElem?_modify]
  by_cases h : id = other
  · subst h
    simp
  · rw [if_neg h, if_neg (Ne.symm h)]

/-- What a node is, whatever has become of its conditional. -/
def shape? (id : NodeId) : Option NodeKind :=
  (t.node? id).map fun node =>
    match node.kind with
    | .conditional c => .conditional { c with status := .closed }
    | kind => kind

/-! ## §2. What a tree shows. -/

/-- Following the nodes `ids` meets the items.  All blocks on the way are `low` or newer, and
those of a conditional are newer than the block that it stands in. -/
inductive Shows : Nat → List NodeId → List Item → Prop
  | nil {low : Nat} : Shows low [] []
  | text {low : Nat} {id : NodeId} {lexeme : LexemeId} {ids : List NodeId} {items : List Item}
      (node : t.shape? id = some (.text lexeme)) (rest : Shows low ids items) :
      Shows low (id :: ids) (.text lexeme :: items)
  | insert {low : Nat} {id : NodeId} {target : Option LexemeId} {ids : List NodeId}
      {items : List Item} (node : t.shape? id = some (.insert target))
      (rest : Shows low ids items) : Shows low (id :: ids) (.insert target :: items)
  | conditional {low : Nat} {id : NodeId} {c : Conditional} {ids : List NodeId}
      {onTrue onFalse items : List Item} (node : t.shape? id = some (.conditional c))
      (newer : low ≤ c.truePath ∧ low ≤ c.falsePath)
      (inside : c.truePath < t.blocks.size ∧ c.falsePath < t.blocks.size)
      (true : Shows (c.truePath + 1) (t.block c.truePath).nodes onTrue)
      (false : Shows (c.falsePath + 1) (t.block c.falsePath).nodes onFalse)
      (rest : Shows low ids items) :
      Shows low (id :: ids) (.conditional c.invert c.target onTrue onFalse :: items)

variable {t}

/-- What two lists of nodes show they show one after the other, by induction on the first. -/
theorem Shows.append {low : Nat} {ids more : List NodeId} {items others : List Item}
    (h : t.Shows low ids items) (h' : t.Shows low more others) :
    t.Shows low (ids ++ more) (items ++ others) := by
  induction h with
  | nil => exact h'
  | text node _ ih => exact .text node (ih h')
  | insert node _ ih => exact .insert node (ih h')
  | conditional node newer inside onTrue onFalse _ _ _ ih =>
      exact .conditional node newer inside onTrue onFalse (ih h')

/-- Blocks that are newer than a bound are newer than an earlier one. -/
theorem Shows.mono {low low' : Nat} (hl : low' ≤ low) {ids : List NodeId} {items : List Item}
    (h : t.Shows low ids items) : t.Shows low' ids items := by
  induction h with
  | nil => exact .nil
  | text node _ ih => exact .text node (ih hl)
  | insert node _ ih => exact .insert node (ih hl)
  | conditional node newer inside onTrue onFalse _ _ _ ih =>
      exact .conditional node ⟨by omega, by omega⟩ inside onTrue onFalse (ih hl)

/-- A tree that grows goes on to show what it showed, as long as the blocks on the way are left
as they were. -/
theorem Shows.frame {t' : ControlTree} {low : Nat} {ids : List NodeId} {items : List Item}
    (h : t.Shows low ids items)
    (hn : ∀ id kind, t.shape? id = some kind → t'.shape? id = some kind)
    (hb : ∀ k : Nat, low ≤ k → k < t.blocks.size → (t'.block k).nodes = (t.block k).nodes)
    (hs : t.blocks.size ≤ t'.blocks.size) : t'.Shows low ids items := by
  -- all blocks on the way are `low` or newer, and those are left as they were
  induction h with
  | nil => exact .nil
  | text node _ ih => exact .text (hn _ _ node) (ih hb)
  | insert node _ ih => exact .insert (hn _ _ node) (ih hb)
  | @conditional low id c ids onTrue onFalse items node newer inside _ _ _ ih₁ ih₂ ih₃ =>
      refine .conditional (hn _ _ node) newer
        ⟨Nat.lt_of_lt_of_le inside.1 hs, Nat.lt_of_lt_of_le inside.2 hs⟩ ?_ ?_ (ih₃ hb)
      · rw [hb c.truePath newer.1 inside.1]
        exact ih₁ fun k hk => hb k (by omega)
      · rw [hb c.falsePath newer.2 inside.2]
        exact ih₂ fun k hk => hb k (by omega)

end ControlTree

/-! ## §3. Building well-nested steps. -/

/-- Adds a step. -/
def TreeBuilder.addStep (b : TreeBuilder) : ControlStep → TreeBuilder
  | .text id => b.addText id
  | .directive d entry => b.addDirective d entry

/-- The second builder is the first one with the items added at the cursor, and no conditional
left open. -/
structure Built (b b' : TreeBuilder) (items : List Item) : Prop where
  cursor : b'.cursor = b.cursor
  opened : b'.opened = b.opened
  faults : b'.faults = b.faults
  nodesGrow : b.tree.nodes.size ≤ b'.tree.nodes.size
  blocksGrow : b.tree.blocks.size ≤ b'.tree.blocks.size
  node : ∀ id : Nat, id < b.tree.nodes.size → b'.tree.node? id = b.tree.node? id
  block : ∀ k : Nat, k < b.tree.blocks.size → k ≠ b.cursor →
    (b'.tree.block k).nodes = (b.tree.block k).nodes
  shown : ∃ ids, (b'.tree.block b.cursor).nodes = (b.tree.block b.cursor).nodes ++ ids
    ∧ b'.tree.Shows b.tree.blocks.size ids items

/-- The cursor stands in the tree. -/
def TreeBuilder.Placed (b : TreeBuilder) : Prop := b.cursor < b.tree.blocks.size

/-- What is no node of the tree has no shape. -/
theorem ControlTree.lt_of_shape? {t : ControlTree} {id : NodeId} {kind : NodeKind}
    (h : t.shape? id = some kind) : id < t.nodes.size := by
  unfold shape? node? at h
  obtain ⟨node, hn, -⟩ := Option.map_eq_some_iff.1 h
  exact (Array.getElem?_eq_some_iff.1 hn).1

/-- A tree that still has its nodes shows them as before. -/
theorem ControlTree.shape?_of_node? {t t' : ControlTree}
    (h : ∀ id : Nat, id < t.nodes.size → t'.node? id = t.node? id) (id : NodeId)
    (kind : NodeKind) (hk : t.shape? id = some kind) : t'.shape? id = some kind := by
  have hid := lt_of_shape? hk
  unfold shape? at hk ⊢
  rw [h id hid]
  exact hk

namespace Built

variable {b b' : TreeBuilder} {items : List Item}

/-- The cursor is back where it was, in a tree that has only grown. -/
theorem placed (h : Built b b' items) (hb : b.Placed) : b'.Placed := by
  unfold TreeBuilder.Placed
  rw [h.cursor]
  exact Nat.lt_of_lt_of_le hb h.blocksGrow

/-- Nodes that were there go on to be what they were. -/
theorem shape (h : Built b b' items) {id : NodeId} {kind : NodeKind}
    (hk : b.tree.shape? id = some kind) : b'.tree.shape? id = some kind :=
  ControlTree.shape?_of_node? h.node id kind hk

/-- What was shown away from the cursor still is. -/
theorem frame (h : Built b b' items) {low : Nat} (hlow : b.cursor < low) {ids : List NodeId}
    {others : List Item} (hs : b.tree.Shows low ids others) : b'.tree.Shows low ids others := by
  refine hs.frame (fun _ _ hk => h.shape hk) (fun k hk hsize => ?_) h.blocksGrow
  exact h.block k hsize (Nat.ne_of_gt (Nat.lt_of_lt_of_le hlow hk))

/-- No items are added by doing nothing. -/
theorem refl (b : TreeBuilder) : Built b b [] where
  cursor := rfl
  opened := rfl
  faults := rfl
  nodesGrow := Nat.le_refl _
  blocksGrow := Nat.le_refl _
  node _ _ := rfl
  block _ _ _ := rfl
  shown := ⟨[], by simp, .nil⟩

/-- Items that are added one after the other are added in this order; the first of them go on to be
shown because their blocks are newer than the cursor's. -/
theorem trans {b'' : TreeBuilder} {others : List Item} (hb : b.Placed) (h : Built b b' items)
    (h' : Built b' b'' others) : Built b b'' (items ++ others) where
  cursor := h'.cursor.trans h.cursor
  opened := h'.opened.trans h.opened
  faults := h'.faults.trans h.faults
  nodesGrow := Nat.le_trans h.nodesGrow h'.nodesGrow
  blocksGrow := Nat.le_trans h.blocksGrow h'.blocksGrow
  node id hid := by
    rw [h'.node id (Nat.lt_of_lt_of_le hid h.nodesGrow), h.node id hid]
  block k hk hne := by
    have hk' := Nat.lt_of_lt_of_le hk h.blocksGrow
    rw [h'.block k hk' (by rw [h.cursor]; exact hne), h.block k hk hne]
  shown := by
    obtain ⟨ids, hids, hshows⟩ := h.shown
    obtain ⟨more, hmore, hshows'⟩ := h'.shown
    rw [h.cursor] at hmore
    refine ⟨ids ++ more, by rw [hmore, hids, List.append_assoc], ?_⟩
    -- what came first is framed by what was added later: its blocks are newer than the cursor's
    have hcursor : b'.cursor < b.tree.blocks.size := by rw [h.cursor]; exact hb
    exact (h'.frame hcursor hshows).append (hshows'.mono h.blocksGrow)

/-- A node without branches is one item more. -/
theorem pushNode (hb : b.Placed) {kind : NodeKind} {entry : String} {item : Item}
    (hshows : ∀ t : ControlTree, ∀ (low : Nat) (id : NodeId),
      t.node? id = some { kind, block := b.cursor, entry } → t.Shows low [id] [item]) :
    Built b { b with tree := b.tree.pushNode b.cursor kind entry } [item] where
  cursor := rfl
  opened := rfl
  faults := rfl
  nodesGrow := by simp
  blocksGrow := by simp
  node id hid := by
    rw [ControlTree.node?_pushNode, if_neg (Nat.ne_of_lt hid)]
  block k _ hne := ControlTree.nodes_pushNode_of_ne _ hne _ _
  shown := by
    refine ⟨[b.tree.nodes.size], ControlTree.nodes_pushNode_self _ hb _ _, hshows _ _ _ ?_⟩
    rw [ControlTree.node?_pushNode, if_pos rfl]

/-- Text is one item, without branches. -/
theorem addText (hb : b.Placed) (id : LexemeId) : Built b (b.addText id) [.text id] := by
  refine pushNode hb fun t low node hn => .text ?_ .nil
  unfold ControlTree.shape?
  rw [hn]
  rfl

/-- So is a value, whether its target is known or not. -/
theorem addInsert (hb : b.Placed) (target : Option LexemeId) (entry : String) :
    Built b { b with tree := b.tree.pushNode b.cursor (.insert target) entry }
      [.insert target] := by
  refine pushNode hb fun t low node hn => .insert ?_ .nil
  unfold ControlTree.shape?
  rw [hn]
  rfl

end Built

/-! ## §4. Inside a conditional. -/

/-- The block of the part before `else`. -/
def Conditional.firstPath (c : Conditional) : Nat :=
  { c with status := .first }.activePath

/-- The block of the part after `else`. -/
def Conditional.secondPath (c : Conditional) : Nat :=
  { c with status := .second }.activePath

/-- The second builder is the first one with one more conditional open, whose parts show what
is told. -/
structure Inside (b x : TreeBuilder) (c : Conditional) (first second : List Item) : Prop where
  node : ∃ entry, x.tree.node? b.tree.nodes.size
    = some { kind := .conditional c, block := b.cursor, entry }
  paths : c.truePath = b.tree.blocks.size ∧ c.falsePath = b.tree.blocks.size + 1
  opened : x.opened = b.tree.nodes.size :: b.opened
  cursor : x.cursor = c.activePath
  faults : x.faults = b.faults
  nodesGrow : b.tree.nodes.size < x.tree.nodes.size
  blocksGrow : b.tree.blocks.size + 2 ≤ x.tree.blocks.size
  older : ∀ id : Nat, id < b.tree.nodes.size → x.tree.node? id = b.tree.node? id
  block : ∀ k : Nat, k < b.tree.blocks.size → k ≠ b.cursor →
    (x.tree.block k).nodes = (b.tree.block k).nodes
  here : (x.tree.block b.cursor).nodes = (b.tree.block b.cursor).nodes ++ [b.tree.nodes.size]
  first : x.tree.Shows (b.tree.blocks.size + 2) (x.tree.block c.firstPath).nodes first
  second : x.tree.Shows (b.tree.blocks.size + 2) (x.tree.block c.secondPath).nodes second

theorem ControlTree.conditional?_of_node? {t : ControlTree} {id : NodeId} {node : ControlNode}
    {c : Conditional} (h : t.node? id = some node) (hk : node.kind = .conditional c) :
    t.conditional? id = some c := by
  unfold conditional?
  rw [h, Option.map_some, hk]

/-- Changing the status of a conditional changes no shape. -/
theorem ControlTree.shape?_setConditional {t : ControlTree} {id : NodeId} {node : ControlNode}
    {c : Conditional} (h : t.node? id = some node) (hk : node.kind = .conditional c)
    (status : BranchStatus) (other : NodeId) :
    (t.setConditional id { c with status }).shape? other = t.shape? other := by
  unfold shape?
  rw [node?_setConditional]
  by_cases ho : other = id
  · subst ho
    rw [if_pos rfl, h]
    simp [hk]
  · rw [if_neg ho]

/-- Changing the status of a conditional changes nothing that is shown. -/
theorem ControlTree.Shows.setConditional {t : ControlTree} {id : NodeId} {node : ControlNode}
    {c : Conditional} (h : t.node? id = some node) (hk : node.kind = .conditional c)
    (status : BranchStatus) {low : Nat} {ids : List NodeId} {items : List Item}
    (hs : t.Shows low ids items) :
    (t.setConditional id { c with status }).Shows low ids items :=
  hs.frame (fun other kind ho => by rw [shape?_setConditional h hk]; exact ho)
    (fun _ _ _ => rfl) (Nat.le_refl _)

namespace Inside

variable {b x y : TreeBuilder} {c : Conditional} {first second items : List Item}

/-- The two parts of a conditional have a new block each. -/
theorem paths_cases (h : Inside b x c first second) :
    (c.firstPath = b.tree.blocks.size ∧ c.secondPath = b.tree.blocks.size + 1)
      ∨ (c.firstPath = b.tree.blocks.size + 1 ∧ c.secondPath = b.tree.blocks.size) := by
  obtain ⟨ht, hf⟩ := h.paths
  obtain ⟨invert, target, truePath, falsePath, status⟩ := c
  cases invert with
  | false => exact Or.inl ⟨ht, hf⟩
  | true => exact Or.inr ⟨hf, ht⟩

/-- The cursor stands in one of the two new blocks. -/
theorem cursor_new (h : Inside b x c first second) :
    b.tree.blocks.size ≤ x.cursor ∧ x.cursor < b.tree.blocks.size + 2 := by
  obtain ⟨ht, hf⟩ := h.paths
  have hlt : b.tree.blocks.size < b.tree.blocks.size + 2 := by omega
  rw [h.cursor]
  unfold Conditional.activePath
  split
  · rw [ht]
    exact ⟨Nat.le_refl _, hlt⟩
  · rw [ht]
    exact ⟨Nat.le_refl _, hlt⟩
  · rw [hf]
    exact ⟨Nat.le_succ _, Nat.lt_succ_self _⟩

theorem placed (h : Inside b x c first second) : x.Placed :=
  Nat.lt_of_lt_of_le h.cursor_new.2 h.blocksGrow

/-- A conditional is opened with both parts empty. -/
theorem openConditional (hb : b.Placed) (invert : Bool) (target : Option LexemeId)
    (entry : String) :
    Inside b (b.openConditional invert target entry)
      { invert, target, truePath := b.tree.blocks.size, falsePath := b.tree.blocks.size + 1 }
      [] [] := by
  -- the node goes to the block at the cursor, which is none of the two new ones
  have hempty : ∀ k : Nat, b.tree.blocks.size ≤ k →
      ((b.openConditional invert target entry).tree.block k).nodes = [] :=
    fun _ hk => b.tree.nodes_pushConditional_of_le invert target entry hb hk
  have hnew := b.tree.node?_pushConditional b.cursor invert target entry b.tree.nodes.size
  rw [if_pos rfl] at hnew
  refine ⟨⟨entry, hnew⟩, ⟨rfl, rfl⟩, rfl, rfl, rfl, ?_, ?_, ?_, fun k _ hk => ?_, ?_, ?_, ?_⟩
  · exact Nat.le_of_eq (b.tree.size_nodes_pushConditional _ _ _ _).symm
  · exact Nat.le_of_eq (b.tree.size_blocks_pushConditional _ _ _ _).symm
  · intro id hid
    have hold := b.tree.node?_pushConditional b.cursor invert target entry id
    rw [if_neg (Nat.ne_of_lt hid)] at hold
    exact hold
  · exact b.tree.nodes_pushConditional_of_ne invert target entry hk
  · exact b.tree.nodes_pushConditional_self invert target entry hb
  · rw [hempty]
    · exact .nil
    · cases invert
      · exact Nat.le_refl _
      · exact Nat.le_succ _
  · rw [hempty]
    · exact .nil
    · cases invert
      · exact Nat.le_succ _
      · exact Nat.le_refl _

/-- What the builder adds inside a conditional goes to one of its two blocks, and leaves all
else as it was. -/
theorem older_part (h : Inside b x c first second) (hb : b.Placed) (h' : Built x y items) :
    (∃ entry, y.tree.node? b.tree.nodes.size
        = some { kind := .conditional c, block := b.cursor, entry })
      ∧ y.opened = b.tree.nodes.size :: b.opened ∧ y.cursor = c.activePath
      ∧ y.faults = b.faults ∧ b.tree.nodes.size < y.tree.nodes.size
      ∧ b.tree.blocks.size + 2 ≤ y.tree.blocks.size
      ∧ (∀ id : Nat, id < b.tree.nodes.size → y.tree.node? id = b.tree.node? id)
      ∧ (∀ k : Nat, k < b.tree.blocks.size → k ≠ b.cursor →
          (y.tree.block k).nodes = (b.tree.block k).nodes)
      ∧ (y.tree.block b.cursor).nodes
          = (b.tree.block b.cursor).nodes ++ [b.tree.nodes.size] := by
  -- the cursor stands in a new block, so no block of the old tree is written to
  have hold : ∀ k : Nat, k < b.tree.blocks.size →
      (y.tree.block k).nodes = (x.tree.block k).nodes := by
    intro k hk
    refine h'.block k ?_ (Nat.ne_of_lt (Nat.lt_of_lt_of_le hk h.cursor_new.1))
    have := h.blocksGrow
    omega
  refine ⟨?_, ?_, ?_, ?_, ?_, ?_, ?_, ?_, ?_⟩
  · obtain ⟨entry, hn⟩ := h.node
    exact ⟨entry, by rw [h'.node _ h.nodesGrow, hn]⟩
  · rw [h'.opened, h.opened]
  · rw [h'.cursor, h.cursor]
  · rw [h'.faults, h.faults]
  · exact Nat.lt_of_lt_of_le h.nodesGrow h'.nodesGrow
  · exact Nat.le_trans h.blocksGrow h'.blocksGrow
  · intro id hid
    rw [h'.node id (Nat.lt_trans hid h.nodesGrow), h.older id hid]
  · intro k hk hne
    rw [hold k hk, h.block k hk hne]
  · rw [hold _ hb, h.here]

/-- What the cursor's part shows grows by the items added, and the other part stays. -/
theorem parts (h : Inside b x c first second) (h' : Built x y items) {active other : Nat}
    {shown hidden : List Item} (hc : x.cursor = active) (hne : active ≠ other)
    (ha : active < b.tree.blocks.size + 2) (ho : other < b.tree.blocks.size + 2)
    (hs : x.tree.Shows (b.tree.blocks.size + 2) (x.tree.block active).nodes shown)
    (hh : x.tree.Shows (b.tree.blocks.size + 2) (x.tree.block other).nodes hidden) :
    y.tree.Shows (b.tree.blocks.size + 2) (y.tree.block active).nodes (shown ++ items)
      ∧ y.tree.Shows (b.tree.blocks.size + 2) (y.tree.block other).nodes hidden := by
  subst hc
  obtain ⟨ids, hids, hshows⟩ := h'.shown
  constructor
  · rw [hids]
    exact (h'.frame ha hs).append (hshows.mono h.blocksGrow)
  · rw [h'.block other (Nat.lt_of_lt_of_le ho h.blocksGrow) (Ne.symm hne)]
    exact h'.frame ha hh

/-- As long as the first part is collected, items go there, and the second part shows what it
did. -/
theorem inFirst (h : Inside b x c first second) (hb : b.Placed) (hc : c.status = .first)
    (h' : Built x y items) : Inside b y c (first ++ items) second := by
  obtain ⟨hnode, hopened, hcursor, hfaults, hnodes, hblocks, holder, hblock, hhere⟩ :=
    h.older_part hb h'
  have hactive : x.cursor = c.firstPath := by
    rw [h.cursor]
    unfold Conditional.firstPath
    rw [← hc]
  -- which of the two blocks comes first depends on whether the conditional is inverted
  have hparts : y.tree.Shows (b.tree.blocks.size + 2) (y.tree.block c.firstPath).nodes
        (first ++ items)
      ∧ y.tree.Shows (b.tree.blocks.size + 2) (y.tree.block c.secondPath).nodes second := by
    rcases h.paths_cases with ⟨h₁, h₂⟩ | ⟨h₁, h₂⟩ <;>
      exact h.parts h' hactive (by omega) (by omega) (by omega) h.first h.second
  exact ⟨hnode, h.paths, hopened, hcursor, hfaults, hnodes, hblocks, holder, hblock, hhere,
    hparts.1, hparts.2⟩

/-- Once the second part is collected, items go there, and the first part is complete. -/
theorem inSecond (h : Inside b x c first second) (hb : b.Placed) (hc : c.status = .second)
    (h' : Built x y items) : Inside b y c first (second ++ items) := by
  obtain ⟨hnode, hopened, hcursor, hfaults, hnodes, hblocks, holder, hblock, hhere⟩ :=
    h.older_part hb h'
  have hactive : x.cursor = c.secondPath := by
    rw [h.cursor]
    unfold Conditional.secondPath
    rw [← hc]
  have hparts : y.tree.Shows (b.tree.blocks.size + 2) (y.tree.block c.secondPath).nodes
        (second ++ items)
      ∧ y.tree.Shows (b.tree.blocks.size + 2) (y.tree.block c.firstPath).nodes first := by
    rcases h.paths_cases with ⟨h₁, h₂⟩ | ⟨h₁, h₂⟩ <;>
      exact h.parts h' hactive (by omega) (by omega) (by omega) h.second h.first
  exact ⟨hnode, h.paths, hopened, hcursor, hfaults, hnodes, hblocks, holder, hblock, hhere,
    hparts.2, hparts.1⟩

/-- `else` takes the cursor to the second part. -/
theorem switch (h : Inside b x c first second) (hc : c.status = .first)
    (entry : String) :
    Inside b (x.switchBranch entry) { c with status := .second } first second := by
  obtain ⟨opening, hn⟩ := h.node
  have hcond : x.tree.conditional? b.tree.nodes.size = some c :=
    ControlTree.conditional?_of_node? hn rfl
  have hx : x.switchBranch entry
      = { x with
          tree := x.tree.setConditional b.tree.nodes.size { c with status := .second }
          cursor := { c with status := .second }.activePath } := by
    unfold TreeBuilder.switchBranch
    rw [h.opened]
    dsimp only
    rw [hcond]
    dsimp only
    rw [hc]
  rw [hx]
  refine ⟨⟨opening, ?_⟩, h.paths, h.opened, rfl, h.faults, ?_, h.blocksGrow, ?_, h.block, h.here,
    h.first.setConditional hn rfl .second, h.second.setConditional hn rfl .second⟩
  · rw [ControlTree.node?_setConditional, if_pos rfl, hn]
    rfl
  · rw [ControlTree.size_nodes_setConditional]
    exact h.nodesGrow
  · intro id hid
    rw [ControlTree.node?_setConditional, if_neg (Nat.ne_of_lt hid), h.older id hid]

/-- `end` takes the cursor back, and the conditional is one item more. -/
theorem close (h : Inside b x c first second) (hc : c.status ≠ .closed)
    (entry : String) :
    Built b (x.closeConditional entry) [Item.branching c.invert c.target first second] := by
  obtain ⟨opening, hn⟩ := h.node
  have hcond : x.tree.conditional? b.tree.nodes.size = some c :=
    ControlTree.conditional?_of_node? hn rfl
  -- the innermost open conditional is the one at hand, so nothing is noted
  have hx : x.closeConditional entry
      = { x with
          tree := x.tree.setConditional b.tree.nodes.size { c with status := .closed }
          cursor := b.cursor
          opened := b.opened } := by
    unfold TreeBuilder.closeConditional
    rw [h.opened]
    dsimp only
    rw [hcond, hn]
    dsimp only
    cases hs : c.status with
    | first | second => rfl
    | closed => exact absurd hs hc
  have hfirst := h.first.setConditional hn rfl .closed
  have hsecond := h.second.setConditional hn rfl .closed
  have hself : (x.tree.setConditional b.tree.nodes.size { c with status := .closed }).shape?
      b.tree.nodes.size = some (.conditional { c with status := .closed }) := by
    unfold ControlTree.shape?
    rw [ControlTree.node?_setConditional, if_pos rfl, hn]
    rfl
  rw [hx]
  refine ⟨rfl, rfl, h.faults, ?_, ?_, ?_, h.block, [b.tree.nodes.size], h.here, ?_⟩
  · rw [ControlTree.size_nodes_setConditional]
    exact Nat.le_of_lt h.nodesGrow
  · exact Nat.le_trans (Nat.le_add_right _ 2) h.blocksGrow
  · intro id hid
    rw [ControlTree.node?_setConditional, if_neg (Nat.ne_of_lt hid), h.older id hid]
  · obtain ⟨ht, hf⟩ := h.paths
    have hsize := h.blocksGrow
    obtain ⟨invert, target, truePath, falsePath, status⟩ := c
    dsimp only at ht hf
    subst ht hf
    have hnewer : b.tree.blocks.size ≤ b.tree.blocks.size + 1 := Nat.le_succ _
    have hinside : b.tree.blocks.size < x.tree.blocks.size
        ∧ b.tree.blocks.size + 1 < x.tree.blocks.size := by omega
    -- the branch for `true` is the first part, or the second one where the conditional is inverted
    cases invert with
    | false =>
        exact .conditional hself ⟨Nat.le_refl _, hnewer⟩ hinside
          (hfirst.mono (Nat.le_succ _)) hsecond .nil
    | true =>
        exact .conditional hself ⟨Nat.le_refl _, hnewer⟩ hinside
          (hsecond.mono (Nat.le_succ _)) hfirst .nil

end Inside

/-! ## §5. Well-nested steps. -/

theorem TreeBuilder.addStep_insert {d : Directive} (op : d.operator = .insert) (b : TreeBuilder)
    (entry : String) :
    b.addStep (.directive d entry)
      = { b with tree := b.tree.pushNode b.cursor (.insert d.target) entry } := by
  show b.addDirective d entry = _
  unfold TreeBuilder.addDirective
  rw [op]

theorem TreeBuilder.addStep_comment {d : Directive} (op : d.operator = .comment)
    (b : TreeBuilder) (entry : String) : b.addStep (.directive d entry) = b := by
  show b.addDirective d entry = b
  unfold TreeBuilder.addDirective
  rw [op]

theorem TreeBuilder.addStep_opening {d : Directive} {invert : Bool}
    (op : d.operator = .opening invert) (b : TreeBuilder) (entry : String) :
    b.addStep (.directive d entry) = b.openConditional invert d.target entry := by
  show b.addDirective d entry = _
  unfold TreeBuilder.addDirective
  rw [op]
  cases invert <;> rfl

theorem TreeBuilder.addStep_otherwise {d : Directive} (op : d.operator = .otherwise)
    (b : TreeBuilder) (entry : String) :
    b.addStep (.directive d entry) = b.switchBranch entry := by
  show b.addDirective d entry = _
  unfold TreeBuilder.addDirective
  rw [op]

theorem TreeBuilder.addStep_endBlock {d : Directive} (op : d.operator = .endBlock)
    (b : TreeBuilder) (entry : String) :
    b.addStep (.directive d entry) = b.closeConditional entry := by
  show b.addDirective d entry = _
  unfold TreeBuilder.addDirective
  rw [op]

/-- **Well-nested steps add the items that they stand for at the cursor**, and leave no
conditional open and no fault behind. -/
theorem Nested.built {steps : List ControlStep} {items : List Item} (h : Nested steps items) :
    ∀ b : TreeBuilder, b.Placed → Built b (steps.foldl TreeBuilder.addStep b) items := by
  -- on the nesting; between `if` and `end` the builder is inside the conditional
  induction h with
  | nil => intro b _; exact Built.refl b
  | @text id steps items _ ih =>
      intro b hb
      have h₁ := Built.addText hb id
      exact h₁.trans hb (ih _ (h₁.placed hb))
  | @insert d entry steps items op _ ih =>
      intro b hb
      have h₁ := Built.addInsert hb d.target entry
      rw [List.foldl_cons, TreeBuilder.addStep_insert op]
      exact h₁.trans hb (ih _ (h₁.placed hb))
  | @comment d entry steps items op _ ih =>
      intro b hb
      rw [List.foldl_cons, TreeBuilder.addStep_comment op]
      exact ih b hb
  | @conditional d e entry closing first steps onFirst items invert op stop _ _ ih₁ ih₂ =>
      intro b hb
      have h₀ := Inside.openConditional hb invert d.target entry
      have h₁ := h₀.inFirst hb rfl (ih₁ _ h₀.placed)
      have h₂ := h₁.close (by simp) closing
      rw [List.foldl_cons, List.foldl_append, List.foldl_cons, TreeBuilder.addStep_opening op,
        TreeBuilder.addStep_endBlock stop]
      exact h₂.trans hb (ih₂ _ (h₂.placed hb))
  | @alternative d m e entry middle closing first second steps onFirst onSecond items invert op
      turn stop _ _ _ ih₁ ih₂ ih₃ =>
      intro b hb
      have h₀ := Inside.openConditional hb invert d.target entry
      have h₁ := h₀.inFirst hb rfl (ih₁ _ h₀.placed)
      have h₂ := h₁.switch rfl middle
      have h₃ := h₂.inSecond hb rfl (ih₂ _ h₂.placed)
      have h₄ := h₃.close (by simp) closing
      rw [List.foldl_cons, List.foldl_append, List.foldl_cons, List.foldl_append, List.foldl_cons,
        TreeBuilder.addStep_opening op, TreeBuilder.addStep_otherwise turn,
        TreeBuilder.addStep_endBlock stop]
      exact h₄.trans hb (ih₃ _ (h₄.placed hb))

end LayerTemplates
