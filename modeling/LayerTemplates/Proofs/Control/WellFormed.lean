/-
  LayerTemplates.Proofs.Control.WellFormed
  ────────────────────────────────────────
  The control tree is well formed whatever the builder is fed.

  Nodes, blocks, the conditionals that are open and the cursor are kept apart and have to
  agree: a node names the block that lists it, a block names the conditional that it is a
  branch of, the open conditionals are those that are not closed, and the cursor is where the
  innermost of them collects.  What one step can make of a builder is said once, by `Next`;
  everything else is shown of those six outcomes.

  Main statements:
    * `TreeBuilder.WellFormed.next_addStep` — what one step can make of a builder.
    * `TreeBuilder.WellFormed.next` — each outcome keeps a builder well formed.
    * `TreeBuilder.WellFormed.foldl_addStep` — what each outcome keeps, all steps keep.
    * `TreeBuilder.WellFormed.allFaults_expected` — no fault is one of the builder itself.
-/
import LayerTemplates.Proofs.Control.Faults

namespace LayerTemplates

/-! ## §1. Conditionals and their branches. -/

namespace ControlTree

variable {t t' : ControlTree}

/-- A conditional is found at a node, and it is what the node holds. -/
theorem exists_node_of_conditional? {id : NodeId} {c : Conditional}
    (h : t.conditional? id = some c) :
    ∃ node, t.node? id = some node ∧ node.kind = .conditional c := by
  rw [conditional?_eq_bind] at h
  obtain ⟨node, hnode, hc⟩ := Option.bind_eq_some_iff.1 h
  refine ⟨node, hnode, ?_⟩
  obtain ⟨kind, block, entry⟩ := node
  cases kind with
  | conditional other => exact congrArg NodeKind.conditional (Option.some.inj hc)
  | text lexeme => exact absurd hc (by simp [NodeKind.conditional?])
  | insert target => exact absurd hc (by simp [NodeKind.conditional?])

theorem node?_of_size_le {id : NodeId} (h : t.nodes.size ≤ id) : t.node? id = none :=
  Array.getElem?_eq_none h

/-- Outside the tree there are neither nodes nor conditionals. -/
theorem conditional?_of_size_le {id : NodeId} (h : t.nodes.size ≤ id) :
    t.conditional? id = none := by
  rw [conditional?_eq_bind, node?_of_size_le h]
  rfl

/-- The number of nodes that are conditionals. -/
def conditionalCount (t : ControlTree) : Nat :=
  (List.range t.nodes.size).countP fun id => (t.conditional? id).isSome

/-- The block is one of the two branches of the conditional at a node. -/
def HasBranch (t : ControlTree) (id : NodeId) (k : Nat) : Prop :=
  ∃ c, t.conditional? id = some c ∧ (k = c.truePath ∨ k = c.falsePath)

/-- The blocks of the two branches of the conditional at a node. -/
def branches? (t : ControlTree) (id : NodeId) : Option (BlockId × BlockId) :=
  (t.conditional? id).map fun c => (c.truePath, c.falsePath)

/-- The branches of a conditional are told by its two blocks alone, whatever its status is. -/
theorem hasBranch_iff (t : ControlTree) (id : NodeId) (k : Nat) :
    t.HasBranch id k ↔ ∃ p, t.branches? id = some p ∧ (k = p.1 ∨ k = p.2) := by
  unfold HasBranch branches?
  cases t.conditional? id with
  | none => simp
  | some c => simp

/-- Trees that have the same two blocks for a conditional have the same branches. -/
theorem hasBranch_congr {id : NodeId} (h : t'.branches? id = t.branches? id) (k : Nat) :
    t'.HasBranch id k ↔ t.HasBranch id k := by
  rw [hasBranch_iff, hasBranch_iff, h]

theorem isSome_conditional? (t : ControlTree) (id : NodeId) :
    (t.conditional? id).isSome = (t.branches? id).isSome := by
  unfold branches?
  rw [Option.isSome_map]

/-- The block that a conditional collects in is one of its branches, in each status. -/
theorem hasBranch_activePath {id : NodeId} {c : Conditional} (h : t.conditional? id = some c) :
    t.HasBranch id c.activePath := by
  refine ⟨c, h, ?_⟩
  unfold Conditional.activePath
  split
  · exact Or.inl rfl
  · exact Or.inl rfl
  · exact Or.inr rfl

/-! ## §2. What a tree gains. -/

/-- A node goes to a block, and does not change whose branch the block is. -/
@[simp] theorem opener_pushNode (t : ControlTree) (block : BlockId) (kind : NodeKind)
    (entry : String) (k : Nat) :
    ((t.pushNode block kind entry).block k).opener = (t.block k).opener := by
  unfold ControlTree.block pushNode
  dsimp only
  rw [Array.getElem?_modify]
  by_cases h : block = k
  · subst h
    rw [if_pos rfl]
    cases t.blocks[block]? <;> rfl
  · rw [if_neg h]

/-- The block at hand lists the new node once more than before, and nothing else changes. -/
theorem count_pushNode {block k : Nat} (hblock : block < t.blocks.size) (kind : NodeKind)
    (entry : String) (id : NodeId) :
    ((t.pushNode block kind entry).block k).nodes.count id
      = (t.block k).nodes.count id + if k = block ∧ id = t.nodes.size then 1 else 0 := by
  by_cases hk : k = block
  · subst hk
    rw [nodes_pushNode_self _ hblock, List.count_append, List.count_singleton]
    by_cases hid : id = t.nodes.size
    · simp [hid]
    · simp [hid, Ne.symm hid]
  · rw [nodes_pushNode_of_ne _ hk, if_neg (fun hboth => hk hboth.1), Nat.add_zero]

/-- A new block is a branch of the conditional that it was made for. -/
theorem opener_pushBlock (t : ControlTree) (opener : NodeId) (k : Nat) :
    ((t.pushBlock opener).block k).opener
      = if k = t.blocks.size then some opener else (t.block k).opener := by
  unfold ControlTree.block pushBlock
  dsimp only
  rw [Array.getElem?_push]
  by_cases h : k = t.blocks.size
  · rw [if_pos h, if_pos h]
    rfl
  · rw [if_neg h, if_neg h]

/-- A node without branches leaves the branches as they are. -/
theorem branches?_pushNode {kind : NodeKind} (h : kind.conditional? = none) (block : BlockId)
    (entry : String) (id : NodeId) :
    (t.pushNode block kind entry).branches? id = t.branches? id := by
  unfold branches?
  rw [conditional?_pushNode_eq]
  by_cases hid : id = t.nodes.size
  · rw [if_pos hid, h, conditional?_of_size_le (Nat.le_of_eq hid.symm)]
  · rw [if_neg hid]

/-- So does a conditional that goes on to its second part or is closed. -/
theorem branches?_setConditional {id : NodeId} {c : Conditional} (h : t.conditional? id = some c)
    (status : BranchStatus) (other : NodeId) :
    (t.setConditional id { c with status }).branches? other = t.branches? other := by
  unfold branches?
  by_cases ho : other = id
  · subst ho
    rw [conditional?_setConditional_self h, h]
    rfl
  · rw [conditional?_setConditional_of_ne ho]

section PushConditional

variable (t : ControlTree) (block : BlockId) (invert : Bool) (target : Option LexemeId)
  (entry : String)

/-- Both new blocks are branches of the new conditional, and the others stay with theirs. -/
theorem opener_pushConditional (k : Nat) :
    ((t.pushConditional block invert target entry).block k).opener
      = if k = t.blocks.size ∨ k = t.blocks.size + 1 then some t.nodes.size
        else (t.block k).opener := by
  unfold pushConditional
  rw [opener_pushNode, opener_pushBlock, opener_pushBlock, size_blocks_pushBlock]
  by_cases h : k = t.blocks.size + 1
  · rw [if_pos h, if_pos (Or.inr h)]
  · rw [if_neg h]
    by_cases h' : k = t.blocks.size
    · rw [if_pos h', if_pos (Or.inl h')]
    · rw [if_neg h', if_neg (by omega)]

/-- The new conditional has the two new blocks, and no other one gets a branch or loses one. -/
theorem hasBranch_pushConditional (id : NodeId) (k : Nat) :
    (t.pushConditional block invert target entry).HasBranch id k
      ↔ (id = t.nodes.size ∧ (k = t.blocks.size ∨ k = t.blocks.size + 1))
        ∨ t.HasBranch id k := by
  unfold HasBranch
  rw [conditional?_pushConditional]
  by_cases h : id = t.nodes.size
  · rw [if_pos h, conditional?_of_size_le (Nat.le_of_eq h.symm)]
    simp [h, fresh]
  · rw [if_neg h]
    simp [h]

end PushConditional

/-! ## §3. Every node stands in one block. -/

/-- Blocks list nodes of the tree, and a node is listed once in the block that it names and in
no other. -/
structure Listed (t : ControlTree) : Prop where
  inTree : ∀ (k : Nat) (id : NodeId), id ∈ (t.block k).nodes → id < t.nodes.size
  inside : ∀ (id : NodeId) (node : ControlNode), t.node? id = some node →
    node.block < t.blocks.size
  once : ∀ (id : NodeId) (node : ControlNode), t.node? id = some node →
    ∀ k : Nat, (t.block k).nodes.count id = if k = node.block then 1 else 0

namespace Listed

/-- A block that lists a node is the block that the node names. -/
theorem block_eq (h : t.Listed) {k : BlockId} {id : NodeId} {node : ControlNode}
    (hmem : id ∈ (t.block k).nodes) (hnode : t.node? id = some node) : node.block = k := by
  have hcount := h.once id node hnode k
  by_cases hk : k = node.block
  · exact hk.symm
  · rw [if_neg hk] at hcount
    exact absurd hmem (List.count_eq_zero.1 hcount)

/-- The index that a new node will get is listed nowhere yet. -/
theorem count_fresh (h : t.Listed) (k : Nat) : (t.block k).nodes.count t.nodes.size = 0 :=
  List.count_eq_zero.2 fun hmem => absurd (h.inTree k _ hmem) (Nat.lt_irrefl _)

theorem empty : ({} : ControlTree).Listed where
  inTree k id hmem := by
    have hnil : (({} : ControlTree).block k).nodes = [] := by
      cases k <;> rfl
    rw [hnil] at hmem
    exact absurd hmem (by simp)
  inside id node hnode := absurd hnode (by simp [node?])
  once id node hnode := absurd hnode (by simp [node?])

/-- A node that is added stands last in its block. -/
theorem pushNode (h : t.Listed) {block : BlockId} (hblock : block < t.blocks.size)
    (kind : NodeKind) (entry : String) : (t.pushNode block kind entry).Listed where
  inTree k id hmem := by
    rw [size_nodes_pushNode]
    by_cases hk : k = block
    · subst hk
      rw [nodes_pushNode_self _ hblock] at hmem
      rcases List.mem_append.1 hmem with hold | hnew
      · exact Nat.lt_succ_of_lt (h.inTree k id hold)
      · rw [List.mem_singleton.1 hnew]
        exact Nat.lt_succ_self _
    · rw [nodes_pushNode_of_ne _ hk] at hmem
      exact Nat.lt_succ_of_lt (h.inTree k id hmem)
  inside id node hnode := by
    rw [size_blocks_pushNode]
    rw [node?_pushNode] at hnode
    split at hnode
    · rw [← Option.some.inj hnode]
      exact hblock
    · exact h.inside id node hnode
  once id node hnode k := by
    rw [node?_pushNode] at hnode
    rw [count_pushNode hblock]
    split at hnode
    · next hid =>
        subst hid
        rw [← Option.some.inj hnode, h.count_fresh, Nat.zero_add]
        simp
    · next hid =>
        have hold : ¬ (k = block ∧ id = t.nodes.size) := fun hboth => hid hboth.2
        rw [if_neg hold, Nat.add_zero]
        exact h.once id node hnode k

/-- A new block lists nothing, so every node stands where it stood. -/
theorem pushBlock (h : t.Listed) (opener : NodeId) : (t.pushBlock opener).Listed where
  inTree k id hmem := by
    rw [block_pushBlock_nodes] at hmem
    exact h.inTree k id hmem
  inside id node hnode := by
    rw [size_blocks_pushBlock]
    exact Nat.lt_succ_of_lt (h.inside id node hnode)
  once id node hnode k := by
    rw [block_pushBlock_nodes]
    exact h.once id node hnode k

/-- A conditional is two blocks and one node, which stands in the block at hand. -/
theorem pushConditional (h : t.Listed) {block : BlockId} (hblock : block < t.blocks.size)
    (invert : Bool) (target : Option LexemeId) (entry : String) :
    (t.pushConditional block invert target entry).Listed := by
  refine ((h.pushBlock _).pushBlock _).pushNode ?_ _ entry
  rw [size_blocks_pushBlock, size_blocks_pushBlock]
  exact Nat.lt_add_right 2 hblock

/-- What becomes of a conditional does not change where its node stands. -/
theorem setConditional (h : t.Listed) (id : NodeId) (c : Conditional) :
    (t.setConditional id c).Listed := by
  have hblock : ∀ other node, (t.setConditional id c).node? other = some node →
      ∃ node', t.node? other = some node' ∧ node'.block = node.block := by
    intro other node hnode
    rw [node?_setConditional] at hnode
    split at hnode
    · next ho =>
        subst ho
        obtain ⟨node', hnode', rfl⟩ := Option.map_eq_some_iff.1 hnode
        exact ⟨node', hnode', rfl⟩
    · exact ⟨node, hnode, rfl⟩
  refine ⟨fun k other hmem => ?_, fun other node hnode => ?_, fun other node hnode k => ?_⟩
  · rw [size_nodes_setConditional]
    exact h.inTree k other hmem
  · obtain ⟨node', hnode', heq⟩ := hblock other node hnode
    rw [← heq]
    exact h.inside other node' hnode'
  · obtain ⟨node', hnode', heq⟩ := hblock other node hnode
    rw [← heq]
    exact h.once other node' hnode' k

end Listed

/-! ## §4. Every block but the root is one branch. -/

/-- Next to the root there are two blocks for each conditional, its two branches, which are
newer than the block that it stands in. -/
structure Branched (t : ControlTree) : Prop where
  size : t.blocks.size = 1 + 2 * t.conditionalCount
  root : (t.block ControlTree.root).opener = none
  distinct : ∀ (id : NodeId) (c : Conditional), t.conditional? id = some c →
    c.truePath ≠ c.falsePath
  opener : ∀ (id : NodeId) (k : Nat), t.HasBranch id k →
    k < t.blocks.size ∧ (t.block k).opener = some id
  branch : ∀ k : Nat, k ≠ ControlTree.root → k < t.blocks.size →
    ∃ id, t.HasBranch id k ∧ ∀ other, t.HasBranch other k → other = id
  newer : ∀ (id : NodeId) (node : ControlNode) (k : Nat), t.node? id = some node →
    t.HasBranch id k → node.block < k

namespace Branched

theorem empty : ({} : ControlTree).Branched := by
  have hnone : ∀ id, ({} : ControlTree).conditional? id = none := fun id =>
    conditional?_of_size_le (Nat.zero_le id)
  have hbranch : ∀ id k, ¬ ({} : ControlTree).HasBranch id k := by
    rintro id k ⟨c, hc, -⟩
    rw [hnone id] at hc
    exact absurd hc (by simp)
  refine ⟨rfl, rfl, fun id c hc => ?_, fun id k hk => absurd hk (hbranch id k), ?_,
    fun id _ k _ hk => absurd hk (hbranch id k)⟩
  · rw [hnone id] at hc
    exact absurd hc (by simp)
  · intro k hroot hk
    have hk' : k < 1 := hk
    exact absurd (Nat.lt_one_iff.1 hk') hroot

/-- Nodes that are added without branches are not counted. -/
theorem conditionalCount_congr (hnodes : t.nodes.size ≤ t'.nodes.size)
    (hbranches : ∀ id, t'.branches? id = t.branches? id) :
    t'.conditionalCount = t.conditionalCount := by
  have hsome : ∀ id, (t'.conditional? id).isSome = (t.conditional? id).isSome := by
    intro id
    rw [isSome_conditional?, hbranches, ← isSome_conditional?]
  obtain ⟨more, hmore⟩ := Nat.exists_eq_add_of_le hnodes
  have hnew : ((List.range more).map (t.nodes.size + ·)).countP
      (fun id => (t'.conditional? id).isSome) = 0 := by
    rw [List.countP_eq_zero]
    intro id hid
    obtain ⟨j, -, rfl⟩ := List.mem_map.1 hid
    rw [hsome, conditional?_of_size_le (Nat.le_add_right _ j)]
    simp
  unfold conditionalCount
  rw [hmore, List.range_add, List.countP_append, hnew, Nat.add_zero]
  exact List.countP_congr fun id _ => by rw [hsome]

/-- A tree with the same blocks and the same branches is as well branched, provided that its
conditionals stand where they stood. -/
theorem congr (h : t.Branched) (hnodes : t.nodes.size ≤ t'.nodes.size)
    (hblocks : t'.blocks.size = t.blocks.size)
    (hopener : ∀ k, (t'.block k).opener = (t.block k).opener)
    (hbranches : ∀ id, t'.branches? id = t.branches? id)
    (hnode : ∀ id node, (t.branches? id).isSome → t'.node? id = some node →
      ∃ old, t.node? id = some old ∧ old.block = node.block) : t'.Branched := by
  have hhas : ∀ id k, t'.HasBranch id k ↔ t.HasBranch id k := fun id k =>
    hasBranch_congr (hbranches id) k
  refine ⟨?_, ?_, fun id c hc => ?_, fun id k hk => ?_, fun k hroot hk => ?_,
    fun id node k hid hk => ?_⟩
  · rw [hblocks, conditionalCount_congr hnodes hbranches]
    exact h.size
  · rw [hopener]
    exact h.root
  · have hpaths := hbranches id
    unfold branches? at hpaths
    rw [hc] at hpaths
    obtain ⟨old, hold, heq⟩ := Option.map_eq_some_iff.1 hpaths.symm
    obtain ⟨htrue, hfalse⟩ := Prod.mk.inj heq
    rw [← htrue, ← hfalse]
    exact h.distinct id old hold
  · rw [hblocks, hopener]
    exact h.opener id k ((hhas id k).1 hk)
  · rw [hblocks] at hk
    obtain ⟨id, hid, hunique⟩ := h.branch k hroot hk
    exact ⟨id, (hhas id k).2 hid, fun other ho => hunique other ((hhas other k).1 ho)⟩
  · have hold := (hhas id k).1 hk
    obtain ⟨p, hp, -⟩ := (hasBranch_iff t id k).1 hold
    obtain ⟨old, hnode', heq⟩ := hnode id node (by rw [hp]; rfl) hid
    rw [← heq]
    exact h.newer id old k hnode' hold

/-- A node without branches changes neither the number of conditionals nor whose branch a block
is. -/
theorem pushNode (h : t.Branched) {kind : NodeKind} (hkind : kind.conditional? = none)
    (block : BlockId) (entry : String) : (t.pushNode block kind entry).Branched := by
  refine h.congr ?_ (size_blocks_pushNode t _ _ _) (opener_pushNode t _ _ _)
    (branches?_pushNode hkind block entry) fun id node hid hnode => ?_
  · rw [size_nodes_pushNode]
    exact Nat.le_succ _
  · -- the new node has no branches
    rw [← isSome_conditional?] at hid
    have hne : id ≠ t.nodes.size := by
      rintro rfl
      rw [conditional?_of_size_le (Nat.le_refl _)] at hid
      exact absurd hid (by simp)
    rw [node?_pushNode, if_neg hne] at hnode
    exact ⟨node, hnode, rfl⟩

/-- A conditional keeps its two blocks in every status. -/
theorem setConditional (h : t.Branched) {id : NodeId} {c : Conditional}
    (hc : t.conditional? id = some c) (status : BranchStatus) :
    (t.setConditional id { c with status }).Branched := by
  refine h.congr (Nat.le_of_eq (size_nodes_setConditional t _ _).symm) rfl (fun _ => rfl)
    (branches?_setConditional hc status) fun other node _ hnode => ?_
  rw [node?_setConditional] at hnode
  split at hnode
  · next ho =>
      subst ho
      obtain ⟨old, hold, rfl⟩ := Option.map_eq_some_iff.1 hnode
      exact ⟨old, hold, rfl⟩
  · exact ⟨node, hnode, rfl⟩

/-- The new node is counted, and the nodes before it are counted as they were. -/
theorem conditionalCount_pushConditional (t : ControlTree) (block : BlockId) (invert : Bool)
    (target : Option LexemeId) (entry : String) :
    (t.pushConditional block invert target entry).conditionalCount = t.conditionalCount + 1 := by
  unfold conditionalCount
  rw [size_nodes_pushConditional, List.range_succ, List.countP_append]
  congr 1
  · refine List.countP_congr fun id hid => ?_
    rw [conditional?_pushConditional, if_neg (Nat.ne_of_lt (List.mem_range.1 hid))]
  · rw [List.countP_singleton, conditional?_pushConditional, if_pos rfl]
    rfl

/-- A conditional that is added has the two new blocks for branches. -/
theorem pushConditional (h : t.Branched) {block : Nat} (hblock : block < t.blocks.size)
    (invert : Bool) (target : Option LexemeId) (entry : String) :
    (t.pushConditional block invert target entry).Branched where
  size := by
    rw [size_blocks_pushConditional, conditionalCount_pushConditional, h.size]
    omega
  root := by
    have hpos : 0 < t.blocks.size := Nat.lt_of_le_of_lt (Nat.zero_le _) hblock
    rw [opener_pushConditional, if_neg (by unfold ControlTree.root; omega)]
    exact h.root
  distinct id c hc := by
    rw [conditional?_pushConditional] at hc
    split at hc
    · rw [← Option.some.inj hc]
      exact Nat.ne_of_lt (Nat.lt_succ_self _)
    · exact h.distinct id c hc
  opener id k hk := by
    rw [size_blocks_pushConditional, opener_pushConditional]
    rcases (hasBranch_pushConditional t _ _ _ _ id k).1 hk with ⟨rfl, hnew⟩ | hold
    · rw [if_pos hnew]
      exact ⟨by omega, rfl⟩
    · obtain ⟨hsize, hopener⟩ := h.opener id k hold
      rw [if_neg (by omega)]
      exact ⟨by omega, hopener⟩
  branch k hroot hk := by
    rw [size_blocks_pushConditional] at hk
    -- the two new blocks belong to the new node, and the others to whom they belonged
    by_cases hnew : k < t.blocks.size
    · obtain ⟨id, hid, hunique⟩ := h.branch k hroot hnew
      refine ⟨id, (hasBranch_pushConditional t _ _ _ _ id k).2 (Or.inr hid), fun other ho => ?_⟩
      rcases (hasBranch_pushConditional t _ _ _ _ other k).1 ho with ⟨-, hk'⟩ | hold
      · omega
      · exact hunique other hold
    · have hpaths : k = t.blocks.size ∨ k = t.blocks.size + 1 := by omega
      refine ⟨t.nodes.size, (hasBranch_pushConditional t _ _ _ _ _ k).2 (Or.inl ⟨rfl, hpaths⟩),
        fun other ho => ?_⟩
      rcases (hasBranch_pushConditional t _ _ _ _ other k).1 ho with ⟨hother, -⟩ | hold
      · exact hother
      · exact absurd (h.opener other k hold).1 hnew
  newer id node k hnode hk := by
    rw [node?_pushConditional] at hnode
    rcases (hasBranch_pushConditional t _ _ _ _ id k).1 hk with ⟨rfl, hnew⟩ | hold
    · rw [if_pos rfl] at hnode
      rw [← Option.some.inj hnode]
      show block < k
      omega
    · have hlt : id < t.nodes.size := by
        obtain ⟨c, hc, -⟩ := hold
        exact lt_of_conditional? hc
      rw [if_neg (Nat.ne_of_lt hlt)] at hnode
      exact h.newer id node k hnode hold

end Branched

/-! ## §5. Where the cursor rests. -/

/-- With these conditionals open, innermost first, the cursor rests here: in the root if none
is open, otherwise in the active branch of the innermost one, which stands where the cursor
would rest if it were not open. -/
inductive Rests (t : ControlTree) : List NodeId → BlockId → Prop
  | root : Rests t [] ControlTree.root
  | branch {id : NodeId} {outer : List NodeId} {node : ControlNode} {c : Conditional}
      (found : t.node? id = some node) (kind : node.kind = .conditional c)
      (around : Rests t outer node.block) : Rests t (id :: outer) c.activePath

/-- Where the cursor rests depends on the nodes of the conditionals that are open, and on no other
ones. -/
theorem Rests.congr {opened : List NodeId} {cursor : BlockId} (h : t.Rests opened cursor)
    (hn : ∀ id ∈ opened, t'.node? id = t.node? id) : t'.Rests opened cursor := by
  induction h with
  | root => exact .root
  | @branch id outer node c hnode hkind _ ih =>
      refine .branch (Eq.trans (hn id List.mem_cons_self) hnode) hkind (ih fun other ho => ?_)
      exact hn other (List.mem_cons_of_mem _ ho)

/-- What becomes of another conditional does not move the cursor. -/
theorem Rests.setConditional {opened : List NodeId} {cursor : BlockId}
    (h : t.Rests opened cursor) {id : NodeId} (hid : id ∉ opened) (c : Conditional) :
    (t.setConditional id c).Rests opened cursor := by
  refine h.congr fun other ho => ?_
  rw [node?_setConditional, if_neg]
  rintro rfl
  exact hid ho

end ControlTree

/-! ## §6. Well-formed builders. -/

namespace TreeBuilder

/-- The parts of a builder agree, and none of its faults is one that only a builder whose parts
do not agree would note. -/
structure WellFormed (b : TreeBuilder) : Prop where
  listed : b.tree.Listed
  branched : b.tree.Branched
  nodup : b.opened.Nodup
  opened : ∀ id : NodeId,
    id ∈ b.opened ↔ ∃ c, b.tree.conditional? id = some c ∧ c.status ≠ .closed
  rests : b.tree.Rests b.opened b.cursor
  faults : ∀ fault ∈ b.faults, fault.cause.kind ≠ .internalParserError

/-- What one step can make of a builder. -/
inductive Next (b : TreeBuilder) : TreeBuilder → Prop
  /-- A comment. -/
  | stay : Next b b
  /-- What does not fit is noted, and nothing else happens. -/
  | refuse {cause : Cause} {entry : String} (expected : cause.kind ≠ .internalParserError) :
      Next b (b.note cause entry)
  /-- A node without branches is added at the cursor. -/
  | leaf {kind : NodeKind} {entry : String} (plain : kind.conditional? = none) :
      Next b { b with tree := b.tree.pushNode b.cursor kind entry }
  /-- A conditional is added at the cursor, which moves to its first part. -/
  | enter {invert : Bool} {target : Option LexemeId} {entry : String} :
      Next b { b with
        tree := b.tree.pushConditional b.cursor invert target entry
        cursor := (b.tree.fresh invert target).firstPath
        opened := b.tree.nodes.size :: b.opened }
  /-- The cursor moves from the first part of the innermost conditional to the second. -/
  | turn {id : NodeId} {outer : List NodeId} {node : ControlNode} {c : Conditional}
      (top : b.opened = id :: outer) (found : b.tree.node? id = some node)
      (kind : node.kind = .conditional c) (status : c.status = .first) :
      Next b { b with
        tree := b.tree.setConditional id { c with status := .second }
        cursor := c.secondPath }
  /-- The innermost conditional is closed, and the cursor moves to the block around it. -/
  | leave {id : NodeId} {outer : List NodeId} {node : ControlNode} {c : Conditional}
      (top : b.opened = id :: outer) (found : b.tree.node? id = some node)
      (kind : node.kind = .conditional c) (status : c.status ≠ .closed) :
      Next b { b with
        tree := b.tree.setConditional id { c with status := .closed }
        cursor := node.block
        opened := outer }

namespace WellFormed

variable {b b' : TreeBuilder}

theorem empty : WellFormed {} where
  listed := ControlTree.Listed.empty
  branched := ControlTree.Branched.empty
  nodup := List.nodup_nil
  opened id := by
    have hnone := ControlTree.conditional?_of_size_le (t := {}) (Nat.zero_le id)
    simp [hnone]
  rests := .root
  faults := by simp

/-- The cursor stands in the tree: in the root, or in the active branch of an open conditional,
which is one of its blocks. -/
theorem placed (h : b.WellFormed) : b.Placed := by
  show b.cursor < b.tree.blocks.size
  obtain ⟨tree, cursor, opened, faults⟩ := b
  cases h.rests with
  | root =>
      have hsize : tree.blocks.size = 1 + 2 * tree.conditionalCount := h.branched.size
      show 0 < tree.blocks.size
      omega
  | @branch id outer node c hnode hkind _ =>
      have hc := ControlTree.conditional?_of_node? hnode hkind
      exact (h.branched.opener id _ (ControlTree.hasBranch_activePath hc)).1

/-- Conditionals that are open are nodes of the tree. -/
theorem lt_size (h : b.WellFormed) {id : NodeId} (hid : id ∈ b.opened) :
    id < b.tree.nodes.size := by
  obtain ⟨c, hc, -⟩ := (h.opened id).1 hid
  exact ControlTree.lt_of_conditional? hc

/-- The innermost open conditional is one, it is not closed, and it collects at the cursor. -/
theorem innermost (h : b.WellFormed) {id : NodeId} {outer : List NodeId}
    (top : b.opened = id :: outer) :
    ∃ node c, b.tree.node? id = some node ∧ node.kind = .conditional c ∧ c.status ≠ .closed
      ∧ b.cursor = c.activePath ∧ id ∉ outer ∧ b.tree.Rests outer node.block := by
  have hrests := h.rests
  have hnodup := h.nodup
  rw [top] at hrests hnodup
  obtain ⟨c', hc', hstatus⟩ := (h.opened id).1 (by rw [top]; exact List.mem_cons_self)
  generalize b.cursor = cursor at hrests
  cases hrests with
  | @branch _ _ node c hnode hkind around =>
      have hc := ControlTree.conditional?_of_node? hnode hkind
      obtain rfl : c = c' := Option.some.inj (hc.symm.trans hc')
      exact ⟨node, c, hnode, hkind, hstatus, rfl, (List.nodup_cons.1 hnodup).1, around⟩

/-- An `else` turns the innermost conditional around or is refused; the fault of a builder whose
parts do not agree is not among the outcomes. -/
theorem next_switchBranch (h : b.WellFormed) (entry : String) :
    b.Next (b.switchBranch entry) := by
  unfold switchBranch
  cases hopened : b.opened with
  | nil => exact .refuse (by simp [Cause.kind])
  | cons id outer =>
      obtain ⟨node, c, hnode, hkind, hstatus, -, -, -⟩ := h.innermost hopened
      dsimp only
      rw [ControlTree.conditional?_of_node? hnode hkind]
      dsimp only
      -- a second `else` is refused; a closed conditional is not open
      cases hs : c.status with
      | first =>
          have hnext := Next.turn hopened hnode hkind hs
          rw [hopened] at hnext
          exact hnext
      | second => exact .refuse (by simp [Cause.kind])
      | closed => exact absurd hs hstatus

/-- An `end` leaves the innermost conditional or is refused, and is no fault of the builder
either. -/
theorem next_closeConditional (h : b.WellFormed) (entry : String) :
    b.Next (b.closeConditional entry) := by
  unfold closeConditional
  cases hopened : b.opened with
  | nil => exact .refuse (by simp [Cause.kind])
  | cons id outer =>
      obtain ⟨node, c, hnode, hkind, hstatus, -, -, -⟩ := h.innermost hopened
      dsimp only
      rw [ControlTree.conditional?_of_node? hnode hkind, hnode]
      dsimp only
      cases hs : c.status with
      | first => exact .leave hopened hnode hkind hstatus
      | second => exact .leave hopened hnode hkind hstatus
      | closed => exact absurd hs hstatus

/-- **What one step can make of a well-formed builder.** -/
theorem next_addStep (h : b.WellFormed) (step : ControlStep) : b.Next (b.addStep step) := by
  cases step with
  | text id => exact .leaf rfl
  | directive d entry =>
      cases hop : d.operator with
      | insert =>
          rw [addStep_insert hop]
          exact .leaf rfl
      | comment =>
          rw [addStep_comment hop]
          exact .stay
      | ifTrue =>
          rw [@addStep_opening d false hop]
          exact .enter
      | ifFalse =>
          rw [@addStep_opening d true hop]
          exact .enter
      | otherwise =>
          rw [addStep_otherwise hop]
          exact h.next_switchBranch entry
      | endBlock =>
          rw [addStep_endBlock hop]
          exact h.next_closeConditional entry

/-! ## §7. What every outcome keeps. -/

/-- A fault that is noted is no part of the tree, and it is one that sources may have. -/
theorem refuse (h : b.WellFormed) {cause : Cause} (expected : cause.kind ≠ .internalParserError)
    (entry : String) : (b.note cause entry).WellFormed where
  listed := h.listed
  branched := h.branched
  nodup := h.nodup
  opened := h.opened
  rests := h.rests
  faults fault hfault := by
    rcases List.mem_append.1 hfault with hold | hnew
    · exact h.faults fault hold
    · rw [List.mem_singleton.1 hnew]
      exact expected

/-- Which conditionals are open does not change by a node that is none. -/
theorem leaf (h : b.WellFormed) {kind : NodeKind} (plain : kind.conditional? = none)
    (entry : String) :
    WellFormed { b with tree := b.tree.pushNode b.cursor kind entry } where
  listed := h.listed.pushNode h.placed kind entry
  branched := h.branched.pushNode plain b.cursor entry
  nodup := h.nodup
  opened id := by
    rw [ControlTree.conditional?_pushNode_eq]
    by_cases hid : id = b.tree.nodes.size
    · rw [if_pos hid, plain]
      refine ⟨fun hmem => ?_, fun ⟨c, hc, _⟩ => absurd hc (by simp)⟩
      exact absurd hid (Nat.ne_of_lt (h.lt_size hmem))
    · rw [if_neg hid]
      exact h.opened id
  rests := by
    refine h.rests.congr fun id hid => ?_
    rw [ControlTree.node?_pushNode, if_neg (Nat.ne_of_lt (h.lt_size hid))]
  faults := h.faults

/-- The new conditional is open and has collected nothing, and the cursor stands in the branch that
comes first. -/
theorem enter (h : b.WellFormed) (invert : Bool) (target : Option LexemeId) (entry : String) :
    WellFormed { b with
      tree := b.tree.pushConditional b.cursor invert target entry
      cursor := (b.tree.fresh invert target).firstPath
      opened := b.tree.nodes.size :: b.opened } where
  listed := h.listed.pushConditional h.placed invert target entry
  branched := h.branched.pushConditional h.placed invert target entry
  nodup := List.nodup_cons.2 ⟨fun hmem => absurd (h.lt_size hmem) (Nat.lt_irrefl _), h.nodup⟩
  opened id := by
    rw [List.mem_cons, ControlTree.conditional?_pushConditional]
    by_cases hid : id = b.tree.nodes.size
    · rw [if_pos hid]
      exact ⟨fun _ => ⟨_, rfl, by simp [ControlTree.fresh]⟩, fun _ => Or.inl hid⟩
    · rw [if_neg hid, ← h.opened id]
      exact or_iff_right hid
  rests := by
    have hold : (b.tree.pushConditional b.cursor invert target entry).Rests b.opened b.cursor := by
      refine h.rests.congr fun id hid => ?_
      rw [ControlTree.node?_pushConditional, if_neg (Nat.ne_of_lt (h.lt_size hid))]
    have hnew := b.tree.node?_pushConditional b.cursor invert target entry b.tree.nodes.size
    rw [if_pos rfl] at hnew
    exact .branch hnew rfl hold
  faults := h.faults

/-- The innermost conditional goes on or is closed: which of the others are open stays. -/
theorem opened_setConditional (h : b.WellFormed) {id : NodeId} {c : Conditional}
    (hc : b.tree.conditional? id = some c) (status : BranchStatus) (other : NodeId) :
    (∃ c', (b.tree.setConditional id { c with status }).conditional? other = some c'
        ∧ c'.status ≠ .closed)
      ↔ if other = id then status ≠ .closed else other ∈ b.opened := by
  by_cases ho : other = id
  · subst ho
    rw [if_pos rfl, ControlTree.conditional?_setConditional_self hc]
    simp
  · rw [if_neg ho, ControlTree.conditional?_setConditional_of_ne ho, h.opened other]

/-- The conditional stays open, now with its second branch active; what stands around it does not
move. -/
theorem turn (h : b.WellFormed) {id : NodeId} {outer : List NodeId} {node : ControlNode}
    {c : Conditional} (top : b.opened = id :: outer) (hnode : b.tree.node? id = some node)
    (hkind : node.kind = .conditional c) :
    WellFormed { b with
      tree := b.tree.setConditional id { c with status := .second }
      cursor := c.secondPath } where
  listed := h.listed.setConditional id _
  branched := h.branched.setConditional (ControlTree.conditional?_of_node? hnode hkind) _
  nodup := h.nodup
  opened other := by
    have hc := ControlTree.conditional?_of_node? hnode hkind
    rw [h.opened_setConditional hc .second other]
    by_cases ho : other = id
    · subst ho
      simp [top]
    · rw [if_neg ho]
  rests := by
    obtain ⟨node', c', hnode', -, -, -, hfresh, around⟩ := h.innermost top
    obtain rfl : node = node' := Option.some.inj (hnode.symm.trans hnode')
    show (b.tree.setConditional id _).Rests b.opened _
    rw [top]
    have hturned := b.tree.node?_setConditional id { c with status := .second } id
    rw [if_pos rfl, hnode, Option.map_some] at hturned
    exact .branch hturned rfl (around.setConditional hfresh _)
  faults := h.faults

/-- The conditional is closed, so it is no longer among the open ones, and the cursor is back in the
block of its node. -/
theorem leave (h : b.WellFormed) {id : NodeId} {outer : List NodeId} {node : ControlNode}
    {c : Conditional} (top : b.opened = id :: outer) (hnode : b.tree.node? id = some node)
    (hkind : node.kind = .conditional c) :
    WellFormed { b with
      tree := b.tree.setConditional id { c with status := .closed }
      cursor := node.block
      opened := outer } := by
  have hc := ControlTree.conditional?_of_node? hnode hkind
  obtain ⟨node', c', hnode', -, -, -, hfresh, around⟩ := h.innermost top
  obtain rfl : node = node' := Option.some.inj (hnode.symm.trans hnode')
  have hnodup := h.nodup
  rw [top] at hnodup
  refine ⟨h.listed.setConditional id _, h.branched.setConditional hc _,
    (List.nodup_cons.1 hnodup).2, fun other => ?_, around.setConditional hfresh _, h.faults⟩
  rw [h.opened_setConditional hc .closed other, top]
  by_cases ho : other = id
  · subst ho
    simp [hfresh]
  · simp [ho]

/-- **Each outcome of a step keeps a builder well formed.** -/
theorem next (h : b.WellFormed) (hnext : b.Next b') : b'.WellFormed := by
  cases hnext with
  | stay => exact h
  | refuse expected => exact h.refuse expected _
  | leaf plain => exact h.leaf plain _
  | enter => exact h.enter _ _ _
  | turn top hnode hkind status => exact h.turn top hnode hkind
  | leave top hnode hkind status => exact h.leave top hnode hkind

/-- **What every outcome keeps, every sequence of steps keeps.** -/
theorem foldl_addStep {P : TreeBuilder → Prop}
    (keeps : ∀ b b' : TreeBuilder, b.WellFormed → b.Next b' → P b → P b')
    (steps : List ControlStep) :
    ∀ b : TreeBuilder, b.WellFormed → P b →
      (steps.foldl addStep b).WellFormed ∧ P (steps.foldl addStep b) := by
  induction steps with
  | nil => exact fun b h hp => ⟨h, hp⟩
  | cons step steps ih =>
      intro b h hp
      have hnext := h.next_addStep step
      exact ih _ (h.next hnext) (keeps _ _ h hnext hp)

/-- **No fault says that the parts of the builder do not agree**, neither while steps are taken
nor at the end. -/
theorem allFaults_expected (h : b.WellFormed) :
    ∀ fault ∈ b.allFaults, fault.cause.kind ≠ .internalParserError := by
  intro fault hfault
  unfold allFaults at hfault
  split at hfault
  · exact h.faults fault hfault
  · rcases List.mem_append.1 hfault with hold | hnew
    · exact h.faults fault hold
    · rw [List.mem_singleton.1 hnew]
      simp [Cause.kind]

end WellFormed

end TreeBuilder

end LayerTemplates
