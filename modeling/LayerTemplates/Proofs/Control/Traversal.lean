/-
  LayerTemplates.Proofs.Control.Traversal
  ───────────────────────────────────────
  The way through a control tree from its root.

  The way through a block goes from node to node, and at a conditional through the part before
  its `else` and then the part after it.  Nodes and blocks are both made as they are met on that
  way, so the nodes below a conditional are the next ones after it and their blocks the next
  ones after its own.  While conditionals are open the way ends at the cursor: what has been met
  before it, what lies there, and nothing behind.

  Main statements:
    * `ControlTree.Trail.visits` — the way to the cursor, continued there, is the way through
      the root.
    * `TreeBuilder.Traced.next` — a step adds at most one node, and adds it at the end.
    * `TreeBuilder.wellFormed_foldl_addStep` — after any steps the builder is well formed, and
      the way through its tree ends and meets the nodes in the order in which they were made.
-/
import LayerTemplates.Proofs.Control.WellFormed
import Mathlib.Data.List.Basic

namespace LayerTemplates

namespace ControlTree

/-! ## §1. Going down. -/

/-- One block holds a conditional that the other is a branch of. -/
def Below (t : ControlTree) (inner outer : BlockId) : Prop :=
  ∃ id, id ∈ (t.block outer).nodes ∧ t.HasBranch id inner

/-- The nodes met at a node, given those met in a block: the node itself, and for a conditional
the part before `else` and then the part after it. -/
def visitNode (t : ControlTree) (visit : BlockId → List NodeId) (id : NodeId) : List NodeId :=
  match t.conditional? id with
  | none => [id]
  | some c =>
      if c.invert then id :: (visit c.falsePath ++ visit c.truePath)
      else id :: (visit c.truePath ++ visit c.falsePath)

/-- The nodes met on the way through a block whose conditionals nest less than `depth` deep. -/
def visitWithin (t : ControlTree) : Nat → BlockId → List NodeId
  | 0, _ => []
  | depth + 1, block => (t.block block).nodes.flatMap (t.visitNode (t.visitWithin depth))

variable {t t' : ControlTree}

/-- A branch is newer than the block that holds its conditional, and it is in the tree. -/
theorem below_lt (hl : t.Listed) (hb : t.Branched) {inner outer : Nat}
    (h : t.Below inner outer) : outer < inner ∧ inner < t.blocks.size := by
  obtain ⟨id, hmem, hbranch⟩ := h
  obtain ⟨node, hnode⟩ : ∃ node, t.node? id = some node := by
    obtain ⟨c, hc, -⟩ := hbranch
    obtain ⟨node, hnode, -⟩ := exists_node_of_conditional? hc
    exact ⟨node, hnode⟩
  have hblock : node.block = outer := hl.block_eq hmem hnode
  rw [← hblock]
  exact ⟨hb.newer id node inner hnode hbranch, (hb.opener id inner hbranch).1⟩

/-- Going from a block to a branch of a conditional in it ends after finitely many times. -/
theorem below_wellFounded (hl : t.Listed) (hb : t.Branched) : WellFounded t.Below := by
  refine Subrelation.wf (fun {inner outer} h => ?_)
    (measure fun k : Nat => t.blocks.size - k).wf
  obtain ⟨hlt, hsize⟩ := below_lt hl hb h
  show t.blocks.size - inner < t.blocks.size - outer
  omega

theorem itemsWithin_of_size_le {k : Nat} (hk : t.blocks.size ≤ k) (depth : Nat) :
    t.itemsWithin depth k = [] := by
  cases depth with
  | zero => rfl
  | succ depth =>
      unfold itemsWithin
      rw [nodes_of_size_le t hk]
      rfl

/-- The bound on the depth of nesting does not matter where it allows for every newer block. -/
theorem itemsWithin_eq (hl : t.Listed) (hb : t.Branched) :
    ∀ (depth depth' k : Nat), t.blocks.size ≤ k + depth → t.blocks.size ≤ k + depth' →
      t.itemsWithin depth k = t.itemsWithin depth' k := by
  intro depth
  -- on the depth: a branch is newer than the block, so there are fewer blocks left for it
  induction depth with
  | zero =>
      intro depth' k hk _
      rw [Nat.add_zero] at hk
      rw [itemsWithin_of_size_le hk, itemsWithin_of_size_le hk]
  | succ depth ih =>
      intro depth' k hk hk'
      cases depth' with
      | zero =>
          rw [Nat.add_zero] at hk'
          rw [itemsWithin_of_size_le hk', itemsWithin_of_size_le hk']
      | succ depth' =>
          unfold itemsWithin
          refine List.filterMap_congr fun id hid => ?_
          cases hnode : t.node? id with
          | none => rfl
          | some node =>
              obtain ⟨kind, block, entry⟩ := node
              cases kind with
              | text lexeme => rfl
              | insert target => rfl
              | conditional c =>
                  have hc : t.conditional? id = some c := conditional?_of_node? hnode rfl
                  have htrue := (below_lt hl hb ⟨id, hid, c, hc, Or.inl rfl⟩).1
                  have hfalse := (below_lt hl hb ⟨id, hid, c, hc, Or.inr rfl⟩).1
                  dsimp only [Option.map_some]
                  rw [ih depth' c.truePath (by omega) (by omega),
                    ih depth' c.falsePath (by omega) (by omega)]

/-! ## §2. Ways. -/

/-- The way along the nodes `ids` meets `met`, and the branches of the conditionals on it are
just the blocks from `low` up to `high`, in the order in which they are come to. -/
inductive Visits (t : ControlTree) : Nat → Nat → List NodeId → List NodeId → Prop
  | nil {low : Nat} : Visits t low low [] []
  | leaf {low high : Nat} {id : NodeId} {kind : NodeKind} {ids met : List NodeId}
      (found : t.shape? id = some kind) (plain : kind.conditional? = none)
      (rest : Visits t low high ids met) : Visits t low high (id :: ids) (id :: met)
  | conditional {low middle next high : Nat} {id : NodeId} {c : Conditional}
      {ids onFirst onSecond met : List NodeId}
      (found : t.shape? id = some (.conditional c))
      (paths : c.truePath = low ∧ c.falsePath = low + 1)
      (first : Visits t (low + 2) middle (t.block c.firstPath).nodes onFirst)
      (second : Visits t middle next (t.block c.secondPath).nodes onSecond)
      (rest : Visits t next high ids met) :
      Visits t low high (id :: ids) (id :: (onFirst ++ onSecond) ++ met)

/-- The two parts of a conditional are its two branches. -/
theorem paths_eq {c : Conditional} {low : Nat} (h : c.truePath = low ∧ c.falsePath = low + 1) :
    (c.firstPath = low ∧ c.secondPath = low + 1)
      ∨ (c.firstPath = low + 1 ∧ c.secondPath = low) := by
  obtain ⟨invert, target, truePath, falsePath, status⟩ := c
  cases invert with
  | false => exact Or.inl h
  | true => exact Or.inr h.symm

theorem Visits.le {low high : Nat} {ids met : List NodeId} (h : t.Visits low high ids met) :
    low ≤ high := by
  induction h with
  | nil => exact Nat.le_refl _
  | leaf _ _ _ ih => exact ih
  | conditional _ _ _ _ _ ih₁ ih₂ ih₃ => omega

theorem Visits.append {low middle high : Nat} {ids more met later : List NodeId}
    (h : t.Visits low middle ids met) (h' : t.Visits middle high more later) :
    t.Visits low high (ids ++ more) (met ++ later) := by
  induction h with
  | nil => exact h'
  | leaf found plain _ ih => exact .leaf found plain (ih h')
  | conditional found paths first second _ _ _ ih =>
      have hrest := Visits.conditional found paths first second (ih h')
      rw [← List.append_assoc] at hrest
      exact hrest

/-- A tree that grows is gone through as before, as long as the blocks on the way are left as
they were. -/
theorem Visits.frame {low high : Nat} {ids met : List NodeId} (h : t.Visits low high ids met)
    (hn : ∀ id kind, t.shape? id = some kind → t'.shape? id = some kind)
    (hb : ∀ k : Nat, low ≤ k → k < high → (t'.block k).nodes = (t.block k).nodes) :
    t'.Visits low high ids met := by
  induction h with
  | nil => exact .nil
  | leaf found plain _ ih => exact .leaf (hn _ _ found) plain (ih hb)
  | @conditional low middle next high id c ids onFirst onSecond met found paths first second rest
      ih₁ ih₂ ih₃ =>
      have hle₁ := first.le
      have hle₂ := second.le
      have hle₃ := rest.le
      have hpaths := paths_eq paths
      have hfirst := ih₁ fun k hk hk' => hb k (by omega) (by omega)
      have hsecond := ih₂ fun k hk hk' => hb k (by omega) (by omega)
      rw [← hb c.firstPath (by omega) (by omega)] at hfirst
      rw [← hb c.secondPath (by omega) (by omega)] at hsecond
      exact .conditional (hn _ _ found) paths hfirst hsecond (ih₃ fun k hk => hb k (by omega))

/-- What a node is, as far as it does not depend on how much of it has been collected. -/
theorem conditional?_of_shape? {id : NodeId} {kind : NodeKind} (h : t.shape? id = some kind) :
    (t.conditional? id).map (fun c => { c with status := .closed }) = kind.conditional? := by
  unfold shape? at h
  obtain ⟨node, hnode, rfl⟩ := Option.map_eq_some_iff.1 h
  rw [conditional?_eq_bind, hnode]
  obtain ⟨kind, block, entry⟩ := node
  cases kind <;> rfl

/-- **A way is what going down meets**, where the bound on the depth allows for its blocks. -/
theorem Visits.flatMap_visitNode {low high : Nat} {ids met : List NodeId}
    (h : t.Visits low high ids met) :
    ∀ depth : Nat, high ≤ low + depth → ids.flatMap (t.visitNode (t.visitWithin depth)) = met := by
  induction h with
  | nil => exact fun _ _ => rfl
  | @leaf low high id kind ids met found plain rest ih =>
      intro depth hdepth
      have hnone : t.conditional? id = none := by
        have hmap := conditional?_of_shape? found
        rw [plain] at hmap
        exact Option.map_eq_none_iff.1 hmap
      rw [List.flatMap_cons, ih depth hdepth]
      unfold visitNode
      rw [hnone]
      rfl
  | @conditional low middle next high id c ids onFirst onSecond met found paths first second rest
      ih₁ ih₂ ih₃ =>
      intro depth hdepth
      have hle₁ := first.le
      have hle₂ := second.le
      have hle₃ := rest.le
      obtain ⟨c', hc', rfl⟩ := Option.map_eq_some_iff.1 (conditional?_of_shape? found)
      -- the two branches are blocks on the way, so there is depth left for what is in them
      obtain ⟨depth, rfl⟩ : ∃ less, depth = less + 1 := ⟨depth - 1, by omega⟩
      have hfirst := ih₁ depth (by omega)
      have hsecond := ih₂ depth (by omega)
      rw [List.flatMap_cons, ih₃ (depth + 1) (by omega)]
      congr 1
      rw [← hfirst, ← hsecond]
      unfold visitNode
      rw [hc']
      obtain ⟨invert, target, truePath, falsePath, status⟩ := c'
      cases invert <;> rfl

/-! ## §3. The way to the cursor. -/

/-- The way from the root meets `before` up to the cursor, past the blocks below `low`.  In each
open conditional the way goes through the part before `else`, with nothing in the other part
yet, or is through with it; and nothing stands behind the conditional in its block. -/
inductive Trail (t : ControlTree) : Nat → List NodeId → BlockId → List NodeId → Prop
  | root : Trail t 1 [] ControlTree.root []
  | first {low middle : Nat} {outer : List NodeId} {around : BlockId} {id : NodeId}
      {c : Conditional} {before ids met : List NodeId}
      (trail : Trail t low outer around before)
      (listed : (t.block around).nodes = ids ++ [id]) (passed : Visits t low middle ids met)
      (found : t.shape? id = some (.conditional c))
      (paths : c.truePath = middle ∧ c.falsePath = middle + 1)
      (later : (t.block c.secondPath).nodes = []) :
      Trail t (middle + 2) (id :: outer) c.firstPath (before ++ met ++ [id])
  | second {low middle high : Nat} {outer : List NodeId} {around : BlockId} {id : NodeId}
      {c : Conditional} {before ids met onFirst : List NodeId}
      (trail : Trail t low outer around before)
      (listed : (t.block around).nodes = ids ++ [id]) (passed : Visits t low middle ids met)
      (found : t.shape? id = some (.conditional c))
      (paths : c.truePath = middle ∧ c.falsePath = middle + 1)
      (earlier : Visits t (middle + 2) high (t.block c.firstPath).nodes onFirst) :
      Trail t high (id :: outer) c.secondPath (before ++ met ++ [id] ++ onFirst)

namespace Trail

theorem cursor_lt {low : Nat} {opened : List NodeId} {cursor : Nat} {before : List NodeId}
    (h : t.Trail low opened cursor before) : cursor < low := by
  cases h with
  | root => exact Nat.zero_lt_one
  | first _ _ _ _ paths _ =>
      have := paths_eq paths
      omega
  | second _ _ _ _ paths earlier =>
      have := paths_eq paths
      have := earlier.le
      omega

/-- Adding at the cursor, or in blocks not come to yet, leaves the way to the cursor as it is. -/
theorem frame {low : Nat} {opened : List NodeId} {cursor : Nat} {before : List NodeId}
    (h : t.Trail low opened cursor before)
    (hn : ∀ id kind, t.shape? id = some kind → t'.shape? id = some kind)
    (hb : ∀ k : Nat, k < low → k ≠ cursor → (t'.block k).nodes = (t.block k).nodes) :
    t'.Trail low opened cursor before := by
  induction h with
  | root => exact .root
  | @first low middle outer around id c before ids met trail listed passed found paths later ih =>
      have hlt := trail.cursor_lt
      have hle := passed.le
      have hpaths := paths_eq paths
      refine .first (ih fun k hk _ => hb k (by omega) (by omega)) ?_
        (passed.frame hn fun k _ hk => hb k (by omega) (by omega)) (hn _ _ found) paths ?_
      · rw [hb around (by omega) (by omega)]
        exact listed
      · rw [hb c.secondPath (by omega) (by omega)]
        exact later
  | @second low middle high outer around id c before ids met onFirst trail listed passed found
      paths earlier ih =>
      have hlt := trail.cursor_lt
      have hle := passed.le
      have hle' := earlier.le
      have hpaths := paths_eq paths
      refine .second (ih fun k hk _ => hb k (by omega) (by omega)) ?_
        (passed.frame hn fun k _ hk => hb k (by omega) (by omega)) (hn _ _ found) paths ?_
      · rw [hb around (by omega) (by omega)]
        exact listed
      · rw [hb c.firstPath (by omega) (by omega)]
        exact earlier.frame hn fun k hk hk' => hb k (by omega) (by omega)

/-- The way goes on behind the innermost conditional: what has been met inside it has then been
met in the block around it. -/
theorem around {low high : Nat} {id : NodeId} {outer : List NodeId} {cursor : BlockId}
    {before met : List NodeId} (h : t.Trail low (id :: outer) cursor before)
    (hmet : t.Visits low high (t.block cursor).nodes met) :
    ∃ (low' : Nat) (around : BlockId) (before' met' : List NodeId),
      t.Trail low' outer around before' ∧ id ∈ (t.block around).nodes
        ∧ t.Visits low' high (t.block around).nodes met' ∧ before' ++ met' = before ++ met := by
  cases h with
  | @first low middle _ around _ c before ids passed trail listed hpassed found paths later =>
      have hempty : t.Visits high high (t.block c.secondPath).nodes [] := by
        rw [later]
        exact .nil
      have hpast := hpassed.append (.conditional found paths hmet hempty .nil)
      rw [← listed] at hpast
      exact ⟨low, around, before, _, trail, by simp [listed], hpast, by simp⟩
  | @second low middle _ _ around _ c before ids passed onFirst trail listed hpassed found paths
      earlier =>
      have hpast := hpassed.append (.conditional found paths earlier hmet .nil)
      rw [← listed] at hpast
      exact ⟨low, around, before, _, trail, by simp [listed], hpast, by simp⟩

/-- From the first part of the innermost conditional the way goes on in the second part, where
nothing is yet. -/
theorem turn {low high : Nat} {id : NodeId} {outer : List NodeId} {cursor : Nat}
    {before met : List NodeId} {c : Conditional} (h : t.Trail low (id :: outer) cursor before)
    (hcursor : cursor = c.firstPath) (found : t.shape? id = some (.conditional c))
    (hmet : t.Visits low high (t.block cursor).nodes met) :
    t.Trail high (id :: outer) c.secondPath (before ++ met)
      ∧ (t.block c.secondPath).nodes = [] := by
  cases h with
  | @first low middle _ around _ c' before ids passed trail listed hpassed found' paths later =>
      obtain rfl : c = c' := NodeKind.conditional.inj (Option.some.inj (found.symm.trans found'))
      exact ⟨.second trail listed hpassed found paths hmet, later⟩
  | @second low middle _ _ around _ c' before ids passed onFirst trail listed hpassed found'
      paths earlier =>
      -- the cursor is in the first part, and the two parts are different blocks
      obtain rfl : c = c' := NodeKind.conditional.inj (Option.some.inj (found.symm.trans found'))
      have hpaths := paths_eq paths
      omega

/-- **The way to the cursor, continued there, is the way through the root.** -/
theorem visits {opened : List NodeId} :
    ∀ {low high : Nat} {cursor : BlockId} {before met : List NodeId},
      t.Trail low opened cursor before → t.Visits low high (t.block cursor).nodes met →
        t.Visits 1 high (t.block ControlTree.root).nodes (before ++ met) := by
  -- from the innermost open conditional outwards
  induction opened with
  | nil =>
      intro low high cursor before met h hmet
      cases h with
      | root => exact hmet
  | cons id outer ih =>
      intro low high cursor before met h hmet
      obtain ⟨low', around, before', met', htrail, -, hmet', heq⟩ := h.around hmet
      rw [← heq]
      exact ih htrail hmet'

end Trail

/-! ## §4. Trees that grow. -/

theorem shape?_pushNode (t : ControlTree) (block : BlockId) (kind : NodeKind) (entry : String) :
    ∀ id other, t.shape? id = some other → (t.pushNode block kind entry).shape? id = some other :=
  shape?_of_node? fun id hid => by rw [node?_pushNode, if_neg (Nat.ne_of_lt hid)]

theorem shape?_pushNode_self (t : ControlTree) {kind : NodeKind}
    (plain : kind.conditional? = none) (block : BlockId) (entry : String) :
    (t.pushNode block kind entry).shape? t.nodes.size = some kind := by
  unfold shape?
  rw [node?_pushNode, if_pos rfl]
  cases kind with
  | text lexeme => rfl
  | insert target => rfl
  | conditional c => exact absurd plain (by simp [NodeKind.conditional?])

theorem shape?_pushConditional (t : ControlTree) (block : BlockId) (invert : Bool)
    (target : Option LexemeId) (entry : String) :
    ∀ id other, t.shape? id = some other →
      (t.pushConditional block invert target entry).shape? id = some other :=
  shape?_of_node? fun id hid => by rw [node?_pushConditional, if_neg (Nat.ne_of_lt hid)]

theorem shape?_pushConditional_self (t : ControlTree) (block : BlockId) (invert : Bool)
    (target : Option LexemeId) (entry : String) :
    (t.pushConditional block invert target entry).shape? t.nodes.size
      = some (.conditional { t.fresh invert target with status := .closed }) := by
  unfold shape?
  rw [node?_pushConditional, if_pos rfl]
  rfl

section SetConditional

variable {id : NodeId} {node : ControlNode} {c : Conditional} (found : t.node? id = some node)
  (kind : node.kind = .conditional c) (status : BranchStatus)

include found kind

/-- How much of a conditional has been collected does not change the way. -/
theorem Visits.setConditional {low high : Nat} {ids met : List NodeId}
    (h : t.Visits low high ids met) :
    (t.setConditional id { c with status }).Visits low high ids met :=
  h.frame (fun other _ ho => by rw [shape?_setConditional found kind status other]; exact ho)
    fun _ _ _ => rfl

theorem Trail.setConditional {low : Nat} {opened : List NodeId} {cursor : BlockId}
    {before : List NodeId} (h : t.Trail low opened cursor before) :
    (t.setConditional id { c with status }).Trail low opened cursor before :=
  h.frame (fun other _ ho => by rw [shape?_setConditional found kind status other]; exact ho)
    fun _ _ _ => rfl

end SetConditional

end ControlTree

/-! ## §5. Building along the way. -/

namespace TreeBuilder

/-- The way through the tree ends at the cursor, and meets the nodes in the order in which they
were made; its branches are all the blocks that were made. -/
def Traced (b : TreeBuilder) : Prop :=
  ∃ low before met, b.tree.Trail low b.opened b.cursor before
    ∧ b.tree.Visits low b.tree.blocks.size (b.tree.block b.cursor).nodes met
    ∧ before ++ met = List.range b.tree.nodes.size

namespace Traced

variable {b b' : TreeBuilder}

theorem empty : Traced {} := ⟨1, [], [], .root, .nil, rfl⟩

/-- A node without branches is met last. -/
theorem leaf (h : b.Traced) (hplaced : b.Placed) {kind : NodeKind}
    (plain : kind.conditional? = none) (entry : String) :
    Traced { b with tree := b.tree.pushNode b.cursor kind entry } := by
  obtain ⟨low, before, met, htrail, hmet, hall⟩ := h
  have hlt := htrail.cursor_lt
  have hgrows := b.tree.shape?_pushNode b.cursor kind entry
  have hnew := b.tree.shape?_pushNode_self plain b.cursor entry
  refine ⟨low, before, met ++ [b.tree.nodes.size], htrail.frame hgrows fun k _ hk => ?_, ?_, ?_⟩
  · exact ControlTree.nodes_pushNode_of_ne _ hk _ _
  · show (b.tree.pushNode b.cursor kind entry).Visits low
      (b.tree.pushNode b.cursor kind entry).blocks.size _ _
    rw [ControlTree.nodes_pushNode_self _ hplaced, ControlTree.size_blocks_pushNode]
    refine (hmet.frame hgrows fun k hk _ => ?_).append (.leaf hnew plain .nil)
    exact ControlTree.nodes_pushNode_of_ne _ (Nat.ne_of_gt (Nat.lt_of_lt_of_le hlt hk)) _ _
  · rw [← List.append_assoc, hall, ControlTree.size_nodes_pushNode, List.range_succ]

/-- A conditional is met last, and the way goes on in its first part, where nothing is yet. -/
theorem enter (h : b.Traced) (hplaced : b.Placed) (invert : Bool) (target : Option LexemeId)
    (entry : String) :
    Traced { b with
      tree := b.tree.pushConditional b.cursor invert target entry
      cursor := (b.tree.fresh invert target).firstPath
      opened := b.tree.nodes.size :: b.opened } := by
  obtain ⟨low, before, met, htrail, hmet, hall⟩ := h
  have hlt := htrail.cursor_lt
  have hgrows := b.tree.shape?_pushConditional b.cursor invert target entry
  have hsame : ∀ k : Nat, k ≠ b.cursor →
      ((b.tree.pushConditional b.cursor invert target entry).block k).nodes
        = (b.tree.block k).nodes := fun k hk =>
    ControlTree.nodes_pushConditional_of_ne _ _ _ _ hk
  have hempty : ∀ k : Nat, b.tree.blocks.size ≤ k →
      ((b.tree.pushConditional b.cursor invert target entry).block k).nodes = [] := fun k hk =>
    ControlTree.nodes_pushConditional_of_le _ _ _ _ hplaced hk
  have hnew := b.tree.shape?_pushConditional_self b.cursor invert target entry
  have hpaths : b.tree.blocks.size ≤ (b.tree.fresh invert target).firstPath
      ∧ b.tree.blocks.size ≤ (b.tree.fresh invert target).secondPath := by
    cases invert with
    | false => exact ⟨Nat.le_refl _, Nat.le_succ _⟩
    | true => exact ⟨Nat.le_succ _, Nat.le_refl _⟩
  -- what was passed so far is older than the two new blocks, and both of them are empty
  have hpassed := hmet.frame hgrows fun k hk _ => hsame k (Nat.ne_of_gt (Nat.lt_of_lt_of_le hlt hk))
  refine ⟨b.tree.blocks.size + 2, before ++ met ++ [b.tree.nodes.size], [], ?_, ?_, ?_⟩
  · exact .first (c := { b.tree.fresh invert target with status := .closed })
      (htrail.frame hgrows fun k _ hk => hsame k hk)
      (ControlTree.nodes_pushConditional_self _ _ _ _ hplaced) hpassed hnew ⟨rfl, rfl⟩
      (hempty (b.tree.fresh invert target).secondPath hpaths.2)
  · show (b.tree.pushConditional b.cursor invert target entry).Visits _
      (b.tree.pushConditional b.cursor invert target entry).blocks.size _ _
    rw [hempty (b.tree.fresh invert target).firstPath hpaths.1,
      ControlTree.size_blocks_pushConditional]
    exact .nil
  · rw [List.append_nil, hall, ControlTree.size_nodes_pushConditional, List.range_succ]

/-- From the first part of a conditional the way goes on in the second. -/
theorem turn (h : b.Traced) (hb : b.WellFormed) {id : NodeId} {outer : List NodeId}
    {node : ControlNode} {c : Conditional} (top : b.opened = id :: outer)
    (found : b.tree.node? id = some node) (kind : node.kind = .conditional c)
    (status : c.status = .first) :
    Traced { b with
      tree := b.tree.setConditional id { c with status := .second }
      cursor := c.secondPath } := by
  obtain ⟨low, before, met, htrail, hmet, hall⟩ := h
  -- the first part ends at the cursor, and nothing was added to the second one
  have hcursor : b.cursor = c.firstPath := by
    obtain ⟨node', c', found', kind', -, hactive, -, -⟩ := hb.innermost top
    obtain rfl : node = node' := Option.some.inj (found.symm.trans found')
    obtain rfl : c = c' := NodeKind.conditional.inj (kind.symm.trans kind')
    rw [hactive]
    unfold Conditional.firstPath
    rw [← status]
  have hshape : b.tree.shape? id = some (.conditional { c with status := .closed }) := by
    unfold ControlTree.shape?
    rw [found, Option.map_some, kind]
  rw [top] at htrail
  obtain ⟨htrail', hempty⟩ := htrail.turn (c := { c with status := .closed }) hcursor hshape
    hmet
  refine ⟨b.tree.blocks.size, before ++ met, [], ?_, ?_, ?_⟩
  · show (b.tree.setConditional id _).Trail _ b.opened _ _
    rw [top]
    exact htrail'.setConditional found kind _
  · have hnil : (b.tree.block c.secondPath).nodes = [] := hempty
    show (b.tree.setConditional id _).Visits _ b.tree.blocks.size
      (b.tree.block c.secondPath).nodes _
    rw [hnil]
    exact .nil
  · rw [List.append_nil, hall, ControlTree.size_nodes_setConditional]

/-- The way goes on behind a conditional that is closed. -/
theorem leave (h : b.Traced) (hb : b.WellFormed) {id : NodeId} {outer : List NodeId}
    {node : ControlNode} {c : Conditional} (top : b.opened = id :: outer)
    (found : b.tree.node? id = some node) (kind : node.kind = .conditional c) :
    Traced { b with
      tree := b.tree.setConditional id { c with status := .closed }
      cursor := node.block
      opened := outer } := by
  obtain ⟨low, before, met, htrail, hmet, hall⟩ := h
  rw [top] at htrail
  obtain ⟨low', around, before', met', htrail', hmem, hmet', heq⟩ := htrail.around hmet
  obtain rfl : node.block = around := hb.listed.block_eq hmem found
  refine ⟨low', before', met', htrail'.setConditional found kind _,
    hmet'.setConditional found kind _, ?_⟩
  rw [heq, hall, ControlTree.size_nodes_setConditional]

/-- **A step adds at most one node, and adds it at the end of the way.** -/
theorem next (h : b.Traced) (hb : b.WellFormed) (hnext : b.Next b') : b'.Traced := by
  cases hnext with
  | stay => exact h
  | refuse expected => exact h
  | leaf plain => exact h.leaf hb.placed plain _
  | enter => exact h.enter hb.placed _ _ _
  | turn top found kind status => exact h.turn hb top found kind status
  | leave top found kind status => exact h.leave hb top found kind

/-- The way through the root is the whole tree. -/
theorem visitWithin (h : b.Traced) {depth : Nat} (hdepth : b.tree.blocks.size ≤ depth) :
    b.tree.visitWithin depth ControlTree.root = List.range b.tree.nodes.size := by
  obtain ⟨low, before, met, htrail, hmet, hall⟩ := h
  have hvisits := htrail.visits hmet
  have hpos := hvisits.le
  obtain ⟨less, rfl⟩ : ∃ less, depth = less + 1 := ⟨depth - 1, by omega⟩
  rw [← hall]
  exact hvisits.flatMap_visitNode less (by omega)

end Traced

/-- **Whatever the builder is fed, it is well formed, its faults are all about what it was fed,
and the way down its tree ends and meets every node once, in the order in which the nodes were
made.** -/
theorem wellFormed_foldl_addStep (steps : List ControlStep) :
    let b := steps.foldl addStep {}
    b.WellFormed
      ∧ (∀ fault ∈ b.allFaults, fault.cause.kind ≠ .internalParserError)
      ∧ WellFounded b.tree.Below
      ∧ (∀ depth, b.tree.blocks.size ≤ depth →
          b.tree.itemsWithin depth ControlTree.root = b.tree.items)
      ∧ ∀ depth, b.tree.blocks.size ≤ depth →
          b.tree.visitWithin depth ControlTree.root = List.range b.tree.nodes.size := by
  intro b
  obtain ⟨hb, htraced⟩ : b.WellFormed ∧ b.Traced :=
    WellFormed.foldl_addStep (fun _ _ h hnext htraced => htraced.next h hnext) steps {}
      WellFormed.empty Traced.empty
  refine ⟨hb, hb.allFaults_expected, ControlTree.below_wellFounded hb.listed hb.branched,
    fun depth hdepth => ?_, fun depth hdepth => htraced.visitWithin hdepth⟩
  exact ControlTree.itemsWithin_eq hb.listed hb.branched depth _ _
    (Nat.le_trans hdepth (Nat.le_add_left _ _)) (Nat.le_add_left _ _)

/-- An `unless` with an `else` and no `end`, after an `else` that fits nowhere: the false branch
comes first. -/
example :
    let steps : List ControlStep :=
      [.directive { operator := .otherwise, explicit := true, parts := 1, target := none } "",
        .directive { operator := .ifFalse, explicit := true, parts := 2, target := some 0 } "",
        .text 1,
        .directive { operator := .otherwise, explicit := true, parts := 1, target := none } "",
        .text 2]
    let b := steps.foldl addStep {}
    b.tree.blocks.toList.map ControlBlock.nodes = [[0], [2], [1]] ∧ b.cursor = 1
      ∧ b.tree.visitWithin 3 ControlTree.root = [0, 1, 2] := by
  decide

end TreeBuilder

end LayerTemplates
