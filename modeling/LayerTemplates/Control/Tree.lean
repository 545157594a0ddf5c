/-
  LayerTemplates.Control.Tree
  ───────────────────────────
  The control tree of a layer: nodes in blocks, where a conditional node has one block
  for each branch.

  Nodes and blocks are named by their index.  `ControlTree.items` unfolds the tree
  into nested items, in which a conditional carries its two branches; whatever walks
  the tree from the root walks those items.
-/
import LayerTemplates.Lexeme.Arena

namespace LayerTemplates

/-! ## §1. Nodes and blocks. -/

/-- A node is named by its index in the tree. -/
abbrev NodeId := Nat

/-- A block is named by its index in the tree; the root is block 0. -/
abbrev BlockId := Nat

/-- Which part of a conditional is being collected. -/
inductive BranchStatus where
  /-- The part before `else`. -/
  | first
  /-- The part after `else`. -/
  | second
  | closed
  deriving Repr, DecidableEq, Inhabited

/-- A conditional with its two branches. -/
structure Conditional where
  /-- Whether the first part belongs to the false branch. -/
  invert : Bool
  target : Option LexemeId
  truePath : BlockId
  falsePath : BlockId
  status : BranchStatus := .first
  deriving Repr, DecidableEq, Inhabited

/-- The branch that receives nodes; of a closed conditional the false one. -/
def Conditional.activePath (c : Conditional) : BlockId :=
  match c.status, c.invert with
  | .first, false | .second, true => c.truePath
  | _, _ => c.falsePath

/-- What a node is. -/
inductive NodeKind where
  | text (id : LexemeId)
  | insert (target : Option LexemeId)
  | conditional (conditional : Conditional)
  deriving Repr, DecidableEq, Inhabited

/-- A node of the tree. -/
structure ControlNode where
  kind : NodeKind
  /-- The block that holds the node. -/
  block : BlockId
  /-- Source text of the placeholder; empty for literal text. -/
  entry : String := ""
  deriving Repr, DecidableEq, Inhabited

/-- A block of nodes. -/
structure ControlBlock where
  nodes : List NodeId := []
  /-- The conditional that the block is a branch of; none for the root. -/
  opener : Option NodeId := none
  deriving Repr, DecidableEq, Inhabited

/-- The nodes and blocks of a layer. -/
structure ControlTree where
  nodes : Array ControlNode := #[]
  blocks : Array ControlBlock := #[{}]
  deriving Repr, DecidableEq, Inhabited

namespace ControlTree

/-- The block at the root. -/
def root : BlockId := 0

/-- The node with an index, if there is one. -/
def node? (t : ControlTree) (id : NodeId) : Option ControlNode := t.nodes[id]?

/-- The block with an index; an index outside the tree has an empty block. -/
def block (t : ControlTree) (id : BlockId) : ControlBlock := t.blocks[id]?.getD {}

/-- Source text of the placeholder of a node. -/
def entry (t : ControlTree) (id : NodeId) : String := ((t.node? id).map ControlNode.entry).getD ""

/-- The conditional at a node, if the node is one. -/
def conditional? (t : ControlTree) (id : NodeId) : Option Conditional :=
  match (t.node? id).map ControlNode.kind with
  | some (.conditional conditional) => some conditional
  | _ => none

/-! ## §2. Growing. -/

/-- Adds a node at the end of a block. -/
def pushNode (t : ControlTree) (block : BlockId) (kind : NodeKind) (entry : String) :
    ControlTree :=
  { nodes := t.nodes.push { kind, block, entry }
    blocks := t.blocks.modify block fun b => { b with nodes := b.nodes ++ [t.nodes.size] } }

/-- Adds an empty branch of the conditional at a node. -/
def pushBlock (t : ControlTree) (opener : NodeId) : ControlTree :=
  { t with blocks := t.blocks.push { opener := some opener } }

/-- Replaces the conditional at a node. -/
def setConditional (t : ControlTree) (id : NodeId) (c : Conditional) : ControlTree :=
  { t with nodes := t.nodes.modify id fun node => { node with kind := .conditional c } }

end ControlTree

/-! ## §3. Items. -/

/-- A node together with everything below it. -/
inductive Item where
  | text (id : LexemeId)
  | insert (target : Option LexemeId)
  | conditional (invert : Bool) (target : Option LexemeId) (onTrue onFalse : List Item)
  deriving Repr, Inhabited

namespace ControlTree

/-- The items of a block whose conditionals nest less than `depth` deep. -/
def itemsWithin (t : ControlTree) : Nat → BlockId → List Item
  | 0, _ => []
  | depth + 1, block =>
      (t.block block).nodes.filterMap fun id =>
        (t.node? id).map fun node =>
          match node.kind with
          | .text lexeme => .text lexeme
          | .insert target => .insert target
          | .conditional c =>
              .conditional c.invert c.target (t.itemsWithin depth c.truePath)
                (t.itemsWithin depth c.falsePath)

/-- The items at the root.  Every conditional has two blocks of its own, so there are
more blocks than levels. -/
def items (t : ControlTree) : List Item := t.itemsWithin t.blocks.size root

end ControlTree

end LayerTemplates
