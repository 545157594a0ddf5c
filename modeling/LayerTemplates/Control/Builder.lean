/-
  LayerTemplates.Control.Builder
  ──────────────────────────────
  Building the control tree of a layer from its texts and directives in source order.

  The builder keeps the conditionals that are open and the block that the next node
  goes to.  A directive that does not fit is noted and the builder goes on; whatever
  it is fed, the tree stays well formed.
-/
import LayerTemplates.Control.Tree
import LayerTemplates.Directive
import LayerTemplates.Fault

namespace LayerTemplates

/-- A control tree that is being built. -/
structure TreeBuilder where
  tree : ControlTree := {}
  /-- The block that the next node goes to. -/
  cursor : BlockId := ControlTree.root
  /-- The conditionals that are open, innermost first. -/
  opened : List NodeId := []
  faults : List Fault := []
  deriving Repr, DecidableEq, Inhabited

namespace TreeBuilder

/-- Notes a directive that does not fit. -/
def note (b : TreeBuilder) (cause : Cause) (entry : String) : TreeBuilder :=
  { b with faults := b.faults ++ [{ cause, placeholder := some entry }] }

/-- Adds a stretch of literal text. -/
def addText (b : TreeBuilder) (text : LexemeId) : TreeBuilder :=
  { b with tree := b.tree.pushNode b.cursor (.text text) "" }

/-- Adds a conditional and goes on in its first part. -/
def openConditional (b : TreeBuilder) (invert : Bool) (target : Option LexemeId)
    (entry : String) : TreeBuilder :=
  let node := b.tree.nodes.size
  let truePath := b.tree.blocks.size
  let conditional : Conditional := { invert, target, truePath, falsePath := truePath + 1 }
  let branched := (b.tree.pushBlock node).pushBlock node
  { b with
    tree := branched.pushNode b.cursor (.conditional conditional) entry
    cursor := conditional.activePath
    opened := node :: b.opened }

/-- Goes on in the second part of the innermost conditional. -/
def switchBranch (b : TreeBuilder) (entry : String) : TreeBuilder :=
  match b.opened with
  | [] => b.note (.orphan entry) entry
  | node :: _ =>
      let opener := b.tree.entry node
      match b.tree.conditional? node with
      | none => b.note (.lostConditional (some opener)) entry
      | some conditional =>
          match conditional.status with
          | .first =>
              let switched := { conditional with status := .second }
              { b with tree := b.tree.setConditional node switched, cursor := switched.activePath }
          | .second => b.note (.secondElse opener) entry
          | .closed => b.note (.lostConditional (some opener)) entry

/-- Closes the innermost conditional and goes on in the block around it. -/
def closeConditional (b : TreeBuilder) (entry : String) : TreeBuilder :=
  match b.opened with
  | [] => b.note (.orphan entry) entry
  | node :: outer =>
      let cursor := ((b.tree.node? node).map ControlNode.block).getD ControlTree.root
      let left := { b with cursor, opened := outer }
      match b.tree.conditional? node with
      | none => left.note (.lostConditional none) entry
      | some conditional =>
          match conditional.status with
          | .first | .second =>
              let closed := { conditional with status := .closed }
              { left with tree := b.tree.setConditional node closed }
          | .closed => left.note (.lostConditional none) entry

/-- Adds what the placeholder `entry` tells the renderer to do. -/
def addDirective (b : TreeBuilder) (directive : Directive) (entry : String) : TreeBuilder :=
  match directive.operator with
  | .insert => { b with tree := b.tree.pushNode b.cursor (.insert directive.target) entry }
  | .ifTrue => b.openConditional false directive.target entry
  | .ifFalse => b.openConditional true directive.target entry
  | .otherwise => b.switchBranch entry
  | .endBlock => b.closeConditional entry
  | .comment => b

/-- The faults found, together with one for the conditionals that are still open. -/
def allFaults (b : TreeBuilder) : List Fault :=
  if b.opened.isEmpty then b.faults
  else
    b.faults ++ [{ cause := .openConditionals (b.opened.map b.tree.entry).reverse }]

end TreeBuilder

end LayerTemplates
