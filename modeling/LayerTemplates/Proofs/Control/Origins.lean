/-
  LayerTemplates.Proofs.Control.Origins
  ─────────────────────────────────────
  What the nodes of a control tree were made from.

  The builder makes a node of every stretch of text and of every directive that inserts
  something or opens a conditional, in the order in which they come, and of nothing else.  What
  happens to a conditional later on, its `else` and its `end`, changes neither what its node was
  made from nor any other node; and neither does a directive that does not fit.

  Main statements:
    * `TreeBuilder.origins_addStep` — one step adds at most one node.
    * `TreeBuilder.origins_foldl_addStep` — the nodes of a tree in the order of their indices.
-/
import LayerTemplates.Proofs.Control.Faults

namespace LayerTemplates

/-! ## §1. Origins. -/

/-- What a node was made from. -/
inductive NodeOrigin where
  /-- A stretch of literal text. -/
  | text (id : LexemeId)
  /-- A placeholder, with its operator and its target. -/
  | placeholder (operator : Operator) (target : Option LexemeId) (entry : String)
  deriving Repr, DecidableEq, Inhabited

/-- What a node says that it was made from. -/
def ControlNode.origin (node : ControlNode) : NodeOrigin :=
  match node.kind with
  | .text id => .text id
  | .insert target => .placeholder .insert target node.entry
  | .conditional c => .placeholder (.opening c.invert) c.target node.entry

/-- The nodes of a tree by what they were made from, in the order of their indices. -/
def ControlTree.origins (t : ControlTree) : List NodeOrigin :=
  t.nodes.toList.map ControlNode.origin

/-- The node that a step is to be made into, if there is to be one. -/
def ControlStep.origin? : ControlStep → Option NodeOrigin
  | .text id => some (.text id)
  | .directive d entry =>
      match d.operator with
      | .insert | .ifTrue | .ifFalse => some (.placeholder d.operator d.target entry)
      | .otherwise | .endBlock | .comment => none

namespace ControlTree

variable (t : ControlTree)

/-- A node that is added was made last. -/
theorem origins_pushNode (block : BlockId) (kind : NodeKind) (entry : String) :
    (t.pushNode block kind entry).origins
      = t.origins ++ [ControlNode.origin { kind, block, entry }] := by
  simp [origins, pushNode]

@[simp] theorem origins_pushBlock (opener : NodeId) : (t.pushBlock opener).origins = t.origins :=
  rfl

variable {t}

/-- A conditional whose part is collected or that is closed was made from the same placeholder. -/
theorem origins_setConditional {id : NodeId} {c c' : Conditional}
    (h : t.conditional? id = some c) (hinvert : c'.invert = c.invert)
    (htarget : c'.target = c.target) : (t.setConditional id c').origins = t.origins := by
  unfold origins setConditional
  apply List.ext_getElem?
  intro j
  rw [List.getElem?_map, List.getElem?_map, Array.getElem?_toList, Array.getElem?_toList,
    Array.getElem?_modify]
  -- only the node of the conditional is written, with what it was made from
  by_cases hj : id = j
  · subst hj
    unfold conditional? node? at h
    cases hnode : t.nodes[id]? with
    | none => rw [if_pos rfl, Option.map_none]
    | some node =>
        obtain ⟨kind, block, entry⟩ := node
        rw [hnode] at h
        cases kind with
        | text lexeme => exact absurd h (by simp)
        | insert target => exact absurd h (by simp)
        | conditional other =>
            obtain rfl : other = c := by simpa using h
            simp [ControlNode.origin, hinvert, htarget]
  · rw [if_neg hj]

end ControlTree

/-! ## §2. Steps. -/

namespace TreeBuilder

variable (b : TreeBuilder)

/-- A conditional is one node, made from the placeholder that opens it; its blocks were made from
nothing. -/
theorem origins_openConditional (invert : Bool) (target : Option LexemeId) (entry : String) :
    (b.openConditional invert target entry).tree.origins
      = b.tree.origins ++ [.placeholder (.opening invert) target entry] := by
  show (((b.tree.pushBlock _).pushBlock _).pushNode _ _ _).origins = _
  rw [ControlTree.origins_pushNode, ControlTree.origins_pushBlock, ControlTree.origins_pushBlock]
  rfl

/-- An `else` makes no node, be it right or not. -/
theorem origins_switchBranch (entry : String) :
    (b.switchBranch entry).tree.origins = b.tree.origins := by
  unfold switchBranch
  -- an `else` that fits nothing is a fault and leaves the tree alone
  split
  · rfl
  · split
    · rfl
    · next found =>
        split
        · exact ControlTree.origins_setConditional found rfl rfl
        · rfl
        · rfl

/-- Neither does an `end`. -/
theorem origins_closeConditional (entry : String) :
    (b.closeConditional entry).tree.origins = b.tree.origins := by
  unfold closeConditional
  split
  · rfl
  · dsimp only
    split
    · rfl
    · next found =>
        split
        · exact ControlTree.origins_setConditional found rfl rfl
        · exact ControlTree.origins_setConditional found rfl rfl
        · rfl

/-- **One step adds the node that it is to be made into**, if there is to be one. -/
theorem origins_addStep (step : ControlStep) :
    (b.addStep step).tree.origins = b.tree.origins ++ step.origin?.toList := by
  cases step with
  | text id => exact b.tree.origins_pushNode _ _ _
  | directive d entry =>
      unfold ControlStep.origin?
      dsimp only
      cases hop : d.operator with
      | insert =>
          rw [addStep_insert hop]
          exact b.tree.origins_pushNode _ _ _
      | comment =>
          rw [addStep_comment hop]
          exact (List.append_nil _).symm
      | ifTrue =>
          rw [@addStep_opening d false hop]
          exact b.origins_openConditional _ _ _
      | ifFalse =>
          rw [@addStep_opening d true hop]
          exact b.origins_openConditional _ _ _
      | otherwise =>
          rw [addStep_otherwise hop, origins_switchBranch]
          exact (List.append_nil _).symm
      | endBlock =>
          rw [addStep_endBlock hop, origins_closeConditional]
          exact (List.append_nil _).symm

/-- **The nodes of a tree are what the steps are to be made into**, in their order, whether the
steps fit or not. -/
theorem origins_foldl_addStep (steps : List ControlStep) :
    ∀ b : TreeBuilder, (steps.foldl addStep b).tree.origins
      = b.tree.origins ++ steps.filterMap ControlStep.origin? := by
  -- on the steps, for every builder: what was built before stays in front
  induction steps with
  | nil => exact fun b => (List.append_nil _).symm
  | cons step steps ih =>
      intro b
      rw [List.foldl_cons, ih, origins_addStep, List.append_assoc, List.filterMap_cons]
      cases step.origin? <;> rfl

end TreeBuilder

end LayerTemplates
