/-
  LayerTemplates.Proofs.Control.Faults
  ────────────────────────────────────
  Steps in which the builder finds no fault.

  The builder keeps the nodes of the open conditionals, and whether an `else` was met
  stands in the tree.  Read together the two are the stack of the machine that `Closes`
  describes, so what the builder lets pass the machine accepts.

  Main statement:
    * `TreeBuilder.nested_of_allFaults` — steps without faults are well nested.
-/
import LayerTemplates.Proofs.Control.Building

namespace LayerTemplates

/-! ## §1. Conditionals of a tree. -/

/-- The conditional that a node of this kind is, if it is one. -/
def NodeKind.conditional? : NodeKind → Option Conditional
  | .conditional c => some c
  | .text _ | .insert _ => none

namespace ControlTree

variable {t : ControlTree}

/-- Whether there is a conditional at an index is said by the node there, if there is one. -/
theorem conditional?_eq_bind (t : ControlTree) (id : NodeId) :
    t.conditional? id = (t.node? id).bind fun node => node.kind.conditional? := by
  unfold conditional?
  cases t.node? id with
  | none => rfl
  | some node =>
      obtain ⟨kind, block, entry⟩ := node
      cases kind <;> rfl

/-- A conditional is a node of its tree. -/
theorem lt_of_conditional? {id : NodeId} {c : Conditional} (h : t.conditional? id = some c) :
    id < t.nodes.size := by
  unfold conditional? node? at h
  by_cases hid : id < t.nodes.size
  · exact hid
  · rw [Array.getElem?_eq_none (Nat.le_of_not_lt hid)] at h
    exact absurd h (by simp)

/-- A new node is a conditional if it is made as one, and the others stay what they are. -/
theorem conditional?_pushNode_eq (t : ControlTree) (block : BlockId) (kind : NodeKind)
    (entry : String) (id : NodeId) :
    (t.pushNode block kind entry).conditional? id
      = if id = t.nodes.size then kind.conditional? else t.conditional? id := by
  rw [conditional?_eq_bind, conditional?_eq_bind, node?_pushNode]
  by_cases h : id = t.nodes.size
  · rw [if_pos h, if_pos h]
    rfl
  · rw [if_neg h, if_neg h]

theorem conditional?_pushNode {id : NodeId} {c : Conditional} (h : t.conditional? id = some c)
    (block : BlockId) (kind : NodeKind) (entry : String) :
    (t.pushNode block kind entry).conditional? id = some c := by
  rw [conditional?_pushNode_eq, if_neg (Nat.ne_of_lt (lt_of_conditional? h))]
  exact h

/-- A new conditional is found at the index that its node gets. -/
theorem conditional?_pushConditional (t : ControlTree) (block : BlockId) (invert : Bool)
    (target : Option LexemeId) (entry : String) (id : NodeId) :
    (t.pushConditional block invert target entry).conditional? id
      = if id = t.nodes.size then some (t.fresh invert target) else t.conditional? id := by
  unfold pushConditional
  rw [conditional?_pushNode_eq]
  rfl

theorem conditional?_setConditional_of_ne {id other : NodeId} (h : other ≠ id)
    (c : Conditional) : (t.setConditional id c).conditional? other = t.conditional? other := by
  unfold conditional?
  rw [node?_setConditional, if_neg h]

/-- A conditional that is there becomes the one that it is set to. -/
theorem conditional?_setConditional_self {id : NodeId} {c : Conditional}
    (h : t.conditional? id = some c) (c' : Conditional) :
    (t.setConditional id c').conditional? id = some c' := by
  unfold conditional? at h ⊢
  rw [node?_setConditional, if_pos rfl]
  cases hn : t.node? id with
  | none =>
      rw [hn] at h
      exact absurd h (by simp)
  | some node => rfl

end ControlTree

/-! ## §2. Faults stay. -/

namespace TreeBuilder

/-- What is noted comes behind the faults that are there. -/
theorem note_faults {b b' : TreeBuilder} (h : b'.faults = b.faults) (cause : Cause)
    (entry : String) : b.faults <+: (b'.note cause entry).faults := by
  rw [← h]
  exact List.prefix_append _ _

/-- An `else` notes a fault at most, and takes none back. -/
theorem faults_switchBranch (b : TreeBuilder) (entry : String) :
    b.faults <+: (b.switchBranch entry).faults := by
  unfold switchBranch
  split
  · exact note_faults rfl _ _
  · split
    · exact note_faults rfl _ _
    · split
      · exact List.prefix_refl _
      · exact note_faults rfl _ _
      · exact note_faults rfl _ _

/-- An `end` takes no fault back either. -/
theorem faults_closeConditional (b : TreeBuilder) (entry : String) :
    b.faults <+: (b.closeConditional entry).faults := by
  unfold closeConditional
  split
  · exact note_faults rfl _ _
  · dsimp only
    split
    · exact note_faults rfl _ _
    · split
      · exact List.prefix_refl _
      · exact List.prefix_refl _
      · exact note_faults rfl _ _

/-- A step only adds to the faults. -/
theorem faults_addStep (b : TreeBuilder) (step : ControlStep) :
    b.faults <+: (b.addStep step).faults := by
  cases step with
  | text id => exact List.prefix_refl _
  | directive d entry =>
      show b.faults <+: (b.addDirective d entry).faults
      unfold addDirective
      split
      · exact List.prefix_refl _
      · exact List.prefix_refl _
      · exact List.prefix_refl _
      · exact faults_switchBranch b entry
      · exact faults_closeConditional b entry
      · exact List.prefix_refl _

/-- By induction on the steps: each of them adds behind what is there. -/
theorem faults_foldl_addStep (steps : List ControlStep) :
    ∀ b : TreeBuilder, b.faults <+: (steps.foldl addStep b).faults := by
  induction steps with
  | nil => intro b; exact List.prefix_refl _
  | cons step steps ih =>
      intro b
      exact (faults_addStep b step).trans (ih _)

/-- Without faults in the end, none was noted on the way and no conditional is left open. -/
theorem faults_of_allFaults {b : TreeBuilder} (h : b.allFaults = []) :
    b.faults = [] ∧ b.opened = [] := by
  unfold allFaults at h
  split at h
  · next ho => exact ⟨h, List.isEmpty_iff.1 ho⟩
  · exact absurd h (by simp)

/-- A builder that has noted a fault never forgets it. -/
theorem allFaults_ne_nil {b : TreeBuilder} {cause : Cause} {entry : String}
    (steps : List ControlStep) : (steps.foldl addStep (b.note cause entry)).allFaults ≠ [] := by
  intro hall
  have := faults_foldl_addStep steps (b.note cause entry)
  rw [(faults_of_allFaults hall).1] at this
  have hnil : b.faults ++ [{ cause, placeholder := some entry }] = [] := List.prefix_nil.1 this
  exact absurd hnil (by simp)

/-! ## §3. What the builder keeps of open conditionals. -/

/-- The conditionals that are open, innermost first, with whether their `else` has been met.
The builder keeps only nodes of its tree open, and each once. -/
inductive Tracks (t : ControlTree) : List NodeId → List Bool → Prop
  | nil : Tracks t [] []
  | cons {node : NodeId} {outer : List NodeId} {c : Conditional} {flag : Bool} {flags : List Bool}
      (found : t.conditional? node = some c)
      (status : c.status = if flag then .second else .first) (fresh : node ∉ outer)
      (rest : Tracks t outer flags) : Tracks t (node :: outer) (flag :: flags)

/-- What is known of the open conditionals stays true in a tree that has the same ones. -/
theorem Tracks.congr {t t' : ControlTree} {nodes : List NodeId} {flags : List Bool}
    (h : Tracks t nodes flags)
    (hn : ∀ node ∈ nodes, ∀ c, t.conditional? node = some c → t'.conditional? node = some c) :
    Tracks t' nodes flags := by
  induction h with
  | nil => exact .nil
  | cons found status fresh _ ih =>
      refine .cons (hn _ List.mem_cons_self _ found) status fresh (ih fun node hnode => ?_)
      exact hn node (List.mem_cons_of_mem _ hnode)

/-- The conditionals that are tracked are nodes of the tree. -/
theorem Tracks.lt_size {t : ControlTree} {nodes : List NodeId} {flags : List Bool}
    (h : Tracks t nodes flags) : ∀ node ∈ nodes, node < t.nodes.size := by
  induction h with
  | nil => intro node hnode; exact absurd hnode (by simp)
  | cons found _ _ _ ih =>
      intro node hnode
      rcases List.mem_cons.1 hnode with rfl | hnode
      · exact ControlTree.lt_of_conditional? found
      · exact ih node hnode

/-- A new node leaves the conditionals that are tracked as they are. -/
theorem Tracks.pushNode {t : ControlTree} {nodes : List NodeId} {flags : List Bool}
    (h : Tracks t nodes flags) (block : BlockId) (kind : NodeKind) (entry : String) :
    Tracks (t.pushNode block kind entry) nodes flags :=
  h.congr fun _ _ _ hc => ControlTree.conditional?_pushNode hc block kind entry

/-- A conditional that is not among the open ones may change. -/
theorem Tracks.setConditional {t : ControlTree} {nodes : List NodeId} {flags : List Bool}
    (h : Tracks t nodes flags) {id : NodeId} (hid : id ∉ nodes) (c : Conditional) :
    Tracks (t.setConditional id c) nodes flags := by
  refine h.congr fun node hnode c' hc => ?_
  rw [ControlTree.conditional?_setConditional_of_ne _ c]
  · exact hc
  · rintro rfl
    exact hid hnode

/-- The new conditional is the innermost one, and its `else` has not been met. -/
theorem Tracks.openConditional {b : TreeBuilder} {flags : List Bool}
    (h : Tracks b.tree b.opened flags) (invert : Bool) (target : Option LexemeId)
    (entry : String) :
    Tracks (b.openConditional invert target entry).tree
      (b.openConditional invert target entry).opened (false :: flags) := by
  -- the node of the conditional is not in the tree yet, and what is open is
  have hfresh : b.tree.nodes.size ∉ b.opened := fun hmem =>
    absurd (h.lt_size _ hmem) (Nat.lt_irrefl _)
  have hnew := b.tree.conditional?_pushConditional b.cursor invert target entry b.tree.nodes.size
  rw [if_pos rfl] at hnew
  refine .cons hnew rfl hfresh (h.congr fun node hnode c hc => ?_)
  show (b.tree.pushConditional b.cursor invert target entry).conditional? node = some c
  rw [ControlTree.conditional?_pushConditional, if_neg (Nat.ne_of_lt (h.lt_size node hnode))]
  exact hc

/-- An `else` is met, unless there is nothing that it could belong to. -/
theorem Tracks.switchBranch {b : TreeBuilder} {flags : List Bool}
    (h : Tracks b.tree b.opened flags) (entry : String) :
    (∃ outer, flags = false :: outer ∧
        Tracks (b.switchBranch entry).tree (b.switchBranch entry).opened (true :: outer))
      ∨ ∃ cause, b.switchBranch entry = b.note cause entry := by
  unfold TreeBuilder.switchBranch
  cases hopened : b.opened with
  | nil => exact Or.inr ⟨_, rfl⟩
  | cons node outer =>
      rw [hopened] at h
      cases h with
      | @cons _ _ c flag flags found status fresh rest =>
          dsimp only
          rw [found]
          dsimp only
          cases flag with
          | true =>
              -- a second `else` is a fault
              rw [status]
              exact Or.inr ⟨_, rfl⟩
          | false =>
              rw [status]
              refine Or.inl ⟨flags, rfl, ?_⟩
              refine .cons (ControlTree.conditional?_setConditional_self found _) rfl fresh ?_
              exact rest.setConditional fresh _

/-- An `end` is met, unless nothing is open. -/
theorem Tracks.closeConditional {b : TreeBuilder} {flags : List Bool}
    (h : Tracks b.tree b.opened flags) (entry : String) :
    (∃ flag outer, flags = flag :: outer ∧
        Tracks (b.closeConditional entry).tree (b.closeConditional entry).opened outer)
      ∨ ∃ cause, b.closeConditional entry = b.note cause entry := by
  unfold TreeBuilder.closeConditional
  cases hopened : b.opened with
  | nil => exact Or.inr ⟨_, rfl⟩
  | cons node outer =>
      rw [hopened] at h
      cases h with
      | @cons _ _ c flag flags found status fresh rest =>
          refine Or.inl ⟨flag, flags, rfl, ?_⟩
          dsimp only
          rw [found]
          dsimp only
          cases flag with
          | true =>
              rw [status]
              exact rest.setConditional fresh _
          | false =>
              rw [status]
              exact rest.setConditional fresh _

/-! ## §4. What the builder lets pass. -/

/-- Steps without faults close the conditionals that are open. -/
theorem closes_of_allFaults (steps : List ControlStep) :
    ∀ (b : TreeBuilder) (flags : List Bool), Tracks b.tree b.opened flags →
      (steps.foldl addStep b).allFaults = [] → Closes flags steps := by
  -- step by step, with what the builder keeps open tied to the flags of the machine
  induction steps with
  | nil =>
      intro b flags htracks hall
      rw [List.foldl_nil] at hall
      rw [(faults_of_allFaults hall).2] at htracks
      cases htracks
      rfl
  | cons step steps ih =>
      intro b flags htracks hall
      rw [List.foldl_cons] at hall
      cases step with
      | text id => exact ih _ _ (htracks.pushNode _ _ _) hall
      | directive d entry =>
          unfold Closes
          cases hop : d.operator with
          | insert =>
              rw [addStep_insert hop] at hall
              exact ih _ _ (htracks.pushNode _ _ _) hall
          | comment =>
              rw [addStep_comment hop] at hall
              exact ih _ _ htracks hall
          | ifTrue =>
              rw [@addStep_opening d false hop] at hall
              exact ih _ _ (htracks.openConditional _ _ _) hall
          | ifFalse =>
              rw [@addStep_opening d true hop] at hall
              exact ih _ _ (htracks.openConditional _ _ _) hall
          | otherwise =>
              rw [addStep_otherwise hop] at hall
              rcases htracks.switchBranch entry with ⟨outer, rfl, hnext⟩ | ⟨cause, hnote⟩
              · exact ih _ _ hnext hall
              · rw [hnote] at hall
                exact absurd hall (allFaults_ne_nil steps)
          | endBlock =>
              rw [addStep_endBlock hop] at hall
              rcases htracks.closeConditional entry with ⟨flag, outer, rfl, hnext⟩ | ⟨cause, hnote⟩
              · exact ih _ _ hnext hall
              · rw [hnote] at hall
                exact absurd hall (allFaults_ne_nil steps)

/-- **Steps without faults are well nested.** -/
theorem nested_of_allFaults {steps : List ControlStep}
    (h : (steps.foldl addStep {}).allFaults = []) : ∃ items, Nested steps items :=
  (closes_of_allFaults steps {} [] .nil h).nested

end TreeBuilder

end LayerTemplates
