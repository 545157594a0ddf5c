/-
  LayerTemplates.Proofs.Render.TreeWalk
  ─────────────────────────────────────
  Walking a layer is evaluating its control tree.

  The walk goes through the segments one after another and keeps a stack of open
  conditionals; the tree is evaluated from its root, one block inside another, and never
  looks at a branch that is not taken.  Between the two stand the items of well-nested
  steps: the tree shows them, and the walk writes them.

  Main statements:
    * `ControlTree.Shows.evaluate` — a block evaluates to the items that it shows.
    * `Nested.foldlM_walkStep` — the walk writes the items of well-nested steps.
    * `walk_eq_evaluateBlock` — walking an accepted layer is evaluating its tree.
-/
import LayerTemplates.Proofs.Layer.Accepted
import LayerTemplates.Render.Walk

namespace LayerTemplates

section Evaluation

variable {σ : Type} (a : Arena) (resolve : String → Run σ Rendered)

/-! ## §1. Evaluating a tree. -/

/-- What the target of a node amounts to. -/
def resolveTarget : Option LexemeId → Run σ Rendered
  | some id => resolve (a.get id).value
  | none => return .absent

/-- What runs write, one after another. -/
def writeAll : List (Run σ String) → Run σ String
  | [] => return ""
  | first :: others => do
      let written ← first
      let more ← writeAll others
      return written ++ more

/-- Evaluates what a node is; `branch` evaluates the block of a branch. -/
def NodeKind.evaluate (branch : BlockId → Run σ String) : NodeKind → Run σ String
  | .text id => return (a.get id).value
  | .insert target => do
      let result ← resolveTarget a resolve target
      return result.toText
  | .conditional c => do
      let result ← resolveTarget a resolve c.target
      if result.isTruthy then branch c.truePath else branch c.falsePath

namespace ControlTree

variable (t : ControlTree)

/-- Evaluates a node; an index outside the tree has nothing to write. -/
def evaluateNode (branch : BlockId → Run σ String) (id : NodeId) : Run σ String :=
  match t.node? id with
  | some node => node.kind.evaluate a resolve branch
  | none => return ""

/-- Evaluates a block in which blocks nest less than `depth` deep. -/
def evaluateBlock : Nat → BlockId → Run σ String
  | 0, _ => throw .tooDeep
  | depth + 1, block =>
      writeAll ((t.block block).nodes.map (t.evaluateNode a resolve (evaluateBlock depth)))

end ControlTree

/-! ## §2. Evaluating items. -/

mutual

/-- Evaluates an item. -/
def Item.evaluate : Item → Run σ String
  | .text id => return (a.get id).value
  | .insert target => do
      let result ← resolveTarget a resolve target
      return result.toText
  | .conditional _ target onTrue onFalse => do
      let result ← resolveTarget a resolve target
      if result.isTruthy then evaluateItems onTrue else evaluateItems onFalse

/-- Evaluates items one after another. -/
def evaluateItems : List Item → Run σ String
  | [] => return ""
  | item :: items => do
      let written ← item.evaluate
      let more ← evaluateItems items
      return written ++ more

end

namespace ControlTree

variable {t : ControlTree}

/-- A node whose shape is known evaluates to what its shape does. -/
theorem evaluateNode_of_shape? {id : NodeId} {kind : NodeKind} (h : t.shape? id = some kind)
    (branch : BlockId → Run σ String) :
    t.evaluateNode a resolve branch id = kind.evaluate a resolve branch := by
  -- the shape forgets the status of a conditional only, which evaluation does not look at
  unfold shape? at h
  obtain ⟨node, hn, hkind⟩ := Option.map_eq_some_iff.1 h
  unfold evaluateNode
  rw [hn]
  dsimp only
  rw [← hkind]
  cases node.kind <;> rfl

/-- **A block evaluates to the items that it shows**, given as many levels as there are newer
blocks. -/
theorem Shows.evaluate {low : Nat} {ids : List NodeId} {items : List Item}
    (h : t.Shows low ids items) :
    ∀ depth, t.blocks.size ≤ low + depth →
      writeAll (ids.map (t.evaluateNode a resolve (t.evaluateBlock a resolve depth)))
        = evaluateItems a resolve items := by
  induction h with
  | nil =>
      intro depth _
      unfold evaluateItems
      rfl
  | text node _ ih =>
      intro depth hdepth
      rw [List.map_cons, evaluateNode_of_shape? a resolve node]
      unfold writeAll evaluateItems Item.evaluate
      rw [ih depth hdepth]
      rfl
  | insert node _ ih =>
      intro depth hdepth
      rw [List.map_cons, evaluateNode_of_shape? a resolve node]
      unfold writeAll evaluateItems Item.evaluate
      rw [ih depth hdepth]
      rfl
  | @conditional low id c ids onTrue onFalse items node newer inside _ _ _ ihTrue ihFalse ih =>
      intro depth hdepth
      obtain ⟨hlowTrue, hlowFalse⟩ := newer
      have hlow : low < t.blocks.size := Nat.lt_of_le_of_lt hlowTrue inside.1
      -- a level is left for each branch, because its block is newer than `low`
      obtain ⟨depth, rfl⟩ : ∃ d, depth = d + 1 := ⟨depth - 1, by omega⟩
      have htrue : t.evaluateBlock a resolve (depth + 1) c.truePath
          = evaluateItems a resolve onTrue := ihTrue depth (by omega)
      have hfalse : t.evaluateBlock a resolve (depth + 1) c.falsePath
          = evaluateItems a resolve onFalse := ihFalse depth (by omega)
      rw [List.map_cons, evaluateNode_of_shape? a resolve node]
      unfold writeAll evaluateItems Item.evaluate NodeKind.evaluate
      dsimp only
      rw [ih (depth + 1) hdepth, htrue, hfalse]

/-- The tree of an accepted layer evaluates to the items of its steps. -/
theorem evaluateBlock_of_accepted {layer : ParsedLayer} (h : layer.Accepted) {items : List Item}
    (hitems : Nested layer.steps items) {depth : Nat} (hdepth : layer.tree.blocks.size ≤ depth) :
    layer.tree.evaluateBlock a resolve depth root = evaluateItems a resolve items := by
  have hbuilt := hitems.built {} (Nat.zero_lt_succ _)
  obtain ⟨ids, hids, hshows⟩ := hbuilt.shown
  have hpos := hbuilt.blocksGrow
  rw [← h.tree] at hids hshows hpos
  -- the root block itself takes one level
  obtain ⟨depth, rfl⟩ : ∃ d, depth = d + 1 := by
    have hone : 1 ≤ layer.tree.blocks.size := hpos
    exact ⟨depth - 1, by omega⟩
  have hnodes : (layer.tree.block root).nodes = ids := hids
  unfold evaluateBlock
  rw [hnodes]
  exact hshows.evaluate a resolve depth (by rw [Nat.add_comm]; exact hdepth)

end ControlTree

/-! ## §3. Walking steps. -/

/-- Takes the step of a segment, as a placeholder with the right number of parts does. -/
def walkStep (w : WalkState) : ControlStep → Run σ WalkState
  | .text id => return w.write (a.get id).value
  | .directive d entry =>
      match d.operator with
      | .insert =>
          if w.stack.isVisible then do
            let result ← resolveTarget a resolve d.target
            return { w with output := w.output ++ result.toText }
          else
            return w
      | .ifTrue | .ifFalse =>
          if w.stack.isVisible then do
            let result ← resolveTarget a resolve d.target
            return { w with stack := w.stack.push d.operator entry (takesFirst d.operator result) }
          else
            return { w with stack := w.stack.push d.operator entry false }
      | .otherwise => do
          let stack ← Run.ofExcept (w.stack.flip entry)
          return { w with stack }
      | .endBlock => do
          let (_, stack) ← Run.ofExcept (w.stack.pop entry)
          return { w with stack }
      | .comment => return w

/-- Where a target is there, requiring it and asking for it is resolving it. -/
theorem requireTarget_resolve (layer : ParsedLayer) (text : String) (p : Placeholder)
    {d : Directive} {id : LexemeId} (h : d.target = some id) {β : Type}
    (k : Rendered → Run σ β) :
    (Run.ofExcept (requireTarget layer text p d) >>= fun name => resolve name >>= k)
      = resolveTarget layer.arena resolve d.target >>= k := by
  unfold requireTarget Directive.targetName
  rw [h]
  rfl

/-- A classified placeholder with the right number of parts takes its step. -/
theorem walkSegment_eq {layer : ParsedLayer} (text : String) {segment : Segment}
    (h : ∀ p d, segment = .placeholder p → p.directive = some d →
      d.arity = .eq ∧ (d.operator.expectedParts = 2 → ∃ id, d.target = some id)) (w : WalkState) :
    walkSegment layer text resolve w segment
      = match segment.step? with
        | some step => walkStep layer.arena resolve w step
        | none => pure w := by
  cases segment with
  | text id => rfl
  | placeholder p =>
      unfold walkSegment Segment.step?
      dsimp only
      cases hd : p.directive with
      | none => rfl
      | some d =>
          obtain ⟨harity, htarget⟩ := h p d rfl hd
          have hcheck : checkArity layer text p d = .ok () := by
            unfold checkArity
            rw [harity]
          show walkDirective layer text resolve w p d
            = walkStep layer.arena resolve w (.directive d p.entry)
          unfold walkDirective walkStep
          rw [hcheck]
          dsimp only
          -- the operators with two parts have a target, which the walk requires
          cases hop : d.operator with
          | insert =>
              obtain ⟨id, hid⟩ := htarget (by rw [hop]; rfl)
              dsimp only
              rw [← requireTarget_resolve resolve layer text p hid]
              rfl
          | ifTrue | ifFalse =>
              obtain ⟨id, hid⟩ := htarget (by rw [hop]; rfl)
              dsimp only
              rw [← requireTarget_resolve resolve layer text p hid]
              rfl
          | otherwise | endBlock | comment => rfl

/-- Segments that do as their steps do are walked as the steps are; by induction, with the same
state in front of each. -/
theorem foldlM_walkSegment_eq {layer : ParsedLayer} {text : String} {segments : List Segment} :
    (∀ segment ∈ segments, ∀ w, walkSegment layer text resolve w segment
        = match segment.step? with
          | some step => walkStep layer.arena resolve w step
          | none => pure w) →
      ∀ w, segments.foldlM (walkSegment layer text resolve) w
        = (segments.filterMap Segment.step?).foldlM (walkStep layer.arena resolve) w := by
  induction segments with
  | nil => intro _ w; rfl
  | cons segment segments ih =>
      intro h w
      have ih := ih fun segment' hmem => h segment' (List.mem_cons_of_mem _ hmem)
      rw [List.foldlM_cons, h segment List.mem_cons_self, List.filterMap_cons]
      cases segment.step? with
      | none =>
          show (pure w >>= fun w' => segments.foldlM (walkSegment layer text resolve) w') = _
          rw [pure_bind, ih]
      | some step =>
          rw [List.foldlM_cons]
          congr 1
          funext w'
          exact ih w'

/-- The segments of an accepted layer take its steps, if every placeholder has the right number
of parts. -/
theorem ParsedLayer.Accepted.foldlM_walkSegment {layer : ParsedLayer} (h : layer.Accepted)
    (text : String) (hright : layer.RightParts) (w : WalkState) :
    layer.segments.foldlM (walkSegment layer text resolve) w
      = layer.steps.foldlM (walkStep layer.arena resolve) w := by
  refine foldlM_walkSegment_eq resolve (fun segment hmem w => ?_) w
  refine walkSegment_eq resolve text (fun p d hsegment hd => ?_) w
  have hp : p ∈ layer.placeholders := mem_placeholders.2 (hsegment ▸ hmem)
  have hclassify : Directive.classify layer.arena p.roots = some d := by
    rw [← h.classified p hp, hd]
  exact ⟨hright p hp d hd, Directive.target_of_arity hclassify (hright p hp d hd)⟩

/-! ## §4. Walking well-nested steps. -/

namespace WalkState

/-- Goes on in a conditional, whose `else` was met or not. -/
def inside (w : WalkState) (operator : Operator) (entry : String) (visible flipped : Bool) :
    WalkState :=
  { w with stack :=
      { w.stack with frames := { operator, entry, visible, flipped } :: w.stack.frames } }

/-- Writes text, visible or not. -/
def append (w : WalkState) (text : String) : WalkState := { w with output := w.output ++ text }

theorem append_empty (w : WalkState) : w.append "" = w := by
  unfold append
  rw [String.append_empty]

/-- Pieces may be written one after the other or all at once. -/
theorem append_append (w : WalkState) (text more : String) :
    (w.append text).append more = w.append (text ++ more) := by
  unfold append
  rw [String.append_assoc]

/-- Inside a block that is hidden everything is, whatever its own condition says. -/
theorem isVisible_inside (w : WalkState) (operator : Operator) (entry : String)
    (visible flipped : Bool) :
    (w.inside operator entry visible flipped).stack.isVisible
      = (visible && w.stack.isVisible) := rfl

/-- What is written and which blocks are open do not concern each other. -/
theorem append_inside (w : WalkState) (operator : Operator) (entry text : String)
    (visible flipped : Bool) :
    (w.inside operator entry visible flipped).append text
      = (w.append text).inside operator entry visible flipped := rfl

end WalkState

theorem walkStep_text (w : WalkState) (id : LexemeId) :
    walkStep a resolve w (.text id)
      = pure (if w.stack.isVisible then w.append (a.get id).value else w) := rfl

/-- A value is asked for where it is seen, and nowhere else. -/
theorem walkStep_insert {d : Directive} (op : d.operator = .insert) (w : WalkState)
    (entry : String) :
    walkStep a resolve w (.directive d entry)
      = if w.stack.isVisible then
          resolveTarget a resolve d.target >>= fun result => pure (w.append result.toText)
        else pure w := by
  unfold walkStep
  dsimp only
  rw [op]
  rfl

theorem walkStep_comment {d : Directive} (op : d.operator = .comment) (w : WalkState)
    (entry : String) : walkStep a resolve w (.directive d entry) = pure w := by
  unfold walkStep
  dsimp only
  rw [op]

/-- A condition is asked for where the block is seen; in a hidden one the new block is hidden
without a question. -/
theorem walkStep_opening {d : Directive} {invert : Bool} (op : d.operator = .opening invert)
    (w : WalkState) (entry : String) :
    walkStep a resolve w (.directive d entry)
      = if w.stack.isVisible then
          resolveTarget a resolve d.target >>= fun result =>
            pure (w.inside d.operator entry (result.isTruthy != invert) false)
        else
          pure (w.inside d.operator entry false false) := by
  unfold walkStep
  dsimp only
  rw [op]
  cases invert <;> rfl

/-- The second part of a block is seen where the first one was not. -/
theorem walkStep_otherwise {m : Directive} (turn : m.operator = .otherwise) (w : WalkState)
    (operator : Operator) (entry middle : String) (visible : Bool) :
    walkStep a resolve (w.inside operator entry visible false) (.directive m middle)
      = pure (w.inside operator entry (!visible) true) := by
  unfold walkStep
  dsimp only
  rw [turn]
  rfl

/-- An `end` takes off the block that it closes, in whichever part that is. -/
theorem walkStep_endBlock {e : Directive} (stop : e.operator = .endBlock) (w : WalkState)
    (operator : Operator) (entry closing : String) (visible flipped : Bool) :
    walkStep a resolve (w.inside operator entry visible flipped) (.directive e closing)
      = pure w := by
  unfold walkStep
  dsimp only
  rw [stop]
  rfl

/-- Well-nested steps that are hidden do nothing. -/
theorem Nested.foldlM_walkStep_hidden {steps : List ControlStep} {items : List Item}
    (h : Nested steps items) :
    ∀ w : WalkState, w.stack.isVisible = false →
      steps.foldlM (walkStep a resolve) w = pure w := by
  -- on the nesting; a conditional that is hidden hides both its parts
  induction h with
  | nil => intro w _; rfl
  | @text id steps items _ ih =>
      intro w hw
      rw [List.foldlM_cons, walkStep_text, hw, if_neg (by simp), pure_bind, ih w hw]
  | @insert d entry steps items op _ ih =>
      intro w hw
      rw [List.foldlM_cons, walkStep_insert a resolve op, hw, if_neg (by simp), pure_bind, ih w hw]
  | @comment d entry steps items op _ ih =>
      intro w hw
      rw [List.foldlM_cons, walkStep_comment a resolve op, pure_bind, ih w hw]
  | @conditional d e entry closing first steps onFirst items invert op stop _ _ ih₁ ih₂ =>
      intro w hw
      rw [List.foldlM_cons, walkStep_opening a resolve op, hw, if_neg (by simp), pure_bind,
        List.foldlM_append, ih₁ _ (by rw [w.isVisible_inside]; rfl), pure_bind,
        List.foldlM_cons, walkStep_endBlock a resolve stop, pure_bind, ih₂ w hw]
  | @alternative d m e entry middle closing first second steps onFirst onSecond items invert op
      turn stop _ _ _ ih₁ ih₂ ih₃ =>
      intro w hw
      rw [List.foldlM_cons, walkStep_opening a resolve op, hw, if_neg (by simp), pure_bind,
        List.foldlM_append, ih₁ _ (by rw [w.isVisible_inside]; rfl), pure_bind,
        List.foldlM_cons, walkStep_otherwise a resolve turn, pure_bind,
        List.foldlM_append, ih₂ _ (by rw [w.isVisible_inside, hw]; rfl), pure_bind,
        List.foldlM_cons, walkStep_endBlock a resolve stop, pure_bind, ih₃ w hw]

theorem evaluateItems_nil : evaluateItems a resolve [] = pure "" := by
  unfold evaluateItems
  rfl

theorem evaluateItems_cons (item : Item) (items : List Item) :
    evaluateItems a resolve (item :: items)
      = item.evaluate a resolve >>= fun written =>
          evaluateItems a resolve items >>= fun more => pure (written ++ more) := by
  conv => lhs; unfold evaluateItems

/-- A conditional takes its first part where the walk finds it visible. -/
theorem evaluate_branching (invert : Bool) (target : Option LexemeId) (first second : List Item) :
    (Item.branching invert target first second).evaluate a resolve
      = resolveTarget a resolve target >>= fun result =>
          if result.isTruthy != invert then evaluateItems a resolve first
          else evaluateItems a resolve second := by
  unfold Item.branching
  cases invert with
  | false =>
      rw [if_neg (by simp)]
      unfold Item.evaluate
      congr 1
      funext result
      cases result.isTruthy <;> rfl
  | true =>
      rw [if_pos rfl]
      unfold Item.evaluate
      congr 1
      funext result
      cases result.isTruthy <;> rfl

/-- **The walk writes the items of well-nested steps**, where they are visible. -/
theorem Nested.foldlM_walkStep {steps : List ControlStep} {items : List Item}
    (h : Nested steps items) :
    ∀ w : WalkState, w.stack.isVisible = true →
      steps.foldlM (walkStep a resolve) w
        = evaluateItems a resolve items >>= fun written => pure (w.append written) := by
  -- on the nesting, for every state: of a conditional one part is visible, the other hidden
  induction h with
  | nil =>
      intro w _
      rw [evaluateItems_nil, pure_bind, w.append_empty]
      rfl
  | @text id steps items _ ih =>
      intro w hw
      rw [List.foldlM_cons, walkStep_text, if_pos hw, pure_bind, ih (w.append _) hw,
        evaluateItems_cons]
      unfold Item.evaluate
      simp only [bind_assoc, pure_bind, WalkState.append_append]
  | @insert d entry steps items op _ ih =>
      intro w hw
      rw [List.foldlM_cons, walkStep_insert a resolve op, if_pos hw, evaluateItems_cons]
      unfold Item.evaluate
      simp only [bind_assoc, pure_bind]
      congr 1
      funext result
      rw [ih (w.append _) hw]
      simp only [WalkState.append_append]
  | @comment d entry steps items op _ ih =>
      intro w hw
      rw [List.foldlM_cons, walkStep_comment a resolve op, pure_bind, ih w hw]
  | @conditional d e entry closing first steps onFirst items invert op stop inner _ ih₁ ih₂ =>
      intro w hw
      rw [List.foldlM_cons, walkStep_opening a resolve op, if_pos hw, evaluateItems_cons,
        evaluate_branching]
      simp only [bind_assoc, pure_bind, List.foldlM_append, List.foldlM_cons]
      congr 1
      funext result
      cases hvisible : (result.isTruthy != invert) with
      | true =>
          -- the part writes, and `end` leaves the walk where it was, with more written
          rw [ih₁ _ (by rw [w.isVisible_inside, hw]; rfl), if_pos rfl]
          simp only [bind_assoc, pure_bind]
          congr 1
          funext written
          rw [w.append_inside, walkStep_endBlock a resolve stop, pure_bind,
            ih₂ (w.append _) hw]
          simp only [WalkState.append_append]
      | false =>
          rw [inner.foldlM_walkStep_hidden a resolve _ (by rw [w.isVisible_inside]; rfl),
            pure_bind, walkStep_endBlock a resolve stop, pure_bind, ih₂ w hw, if_neg (by simp),
            evaluateItems_nil, pure_bind]
          simp only [String.empty_append]
  | @alternative d m e entry middle closing first second steps onFirst onSecond items invert op
      turn stop inner other _ ih₁ ih₂ ih₃ =>
      intro w hw
      rw [List.foldlM_cons, walkStep_opening a resolve op, if_pos hw, evaluateItems_cons,
        evaluate_branching]
      simp only [bind_assoc, pure_bind, List.foldlM_append, List.foldlM_cons]
      congr 1
      funext result
      cases hvisible : (result.isTruthy != invert) with
      | true =>
          rw [ih₁ _ (by rw [w.isVisible_inside, hw]; rfl), if_pos rfl]
          simp only [bind_assoc, pure_bind]
          congr 1
          funext written
          rw [w.append_inside, walkStep_otherwise a resolve turn, pure_bind,
            other.foldlM_walkStep_hidden a resolve _ (by rw [WalkState.isVisible_inside]; rfl),
            pure_bind, walkStep_endBlock a resolve stop, pure_bind, ih₃ (w.append _) hw]
          simp only [WalkState.append_append]
      | false =>
          -- the first part is passed over, and `else` makes the second one visible
          rw [inner.foldlM_walkStep_hidden a resolve _ (by rw [w.isVisible_inside]; rfl),
            pure_bind, walkStep_otherwise a resolve turn, pure_bind,
            ih₂ _ (by rw [w.isVisible_inside, hw]; rfl), if_neg (by simp)]
          simp only [bind_assoc, pure_bind]
          congr 1
          funext written
          rw [w.append_inside, walkStep_endBlock a resolve stop, pure_bind,
            ih₃ (w.append _) hw]
          simp only [WalkState.append_append]

end Evaluation

/-! ## §5. Walking a layer. -/

section Walk

variable {σ : Type}

/-- The resolver, keeping the names that it is asked for next to its own state. -/
def recording (resolve : String → Run σ Rendered) (name : String) :
    Run (σ × List String) Rendered :=
  ExceptT.mk fun (s, asked) =>
    let (answer, s') := (resolve name).outcome s
    pure (answer, s', asked ++ [name])

/-- Walking writes the items that the steps of a layer stand for. -/
theorem walk_eq_evaluateItems {layer : ParsedLayer} (h : layer.Accepted) (text : String)
    (hright : layer.RightParts) {items : List Item} (hitems : Nested layer.steps items)
    (resolve : String → Run σ Rendered) :
    walk layer text resolve
      = evaluateItems layer.arena resolve items >>= fun written => pure (.text written) := by
  unfold walk
  dsimp only
  rw [h.foldlM_walkSegment resolve text hright,
    hitems.foldlM_walkStep layer.arena resolve { stack := { layer := layer.name } } rfl, bind_assoc]
  simp only [pure_bind, WalkState.append, String.empty_append]
  rfl

/-- **Walking an accepted layer is evaluating its control tree**, when every placeholder has the
right number of parts: whatever is made of the names that are asked for, the outcome and the
state are the same, and so are the names in their order. -/
theorem walk_eq_evaluateBlock {name text : String} {tags : Tags} {layer : ParsedLayer}
    (h : ParsedLayer.parse name text tags = .ok layer)
    (hright : layer.RightParts) {depth : Nat} (hdepth : layer.tree.blocks.size ≤ depth)
    (resolve : String → Run σ Rendered) (s : σ) :
    (walk layer text resolve).outcome s
        = (layer.tree.evaluateBlock layer.arena resolve depth ControlTree.root >>=
            fun written => pure (.text written)).outcome s
      ∧ (walk layer text (recording resolve)).outcome (s, [])
        = (layer.tree.evaluateBlock layer.arena (recording resolve) depth ControlTree.root >>=
            fun written => pure (.text written)).outcome (s, []) := by
  have haccepted := ParsedLayer.accepted_of_parse h
  obtain ⟨items, hitems⟩ := haccepted.nested
  constructor
  · rw [walk_eq_evaluateItems haccepted text hright hitems,
      ControlTree.evaluateBlock_of_accepted _ _ haccepted hitems hdepth]
  · rw [walk_eq_evaluateItems haccepted text hright hitems,
      ControlTree.evaluateBlock_of_accepted _ _ haccepted hitems hdepth]

/-- A layer with an inverted conditional, a comment inside it and an `else`. -/
def greetingText : String :=
  "\x7b\x7bunless guest\x7d\x7dHello\x7b\x7b#member\x7d\x7d"
    ++ "\x7b\x7belse\x7d\x7d\x7b\x7b=welcome\x7d\x7d\x7b\x7bend\x7d\x7d"

/-- The greeting as it is parsed. -/
def greeting : ParsedLayer :=
  match ParsedLayer.parse "page" greetingText {} with
  | .ok layer => layer
  | .error _ => default

/-- Answers every name with itself and counts the questions. -/
def countQuestions (name : String) : Run Nat Rendered := do
  modify fun count => count + 1
  return .text name

theorem walk_eq_evaluateBlock_greeting :
    ParsedLayer.parse "page" greetingText {} = .ok greeting
      ∧ greeting.RightParts
      ∧ greeting.tree.blocks.size ≤ 3
      ∧ (walk greeting greetingText countQuestions).outcome 0
        = (greeting.tree.evaluateBlock greeting.arena countQuestions 3 ControlTree.root >>=
            fun written => pure (.text written)).outcome 0
      ∧ (walk greeting greetingText (recording countQuestions)).outcome (0, [])
        = (greeting.tree.evaluateBlock greeting.arena (recording countQuestions) 3
              ControlTree.root >>=
            fun written => pure (.text written)).outcome (0, []) := by
  have hparse : ParsedLayer.parse "page" greetingText {} = .ok greeting := rfl
  have hright : greeting.RightParts := by decide +kernel
  have hsize : greeting.tree.blocks.size ≤ 3 := by decide +kernel
  exact ⟨hparse, hright, hsize, walk_eq_evaluateBlock hparse hright hsize countQuestions 0⟩

end Walk

end LayerTemplates
