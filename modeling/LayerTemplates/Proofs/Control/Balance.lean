/-
  LayerTemplates.Proofs.Control.Balance
  ─────────────────────────────────────
  The builder, the open conditionals of a walk and the grammar agree on what is balanced.

  The builder notes what does not fit and goes on; the open conditionals stop at the first
  step that does not fit.  As long as nothing went wrong both hold the same placeholders
  open, and know the same of their `else`.  So the first fault of the builder is where the
  open conditionals stop, and for the same reason.

  Main statements:
    * `OpenConditionals.follow_eq_ok_iff` — what the open conditionals accept is what the
      machine `Closes` accepts.
    * `Nested.closes` — the machine accepts what is well nested.
    * `Mirrors.takeStep` — one step of the builder beside one of the open conditionals.
    * `Mirrors.follow` — the first fault of the builder names what the open conditionals
      stop at.
-/
import LayerTemplates.Proofs.Control.Faults
import LayerTemplates.Render.Visibility

namespace LayerTemplates

/-! ## §1. Following steps. -/

namespace OpenConditionals

/-- Takes a step.  A conditional that is opened shows its first part or not, as told. -/
def takeStep (s : OpenConditionals) : ControlStep × Bool → Except RenderError OpenConditionals
  | (.text _, _) => .ok s
  | (.directive d entry, visible) =>
      match d.operator with
      | .insert | .comment => .ok s
      | .ifTrue | .ifFalse => .ok (s.push d.operator entry visible)
      | .otherwise => s.flip entry
      | .endBlock => (s.pop entry).map Prod.snd

theorem takeStep_plain {d : Directive} (op : d.operator = .insert ∨ d.operator = .comment)
    (s : OpenConditionals) (entry : String) (visible : Bool) :
    s.takeStep (.directive d entry, visible) = .ok s := by
  rcases op with op | op <;> simp [takeStep, op]

theorem takeStep_opening {d : Directive} (op : d.operator = .ifTrue ∨ d.operator = .ifFalse)
    (s : OpenConditionals) (entry : String) (visible : Bool) :
    s.takeStep (.directive d entry, visible) = .ok (s.push d.operator entry visible) := by
  rcases op with op | op <;> simp [takeStep, op]

theorem takeStep_otherwise {d : Directive} (op : d.operator = .otherwise) (s : OpenConditionals)
    (entry : String) (visible : Bool) :
    s.takeStep (.directive d entry, visible) = s.flip entry := by
  simp [takeStep, op]

theorem takeStep_endBlock {d : Directive} (op : d.operator = .endBlock) (s : OpenConditionals)
    (entry : String) (visible : Bool) :
    s.takeStep (.directive d entry, visible) = (s.pop entry).map Prod.snd := by
  simp [takeStep, op]

/-- Takes steps up to the end of a layer. -/
def follow (s : OpenConditionals) (steps : List (ControlStep × Bool)) : Except RenderError Unit :=
  match steps with
  | [] => s.finish
  | step :: rest =>
      match s.takeStep step with
      | .ok s' => s'.follow rest
      | .error e => .error e

/-- Of the open conditionals, innermost first, whether their `else` has been met. -/
def flags (s : OpenConditionals) : List Bool := s.frames.map OpenConditional.flipped

@[simp] theorem flags_push (s : OpenConditionals) (operator : Operator) (entry : String)
    (visible : Bool) : (s.push operator entry visible).flags = false :: s.flags := rfl

theorem finish_eq_ok_iff (s : OpenConditionals) : s.finish = .ok () ↔ s.flags = [] := by
  unfold finish flags
  cases s.frames <;> simp

/-- The machine goes on after a step exactly where the open conditionals take it. -/
theorem closes_cons_iff (s : OpenConditionals) (step : ControlStep) (visible : Bool)
    (rest : List ControlStep) :
    Closes s.flags (step :: rest)
      ↔ ∃ s', s.takeStep (step, visible) = .ok s' ∧ Closes s'.flags rest := by
  cases step with
  | text id => simp [Closes, takeStep]
  | directive d entry =>
      cases hop : d.operator with
      | insert | comment | ifTrue | ifFalse => simp [Closes, takeStep, hop]
      | otherwise =>
          -- the innermost frame decides: none, one whose `else` was met, or one without
          obtain ⟨layer, frames⟩ := s
          cases frames with
          | nil => simp [Closes, takeStep, hop, flags, flip]
          | cons frame outer =>
              obtain ⟨operator, opener, shown, flipped⟩ := frame
              cases flipped <;> simp [Closes, takeStep, hop, flags, flip]
      | endBlock =>
          obtain ⟨layer, frames⟩ := s
          cases frames <;> simp [Closes, takeStep, hop, flags, pop, Except.map]

/-- **The open conditionals accept what the machine accepts**, whatever they show. -/
theorem follow_eq_ok_iff (steps : List (ControlStep × Bool)) :
    ∀ s : OpenConditionals, s.follow steps = .ok () ↔ Closes s.flags (steps.map Prod.fst) := by
  induction steps with
  | nil => exact fun s => s.finish_eq_ok_iff
  | cons step rest ih =>
      intro s
      obtain ⟨step, visible⟩ := step
      rw [List.map_cons, s.closes_cons_iff step visible]
      unfold follow
      cases hstep : s.takeStep (step, visible) with
      | error e => simp
      | ok s' =>
          have hrest := ih s'
          simp [hrest]

end OpenConditionals

/-! ## §2. The grammar and the machine. -/

/-- What is well nested leaves the machine with what was open before. -/
theorem Nested.closes_append_iff {steps : List ControlStep} {items : List Item}
    (h : Nested steps items) :
    ∀ (opened : List Bool) (rest : List ControlStep),
      Closes opened (steps ++ rest) ↔ Closes opened rest := by
  -- on the nesting; a conditional puts one flag on the stack and takes it off again
  induction h with
  | nil => exact fun _ _ => Iff.rfl
  | text _ ih => exact fun opened rest => ih opened rest
  | insert op _ ih =>
      intro opened rest
      simpa [Closes, op] using ih opened rest
  | comment op _ ih =>
      intro opened rest
      simpa [Closes, op] using ih opened rest
  | @conditional d e entry closing first steps onFirst items invert op stop _ _ ih₁ ih₂ =>
      intro opened rest
      have hend : Closes (false :: opened) (.directive e closing :: (steps ++ rest))
          ↔ Closes opened rest := by
        simpa [Closes, stop] using ih₂ opened rest
      refine Iff.trans ?_ ((ih₁ (false :: opened) _).trans hend)
      cases invert <;> simp [Closes, op, Operator.opening]
  | @alternative d m e entry middle closing first second steps onFirst onSecond items invert op
      turn stop _ _ _ ih₁ ih₂ ih₃ =>
      intro opened rest
      have hend : Closes (true :: opened) (.directive e closing :: (steps ++ rest))
          ↔ Closes opened rest := by
        simpa [Closes, stop] using ih₃ opened rest
      have hturn : Closes (false :: opened)
          (.directive m middle :: (second ++ .directive e closing :: (steps ++ rest)))
            ↔ Closes opened rest := by
        refine Iff.trans ?_ ((ih₂ (true :: opened) _).trans hend)
        simp [Closes, turn]
      refine Iff.trans ?_ ((ih₁ (false :: opened) _).trans hturn)
      cases invert <;> simp [Closes, op, Operator.opening]

/-- **The machine accepts what is well nested.** -/
theorem Nested.closes {steps : List ControlStep} {items : List Item} (h : Nested steps items) :
    Closes [] steps := by
  have hall : Closes [] (steps ++ []) := (h.closes_append_iff [] []).2 rfl
  rwa [List.append_nil] at hall

theorem closes_iff_nested (steps : List ControlStep) :
    Closes [] steps ↔ ∃ items, Nested steps items :=
  ⟨Closes.nested, fun ⟨_, h⟩ => h.closes⟩

/-! ## §3. The builder beside the open conditionals. -/

namespace ControlTree

theorem entry_pushNode (t : ControlTree) {id : NodeId} (hid : id < t.nodes.size)
    (block : BlockId) (kind : NodeKind) (entry : String) :
    (t.pushNode block kind entry).entry id = t.entry id := by
  unfold ControlTree.entry
  rw [node?_pushNode, if_neg (Nat.ne_of_lt hid)]

theorem entry_pushNode_self (t : ControlTree) (block : BlockId) (kind : NodeKind)
    (entry : String) : (t.pushNode block kind entry).entry t.nodes.size = entry := by
  unfold ControlTree.entry
  rw [node?_pushNode, if_pos rfl]
  rfl

/-- What becomes of a conditional does not change its placeholder. -/
theorem entry_setConditional (t : ControlTree) (id : NodeId) (c : Conditional) (other : NodeId) :
    (t.setConditional id c).entry other = t.entry other := by
  unfold ControlTree.entry
  rw [node?_setConditional]
  by_cases ho : other = id
  · subst ho
    rw [if_pos rfl]
    cases t.node? other <;> rfl
  · rw [if_neg ho]

end ControlTree

/-- A fault of the builder is of the same kind as an error of the open conditionals, and names
the same placeholder; for what is left open, the same placeholders in the same order. -/
def SameFailure (fault : Fault) : RenderError → Prop
  | .brokenControlSequence _ placeholder =>
      fault.cause.kind = .brokenControlSequence ∧ fault.placeholder = some placeholder
  | .twoElseInRow _ placeholder =>
      fault.cause.kind = .twoElseInRow ∧ fault.placeholder = some placeholder
  | .unclosedOperators _ placeholders =>
      fault.cause.kind = .unclosedOperators ∧ fault.cause = .openConditionals placeholders
  | _ => False

/-- Builder and open conditionals hold the same placeholders open, know the same of their
`else`, and nothing went wrong so far. -/
structure Mirrors (b : TreeBuilder) (s : OpenConditionals) : Prop where
  tracks : TreeBuilder.Tracks b.tree b.opened s.flags
  entries : b.opened.map b.tree.entry = s.frames.map OpenConditional.entry
  faults : b.faults = []

namespace Mirrors

variable {b : TreeBuilder} {s : OpenConditionals}

/-- A node that opens nothing changes nothing that is open. -/
theorem pushNode (h : Mirrors b s) (kind : NodeKind) (entry : String) :
    Mirrors { b with tree := b.tree.pushNode b.cursor kind entry } s where
  tracks := h.tracks.pushNode _ _ _
  entries := by
    rw [← h.entries]
    refine List.map_congr_left fun node hnode => ?_
    exact b.tree.entry_pushNode (h.tracks.lt_size node hnode) _ _ _
  faults := h.faults

/-- Both open a conditional. -/
theorem opening (h : Mirrors b s) (invert : Bool) (target : Option LexemeId)
    (operator : Operator) (entry : String) (visible : Bool) :
    Mirrors (b.openConditional invert target entry) (s.push operator entry visible) where
  tracks := h.tracks.openConditional invert target entry
  entries := by
    unfold TreeBuilder.openConditional OpenConditionals.push
    dsimp only
    rw [List.map_cons, List.map_cons, ← h.entries]
    congr 1
    · exact ControlTree.entry_pushNode_self _ _ _ _
    · refine List.map_congr_left fun node hnode => ?_
      exact ControlTree.entry_pushNode _ (h.tracks.lt_size node hnode) _ _ _
  faults := h.faults

/-- Both meet an `else`: it belongs to the innermost conditional, or fits nowhere. -/
theorem turning (h : Mirrors b s) (entry : String) :
    match s.flip entry with
    | .ok s' => Mirrors (b.switchBranch entry) s'
    | .error e => ∃ cause, b.switchBranch entry = b.note cause entry
        ∧ SameFailure { cause, placeholder := some entry } e := by
  obtain ⟨layer, frames⟩ := s
  obtain ⟨tracks, entries, faults⟩ := h
  unfold OpenConditionals.flip TreeBuilder.switchBranch
  cases frames with
  | nil =>
      -- nothing is open on either side
      have hopened : b.opened = [] := by simpa using entries
      rw [hopened]
      exact ⟨_, rfl, rfl, rfl⟩
  | cons frame outer =>
      cases hopened : b.opened with
      | nil => exact absurd entries (by simp [hopened])
      | cons node nodes =>
          rw [hopened] at tracks entries
          cases tracks with
          | @cons _ _ c flag flags found status fresh rest =>
              dsimp only
              rw [found]
              dsimp only
              obtain ⟨operator, opener, visible, flipped⟩ := frame
              cases flipped with
              | true =>
                  -- a second `else` is refused by both
                  rw [status]
                  exact ⟨_, rfl, rfl, rfl⟩
              | false =>
                  rw [show c.status = .first from status]
                  dsimp only
                  refine ⟨?_, ?_, faults⟩
                  · have hfound := ControlTree.conditional?_setConditional_self found
                      { c with status := .second }
                    exact .cons hfound rfl fresh (rest.setConditional fresh _)
                  · refine Eq.trans (List.map_congr_left fun other _ => ?_) entries
                    exact ControlTree.entry_setConditional _ _ _ other

/-- Both meet an `end`: it belongs to the innermost conditional, or fits nowhere. -/
theorem closing (h : Mirrors b s) (entry : String) :
    match s.pop entry with
    | .ok (_, s') => Mirrors (b.closeConditional entry) s'
    | .error e => ∃ cause, b.closeConditional entry = b.note cause entry
        ∧ SameFailure { cause, placeholder := some entry } e := by
  obtain ⟨layer, frames⟩ := s
  obtain ⟨tracks, entries, faults⟩ := h
  unfold OpenConditionals.pop TreeBuilder.closeConditional
  cases frames with
  | nil =>
      have hopened : b.opened = [] := by simpa using entries
      rw [hopened]
      exact ⟨_, rfl, rfl, rfl⟩
  | cons frame outer =>
      cases hopened : b.opened with
      | nil => exact absurd entries (by simp [hopened])
      | cons node nodes =>
          rw [hopened] at tracks entries
          cases tracks with
          | @cons _ _ c flag flags found status fresh rest =>
              dsimp only
              rw [found]
              dsimp only
              have hentries : (nodes.map fun other =>
                  (b.tree.setConditional node { c with status := .closed }).entry other)
                    = outer.map OpenConditional.entry := by
                rw [← (List.cons.inj entries).2]
                refine List.map_congr_left fun other _ => ?_
                exact ControlTree.entry_setConditional _ _ _ other
              -- open conditionals are never closed, whether their `else` was met or not
              obtain ⟨operator, opener, visible, flipped⟩ := frame
              cases flipped with
              | true =>
                  rw [status]
                  exact ⟨rest.setConditional fresh _, hentries, faults⟩
              | false =>
                  rw [status]
                  exact ⟨rest.setConditional fresh _, hentries, faults⟩

/-- **One step of both**: the builder goes on as the open conditionals do, or notes a fault
where they stop. -/
theorem takeStep (h : Mirrors b s) (step : ControlStep) (visible : Bool) :
    match s.takeStep (step, visible) with
    | .ok s' => Mirrors (b.addStep step) s'
    | .error e => ∃ cause entry, b.addStep step = b.note cause entry
        ∧ SameFailure { cause, placeholder := some entry } e := by
  -- both sides do the same for each operator, and only `else` and `end` may fail
  cases step with
  | text id => exact h.pushNode _ _
  | directive d entry =>
      cases hop : d.operator with
      | insert =>
          rw [TreeBuilder.addStep_insert hop, OpenConditionals.takeStep_plain (Or.inl hop)]
          exact h.pushNode _ _
      | comment =>
          rw [TreeBuilder.addStep_comment hop, OpenConditionals.takeStep_plain (Or.inr hop)]
          exact h
      | ifTrue =>
          rw [@TreeBuilder.addStep_opening d false hop,
            OpenConditionals.takeStep_opening (Or.inl hop)]
          exact h.opening _ _ _ _ _
      | ifFalse =>
          rw [@TreeBuilder.addStep_opening d true hop,
            OpenConditionals.takeStep_opening (Or.inr hop)]
          exact h.opening _ _ _ _ _
      | otherwise =>
          have hturn := h.turning entry
          rw [TreeBuilder.addStep_otherwise hop, OpenConditionals.takeStep_otherwise hop]
          cases hflip : s.flip entry with
          | ok s' =>
              rw [hflip] at hturn
              exact hturn
          | error e =>
              rw [hflip] at hturn
              obtain ⟨cause, hnote, hsame⟩ := hturn
              exact ⟨cause, entry, hnote, hsame⟩
      | endBlock =>
          have hclose := h.closing entry
          rw [TreeBuilder.addStep_endBlock hop, OpenConditionals.takeStep_endBlock hop]
          cases hpop : s.pop entry with
          | ok popped =>
              rw [hpop] at hclose
              exact hclose
          | error e =>
              rw [hpop] at hclose
              obtain ⟨cause, hnote, hsame⟩ := hclose
              exact ⟨cause, entry, hnote, hsame⟩

/-- At the end both know what is left open. -/
theorem finish (h : Mirrors b s) :
    match s.finish with
    | .ok () => b.allFaults = []
    | .error e => ∃ fault, b.allFaults.head? = some fault ∧ SameFailure fault e := by
  unfold OpenConditionals.finish TreeBuilder.allFaults
  have hentries := h.entries
  cases hframes : s.frames with
  | nil =>
      have hopened : b.opened = [] := by simpa [hframes] using hentries
      rw [hopened]
      exact h.faults
  | cons frame outer =>
      cases hopened : b.opened with
      | nil => exact absurd hentries (by simp [hframes, hopened])
      | cons node nodes =>
          rw [hframes, hopened] at hentries
          rw [h.faults, hentries]
          exact ⟨_, rfl, rfl, rfl⟩

end Mirrors

namespace TreeBuilder

/-- The first fault is never overtaken. -/
theorem head?_allFaults_of_note {b : TreeBuilder} (h : b.faults = []) (cause : Cause)
    (entry : String) (steps : List ControlStep) :
    (steps.foldl addStep (b.note cause entry)).allFaults.head?
      = some { cause, placeholder := some entry } := by
  have hprefix := faults_foldl_addStep steps (b.note cause entry)
  have hnoted : (b.note cause entry).faults = [{ cause, placeholder := some entry }] := by
    unfold note
    rw [h]
    rfl
  rw [hnoted] at hprefix
  obtain ⟨more, hmore⟩ := hprefix
  unfold allFaults
  split
  · rw [← hmore]
    rfl
  · rw [← hmore]
    rfl

end TreeBuilder

/-- **The first fault of the builder is what the open conditionals stop at**, and where they do
not stop there is none. -/
theorem Mirrors.follow (steps : List (ControlStep × Bool)) :
    ∀ (b : TreeBuilder) (s : OpenConditionals), Mirrors b s →
      match s.follow steps with
      | .ok () => ((steps.map Prod.fst).foldl TreeBuilder.addStep b).allFaults = []
      | .error e => ∃ fault,
          ((steps.map Prod.fst).foldl TreeBuilder.addStep b).allFaults.head? = some fault
            ∧ SameFailure fault e := by
  -- step by step, as long as both go on
  induction steps with
  | nil => exact fun b s h => h.finish
  | cons step rest ih =>
      intro b s h
      obtain ⟨step, visible⟩ := step
      have hstep := h.takeStep step visible
      unfold OpenConditionals.follow
      rw [List.map_cons, List.foldl_cons]
      cases htake : s.takeStep (step, visible) with
      | ok s' =>
          rw [htake] at hstep
          exact ih _ s' hstep
      | error e =>
          rw [htake] at hstep
          obtain ⟨cause, entry, hnote, hsame⟩ := hstep
          dsimp only
          rw [hnote, TreeBuilder.head?_allFaults_of_note h.faults]
          exact ⟨_, rfl, hsame⟩

theorem mirrors_start (layer : String) : Mirrors {} { layer } where
  tracks := .nil
  entries := rfl
  faults := rfl

end LayerTemplates
