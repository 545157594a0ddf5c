/-
  LayerTemplates.Proofs.Render.Duality
  ────────────────────────────────────
  `unless` is the dual of `if`.

  Two layers are compared that say the same, except that a conditional of the first one is an
  inverted conditional of the second one with its parts exchanged.  Their lexemes lie in
  different arenas, so what is compared is what the segments say: texts by their value,
  placeholders by their operator and the name they refer to.  Nothing else of a segment shows in
  a walk as long as no error names it.

  The walks are compared from their first step to their last.  Before and after the conditional
  both take the same steps with stacks that show and have flipped the same; the conditional
  itself writes the same from either stack, because a part that is hidden does nothing, whatever
  it contains.

  Main statements:
    * `Agree.cons` — walks that take a step that says the same go on alike.
    * `Agree.nested` — so do walks that take well-nested steps which write the same.
    * `Agree.nil` — and such walks end alike.
    * `walk_dual` — walking the two layers is the same, and asks for the same names in order.
-/
import LayerTemplates.Proofs.Control.Balance
import LayerTemplates.Proofs.Render.TreeWalk

namespace LayerTemplates

/-! ## §1. What segments say. -/

/-- What a step says, wherever it stands: a text, or an operator and the name that it takes. -/
inductive Saying where
  | text (value : String)
  | directive (operator : Operator) (target : Option String)
  deriving Repr, DecidableEq, Inhabited

/-- What a step says whose lexemes are in the arena. -/
def ControlStep.saying (a : Arena) : ControlStep → Saying
  | .text id => .text (a.get id).value
  | .directive d _ => .directive d.operator (d.targetName a)

/-- What the segments of a layer say, in source order. -/
def ParsedLayer.sayings (layer : ParsedLayer) : List Saying :=
  layer.steps.map (ControlStep.saying layer.arena)

/-- A conditional that stands for its two parts; without `else` the second one is empty. -/
inductive Matched (operator : Operator) (target : Option String) :
    List Saying → List Saying → List Saying → Prop
  | conditional (first : List Saying) (closing : Option String) :
      Matched operator target first []
        (.directive operator target :: (first ++ [.directive .endBlock closing]))
  | alternative (first second : List Saying) (middle closing : Option String) :
      Matched operator target first second
        (.directive operator target ::
          (first ++ .directive .otherwise middle :: (second ++ [.directive .endBlock closing])))

/-- Every conditional that is opened is closed, and every `else` and `end` belongs to one. -/
inductive Balanced : List Saying → Prop
  | nil : Balanced []
  | text (value : String) {rest : List Saying} (others : Balanced rest) :
      Balanced (.text value :: rest)
  | insert (target : Option String) {rest : List Saying} (others : Balanced rest) :
      Balanced (.directive .insert target :: rest)
  | comment (target : Option String) {rest : List Saying} (others : Balanced rest) :
      Balanced (.directive .comment target :: rest)
  | matched {invert : Bool} {target : Option String} {first second group rest : List Saying}
      (opens : Matched (.opening invert) target first second group)
      (inner : Balanced first) (other : Balanced second) (others : Balanced rest) :
      Balanced (group ++ rest)

/-- The two say the same, except that one `if` of the first, with balanced parts, is an `unless`
of the second with the parts exchanged.  It may stand inside other conditionals. -/
inductive Dual : List Saying → List Saying → Prop
  | intro {target : Option String} {first second group inverted : List Saying}
      (before after : List Saying)
      (positive : Matched .ifTrue target first second group)
      (negative : Matched .ifFalse target second first inverted)
      (balanced : Balanced first) (balanced' : Balanced second) :
      Dual (before ++ group ++ after) (before ++ inverted ++ after)

/-! ## §2. Balanced sayings are those of well-nested steps. -/

section Nesting

variable {a : Arena}

/-- A step that says an operator is a directive with that operator. -/
theorem exists_directive {step : ControlStep} {operator : Operator} {name : Option String}
    (h : step.saying a = .directive operator name) :
    ∃ d entry, step = .directive d entry ∧ d.operator = operator ∧ d.targetName a = name := by
  cases step with
  | text id => exact absurd h (by simp [ControlStep.saying])
  | directive d entry =>
      obtain ⟨hop, htarget⟩ := Saying.directive.inj h
      exact ⟨d, entry, rfl, hop, htarget⟩

/-- Steps that say a conditional are one, with steps that say its parts. -/
theorem Matched.nested {steps : List ControlStep} {invert : Bool} {target : Option String}
    {first second group : List Saying} (h : Matched (.opening invert) target first second group)
    (hsteps : steps.map (ControlStep.saying a) = group) :
    ∃ (d : Directive) (onFirst onSecond : List ControlStep), d.targetName a = target
      ∧ onFirst.map (ControlStep.saying a) = first
      ∧ onSecond.map (ControlStep.saying a) = second
      ∧ ∀ {rest : List ControlStep} {firsts seconds items : List Item}, Nested onFirst firsts →
        Nested onSecond seconds → Nested rest items →
          Nested (steps ++ rest) (Item.branching invert d.target firsts seconds :: items) := by
  -- the steps are cut where the sayings are: opening, first part, turn, second part, end
  cases h with
  | conditional _ =>
      obtain ⟨opening, behind, rfl, hopening, hbehind⟩ := List.map_eq_cons_iff.1 hsteps
      obtain ⟨onFirst, stops, rfl, hfirst, hstops⟩ := List.map_eq_append_iff.1 hbehind
      obtain ⟨stop, nothing, rfl, hstop, hnothing⟩ := List.map_eq_cons_iff.1 hstops
      obtain rfl := List.map_eq_nil_iff.1 hnothing
      obtain ⟨d, entry, rfl, op, htarget⟩ := exists_directive hopening
      obtain ⟨e, entry', rfl, opStop, -⟩ := exists_directive hstop
      refine ⟨d, onFirst, [], htarget, hfirst, rfl, ?_⟩
      intro rest firsts seconds items inner other others
      cases other
      have hwhole : Nested (.directive d entry :: (onFirst ++ .directive e entry' :: rest)) _ :=
        .conditional op opStop inner others
      simpa using hwhole
  | alternative _ _ =>
      obtain ⟨opening, behind, rfl, hopening, hbehind⟩ := List.map_eq_cons_iff.1 hsteps
      obtain ⟨onFirst, turns, rfl, hfirst, hturns⟩ := List.map_eq_append_iff.1 hbehind
      obtain ⟨turn, behind, rfl, hturn, hbehind⟩ := List.map_eq_cons_iff.1 hturns
      obtain ⟨onSecond, stops, rfl, hsecond, hstops⟩ := List.map_eq_append_iff.1 hbehind
      obtain ⟨stop, nothing, rfl, hstop, hnothing⟩ := List.map_eq_cons_iff.1 hstops
      obtain rfl := List.map_eq_nil_iff.1 hnothing
      obtain ⟨d, entry, rfl, op, htarget⟩ := exists_directive hopening
      obtain ⟨m, entry', rfl, opTurn, -⟩ := exists_directive hturn
      obtain ⟨e, entry'', rfl, opStop, -⟩ := exists_directive hstop
      refine ⟨d, onFirst, onSecond, htarget, hfirst, hsecond, ?_⟩
      intro rest firsts seconds items inner other others
      have hwhole : Nested (.directive d entry :: (onFirst ++ .directive m entry' ::
          (onSecond ++ .directive e entry'' :: rest))) _ :=
        .alternative op opTurn opStop inner other others
      simpa using hwhole

/-- **Steps that say something balanced are well nested.** -/
theorem Balanced.nested {said : List Saying} (h : Balanced said) :
    ∀ steps : List ControlStep, steps.map (ControlStep.saying a) = said →
      ∃ items, Nested steps items := by
  -- on the sayings, whose cases are those of well-nested steps
  induction h with
  | nil =>
      intro steps hsteps
      obtain rfl := List.map_eq_nil_iff.1 hsteps
      exact ⟨[], .nil⟩
  | text value _ ih =>
      intro steps hsteps
      obtain ⟨step, behind, rfl, hstep, hbehind⟩ := List.map_eq_cons_iff.1 hsteps
      obtain ⟨items, hitems⟩ := ih behind hbehind
      cases step with
      | text id => exact ⟨_, .text hitems⟩
      | directive d entry => exact absurd hstep (by simp [ControlStep.saying])
  | insert target _ ih =>
      intro steps hsteps
      obtain ⟨step, behind, rfl, hstep, hbehind⟩ := List.map_eq_cons_iff.1 hsteps
      obtain ⟨d, entry, rfl, op, -⟩ := exists_directive hstep
      obtain ⟨items, hitems⟩ := ih behind hbehind
      exact ⟨_, .insert op hitems⟩
  | comment target _ ih =>
      intro steps hsteps
      obtain ⟨step, behind, rfl, hstep, hbehind⟩ := List.map_eq_cons_iff.1 hsteps
      obtain ⟨d, entry, rfl, op, -⟩ := exists_directive hstep
      obtain ⟨items, hitems⟩ := ih behind hbehind
      exact ⟨_, .comment op hitems⟩
  | matched opens _ _ _ ihFirst ihSecond ih =>
      intro steps hsteps
      obtain ⟨group, behind, rfl, hgroup, hbehind⟩ := List.map_eq_append_iff.1 hsteps
      obtain ⟨d, onFirst, onSecond, -, hfirst, hsecond, hnested⟩ := opens.nested hgroup
      obtain ⟨firsts, hfirsts⟩ := ihFirst onFirst hfirst
      obtain ⟨seconds, hseconds⟩ := ihSecond onSecond hsecond
      obtain ⟨items, hitems⟩ := ih behind hbehind
      exact ⟨_, hnested hfirsts hseconds hitems⟩

end Nesting

/-! ## §3. Walks that go on alike. -/

/-- Two walks have written the same, and their open conditionals show the same and have met their
`else` or not. -/
structure WalkState.Alike (w w' : WalkState) : Prop where
  output : w.output = w'.output
  frames : w.stack.frames.map (fun frame => (frame.visible, frame.flipped))
    = w'.stack.frames.map fun frame => (frame.visible, frame.flipped)

namespace WalkState

variable {w w' : WalkState}

theorem Alike.isVisible (h : w.Alike w') : w.stack.isVisible = w'.stack.isVisible := by
  have hall : ∀ frames : List OpenConditional, frames.all OpenConditional.visible
      = (frames.map fun frame => (frame.visible, frame.flipped)).all Prod.fst := by
    intro frames
    rw [List.all_map]
    rfl
  unfold OpenConditionals.isVisible
  rw [hall, hall, h.frames]

theorem Alike.flags (h : w.Alike w') : w.stack.flags = w'.stack.flags := by
  have hmap : ∀ frames : List OpenConditional, frames.map OpenConditional.flipped
      = (frames.map fun frame => (frame.visible, frame.flipped)).map Prod.snd := by
    intro frames
    rw [List.map_map]
    rfl
  unfold OpenConditionals.flags
  rw [hmap, hmap, h.frames]

theorem Alike.append (h : w.Alike w') (text : String) :
    (w.append text).Alike (w'.append text) where
  output := congrArg (· ++ text) h.output
  frames := h.frames

theorem Alike.inside (h : w.Alike w') (operator operator' : Operator) (entry entry' : String)
    (visible flipped : Bool) :
    (w.inside operator entry visible flipped).Alike (w'.inside operator' entry' visible flipped)
    where
  output := h.output
  frames := congrArg ((visible, flipped) :: ·) h.frames

/-- Where one of the walks is inside a conditional, both are. -/
theorem Alike.exists_inside (h : w.Alike w') {flipped : Bool} {outer : List Bool}
    (hflags : w.stack.flags = flipped :: outer) :
    ∃ (v v' : WalkState) (operator operator' : Operator) (entry entry' : String) (visible : Bool),
      w = v.inside operator entry visible flipped ∧ w' = v'.inside operator' entry' visible flipped
        ∧ v.Alike v' ∧ v.stack.flags = outer := by
  obtain ⟨⟨layer, frames⟩, output⟩ := w
  obtain ⟨⟨layer', frames'⟩, output'⟩ := w'
  obtain ⟨houtput, hframes⟩ := h
  cases frames with
  | nil => exact absurd hflags (by simp [OpenConditionals.flags])
  | cons frame frames =>
      cases frames' with
      | nil => exact absurd hframes (by simp)
      | cons frame' frames' =>
          obtain ⟨hframe, hrest⟩ := List.cons.inj hframes
          obtain ⟨hvisible, hflipped⟩ := Prod.mk.inj hframe
          obtain ⟨rfl, rfl⟩ := List.cons.inj hflags
          refine ⟨⟨⟨layer, frames⟩, output⟩, ⟨⟨layer', frames'⟩, output'⟩, frame.operator,
            frame'.operator, frame.entry, frame'.entry, frame.visible, rfl, ?_,
            ⟨houtput, hrest⟩, rfl⟩
          rw [hvisible, hflipped]
          rfl

end WalkState

section Agreement

variable {σ β : Type} (a a' : Arena) (resolve : String → Run σ Rendered) (k : String → Run σ β)

/-- Ends a walk: nothing may be open, and something is made of what was written. -/
def WalkState.ends (w : WalkState) : Run σ β :=
  Run.ofExcept w.stack.finish >>= fun _ => k w.output

/-- Walks that stand alike end alike after these steps, if the first one closes what is open. -/
def Agree (steps steps' : List ControlStep) : Prop :=
  ∀ w w' : WalkState, w.Alike w' → Closes w.stack.flags steps →
    steps.foldlM (walkStep a resolve) w >>= WalkState.ends k
      = steps'.foldlM (walkStep a' resolve) w' >>= WalkState.ends k

variable {a a' resolve k}

/-- Targets with the same name are resolved alike. -/
theorem resolveTarget_congr {d d' : Directive} (h : d.targetName a = d'.targetName a') :
    resolveTarget a resolve d.target = resolveTarget a' resolve d'.target := by
  unfold Directive.targetName at h
  cases htarget : d.target <;> cases htarget' : d'.target <;> rw [htarget, htarget'] at h
  · rfl
  · exact absurd h (by simp)
  · exact absurd h (by simp)
  · exact congrArg resolve (Option.some.inj h)

/-- **Walks that stand alike with nothing open end alike.** -/
theorem Agree.nil : Agree a a' resolve k [] [] := by
  intro w w' halike hcloses
  have hflags : w.stack.flags = [] := hcloses
  have hfinish := w.stack.finish_eq_ok_iff.2 hflags
  have hfinish' := w'.stack.finish_eq_ok_iff.2 (halike.flags ▸ hflags)
  show pure w >>= WalkState.ends k = pure w' >>= WalkState.ends k
  rw [pure_bind, pure_bind]
  unfold WalkState.ends
  rw [hfinish, hfinish', halike.output]

section Steps

variable {steps steps' : List ControlStep} {d d' : Directive} {entry entry' : String}
  (h : Agree a a' resolve k steps steps')
include h

/-- Visible walks ask for the same name and go on with the answer; hidden ones do not ask. -/
theorem Agree.asking (htarget : d.targetName a = d'.targetName a') {w w' : WalkState}
    (halike : w.Alike w') {shown shown' : Rendered → WalkState} {hidden hidden' : WalkState}
    (hshown : ∀ answer, (shown answer).Alike (shown' answer)
      ∧ Closes (shown answer).stack.flags steps)
    (hhidden : hidden.Alike hidden' ∧ Closes hidden.stack.flags steps) :
    (if w.stack.isVisible then
        resolveTarget a resolve d.target >>= fun answer => pure (shown answer)
      else pure hidden) >>= (fun v => steps.foldlM (walkStep a resolve) v >>= WalkState.ends k)
    = (if w'.stack.isVisible then
        resolveTarget a' resolve d'.target >>= fun answer => pure (shown' answer)
      else pure hidden') >>=
        fun v => steps'.foldlM (walkStep a' resolve) v >>= WalkState.ends k := by
  rw [← halike.isVisible, ← resolveTarget_congr htarget]
  by_cases hw : w.stack.isVisible = true
  · rw [if_pos hw, if_pos hw, bind_assoc, bind_assoc]
    congr 1
    funext answer
    rw [pure_bind, pure_bind]
    exact h _ _ (hshown answer).1 (hshown answer).2
  · rw [if_neg hw, if_neg hw, pure_bind, pure_bind]
    exact h _ _ hhidden.1 hhidden.2

theorem Agree.text {id id' : LexemeId} (hvalue : (a.get id).value = (a'.get id').value) :
    Agree a a' resolve k (.text id :: steps) (.text id' :: steps') := by
  intro w w' halike hcloses
  rw [List.foldlM_cons, List.foldlM_cons, walkStep_text, walkStep_text, pure_bind, pure_bind,
    ← hvalue, ← halike.isVisible]
  by_cases hw : w.stack.isVisible = true
  · rw [if_pos hw, if_pos hw]
    exact h _ _ (halike.append _) hcloses
  · rw [if_neg hw, if_neg hw]
    exact h w w' halike hcloses

theorem Agree.insert (op : d.operator = .insert) (op' : d'.operator = .insert)
    (htarget : d.targetName a = d'.targetName a') :
    Agree a a' resolve k (.directive d entry :: steps) (.directive d' entry' :: steps') := by
  intro w w' halike hcloses
  have hrest : Closes w.stack.flags steps := by simpa [Closes, op] using hcloses
  rw [List.foldlM_cons, List.foldlM_cons, bind_assoc, bind_assoc, walkStep_insert a resolve op,
    walkStep_insert a' resolve op']
  exact h.asking htarget halike (fun _ => ⟨halike.append _, hrest⟩) ⟨halike, hrest⟩

theorem Agree.comment (op : d.operator = .comment) (op' : d'.operator = .comment) :
    Agree a a' resolve k (.directive d entry :: steps) (.directive d' entry' :: steps') := by
  intro w w' halike hcloses
  have hrest : Closes w.stack.flags steps := by simpa [Closes, op] using hcloses
  rw [List.foldlM_cons, List.foldlM_cons, walkStep_comment a resolve op,
    walkStep_comment a' resolve op', pure_bind, pure_bind]
  exact h w w' halike hrest

/-- An opening puts a part on either stack that shows the same. -/
theorem Agree.opening {invert : Bool} (op : d.operator = .opening invert)
    (op' : d'.operator = .opening invert) (htarget : d.targetName a = d'.targetName a') :
    Agree a a' resolve k (.directive d entry :: steps) (.directive d' entry' :: steps') := by
  intro w w' halike hcloses
  have hrest : Closes (false :: w.stack.flags) steps := by
    cases invert <;> simpa [Closes, op, Operator.opening] using hcloses
  rw [List.foldlM_cons, List.foldlM_cons, bind_assoc, bind_assoc, walkStep_opening a resolve op,
    walkStep_opening a' resolve op']
  exact h.asking htarget halike (fun _ => ⟨halike.inside _ _ _ _ _ false, hrest⟩)
    ⟨halike.inside _ _ _ _ _ false, hrest⟩

/-- An `else` turns the innermost part of both stacks around. -/
theorem Agree.otherwise (op : d.operator = .otherwise) (op' : d'.operator = .otherwise) :
    Agree a a' resolve k (.directive d entry :: steps) (.directive d' entry' :: steps') := by
  intro w w' halike hcloses
  simp only [Closes, op] at hcloses
  split at hcloses
  · next outer hflags =>
      obtain ⟨v, v', _, _, _, _, visible, rfl, rfl, hv, rfl⟩ := halike.exists_inside hflags
      rw [List.foldlM_cons, List.foldlM_cons, walkStep_otherwise a resolve op,
        walkStep_otherwise a' resolve op', pure_bind, pure_bind]
      exact h _ _ (hv.inside _ _ _ _ _ true) hcloses
  · exact hcloses.elim

/-- An `end` takes the innermost part from both stacks. -/
theorem Agree.endBlock (op : d.operator = .endBlock) (op' : d'.operator = .endBlock) :
    Agree a a' resolve k (.directive d entry :: steps) (.directive d' entry' :: steps') := by
  intro w w' halike hcloses
  simp only [Closes, op] at hcloses
  split at hcloses
  · next flipped outer hflags =>
      obtain ⟨v, v', _, _, _, _, visible, rfl, rfl, hv, rfl⟩ := halike.exists_inside hflags
      rw [List.foldlM_cons, List.foldlM_cons, walkStep_endBlock a resolve op,
        walkStep_endBlock a' resolve op', pure_bind, pure_bind]
      exact h v v' hv hcloses
  · exact hcloses.elim

/-- **A step that says the same in both walks leaves them alike.** -/
theorem Agree.cons {step step' : ControlStep} (hsaid : step.saying a = step'.saying a') :
    Agree a a' resolve k (step :: steps) (step' :: steps') := by
  cases step with
  | text id =>
      cases step' with
      | text id' => exact h.text (Saying.text.inj hsaid)
      | directive d' entry' => exact absurd hsaid (by simp [ControlStep.saying])
  | directive d entry =>
      cases step' with
      | text id' => exact absurd hsaid (by simp [ControlStep.saying])
      | directive d' entry' =>
          obtain ⟨hop, htarget⟩ := Saying.directive.inj hsaid
          cases op : d.operator with
          | insert => exact h.insert op (hop ▸ op) htarget
          | comment => exact h.comment op (hop ▸ op)
          | ifTrue => exact h.opening (show d.operator = .opening false from op) (hop ▸ op) htarget
          | ifFalse => exact h.opening (show d.operator = .opening true from op) (hop ▸ op) htarget
          | otherwise => exact h.otherwise op (hop ▸ op)
          | endBlock => exact h.endBlock op (hop ▸ op)

end Steps

/-- Steps that say the same in both walks leave them alike. -/
theorem Agree.append {rest rest' : List ControlStep} (h : Agree a a' resolve k rest rest') :
    ∀ steps steps' : List ControlStep,
      steps.map (ControlStep.saying a) = steps'.map (ControlStep.saying a') →
        Agree a a' resolve k (steps ++ rest) (steps' ++ rest') := by
  intro steps
  induction steps with
  | nil =>
      intro steps' hsaid
      obtain rfl := List.map_eq_nil_iff.1 hsaid.symm
      exact h
  | cons step steps ih =>
      intro steps' hsaid
      obtain ⟨step', behind', rfl, hstep, hbehind⟩ := List.map_eq_cons_iff.1 hsaid.symm
      exact (ih behind' hbehind.symm).cons hstep.symm

/-- **Well-nested steps that write the same leave both walks alike**: where they are visible each
writes its items, and where they are hidden nothing happens. -/
theorem Agree.nested {steps steps' rest rest' : List ControlStep} {items items' : List Item}
    (hsteps : Nested steps items) (hsteps' : Nested steps' items')
    (hwrites : evaluateItems a resolve items = evaluateItems a' resolve items')
    (h : Agree a a' resolve k rest rest') :
    Agree a a' resolve k (steps ++ rest) (steps' ++ rest') := by
  intro w w' halike hcloses
  replace hcloses := (hsteps.closes_append_iff _ _).1 hcloses
  rw [List.foldlM_append, List.foldlM_append]
  by_cases hw : w.stack.isVisible = true
  · rw [hsteps.foldlM_walkStep a resolve w hw,
      hsteps'.foldlM_walkStep a' resolve w' (halike.isVisible ▸ hw), hwrites]
    simp only [bind_assoc, pure_bind]
    congr 1
    funext written
    exact h _ _ (halike.append written) hcloses
  · have hhidden : w.stack.isVisible = false := by simpa using hw
    rw [hsteps.foldlM_walkStep_hidden a resolve w hhidden,
      hsteps'.foldlM_walkStep_hidden a' resolve w' (halike.isVisible ▸ hhidden), pure_bind,
      pure_bind]
    exact h w w' halike hcloses

/-- The whole walk of well-nested steps ends with what their items write. -/
theorem Nested.foldlM_ends {steps : List ControlStep} {items : List Item}
    (h : Nested steps items) (layer : String) :
    steps.foldlM (walkStep a resolve) { stack := { layer } } >>= WalkState.ends k
      = evaluateItems a resolve items >>= k := by
  have hends : ∀ written,
      WalkState.ends k (WalkState.append { stack := { layer } } written) = k written := by
    intro written
    show (pure () >>= fun _ => k ("" ++ written)) = k written
    rw [pure_bind, String.empty_append]
  rw [h.foldlM_walkStep a resolve { stack := { layer } } rfl, bind_assoc]
  simp only [pure_bind, hends]

/-- Well-nested steps that say the same write the same. -/
theorem evaluateItems_congr {steps steps' : List ControlStep} {items items' : List Item}
    (h : Nested steps items) (h' : Nested steps' items')
    (hsaid : steps.map (ControlStep.saying a) = steps'.map (ControlStep.saying a')) :
    evaluateItems a resolve items = evaluateItems a' resolve items' := by
  have hagree : Agree a a' resolve pure (steps ++ []) (steps' ++ []) :=
    Agree.nil.append steps steps' hsaid
  rw [List.append_nil, List.append_nil] at hagree
  have hends := hagree { stack := { layer := "" } } { stack := { layer := "" } } ⟨rfl, rfl⟩ h.closes
  rw [h.foldlM_ends, h'.foldlM_ends, bind_pure, bind_pure] at hends
  exact hends

/-- An inverted conditional with its parts exchanged writes what the conditional writes. -/
theorem evaluate_branching_dual {d d' : Directive} {firsts seconds firsts' seconds' : List Item}
    (htarget : d.targetName a = d'.targetName a')
    (hfirst : evaluateItems a resolve firsts = evaluateItems a' resolve firsts')
    (hsecond : evaluateItems a resolve seconds = evaluateItems a' resolve seconds') :
    (Item.branching false d.target firsts seconds).evaluate a resolve
      = (Item.branching true d'.target seconds' firsts').evaluate a' resolve := by
  rw [evaluate_branching, evaluate_branching, ← resolveTarget_congr htarget]
  congr 1
  funext result
  cases result.isTruthy with
  | true => exact hfirst
  | false => exact hsecond

/-- **Walks that meet a conditional in one and its dual in the other end alike.** -/
theorem Dual.agree {said said' : List Saying} (h : Dual said said')
    {steps steps' : List ControlStep} (hsteps : steps.map (ControlStep.saying a) = said)
    (hsteps' : steps'.map (ControlStep.saying a') = said') :
    Agree a a' resolve k steps steps' := by
  cases h with
  | intro before after positive negative balanced balanced' =>
      obtain ⟨front, rest, rfl, hfront, hrest⟩ := List.map_eq_append_iff.1 hsteps
      obtain ⟨front', rest', rfl, hfront', hrest'⟩ := List.map_eq_append_iff.1 hsteps'
      obtain ⟨start, group, rfl, hstart, hgroup⟩ := List.map_eq_append_iff.1 hfront
      obtain ⟨start', group', rfl, hstart', hgroup'⟩ := List.map_eq_append_iff.1 hfront'
      have positive : Matched (.opening false) _ _ _ _ := positive
      have negative : Matched (.opening true) _ _ _ _ := negative
      obtain ⟨d, onFirst, onSecond, htarget, hfirst, hsecond, hnested⟩ := positive.nested hgroup
      obtain ⟨d', onSecond', onFirst', htarget', hsecond', hfirst', hnested'⟩ :=
        negative.nested hgroup'
      obtain ⟨firsts, hfirsts⟩ := balanced.nested onFirst hfirst
      obtain ⟨seconds, hseconds⟩ := balanced'.nested onSecond hsecond
      obtain ⟨firsts', hfirsts'⟩ := balanced.nested onFirst' hfirst'
      obtain ⟨seconds', hseconds'⟩ := balanced'.nested onSecond' hsecond'
      -- the parts say the same in both layers, so they write the same
      have hwrites : (Item.branching false d.target firsts seconds).evaluate a resolve
          = (Item.branching true d'.target seconds' firsts').evaluate a' resolve :=
        evaluate_branching_dual (htarget.trans htarget'.symm)
          (evaluateItems_congr hfirsts hfirsts' (hfirst.trans hfirst'.symm))
          (evaluateItems_congr hseconds hseconds' (hsecond.trans hsecond'.symm))
      have hrests : Agree a a' resolve k rest rest' := by
        have happend : Agree a a' resolve k (rest ++ []) (rest' ++ []) :=
          Agree.nil.append rest rest' (hrest.trans hrest'.symm)
        rwa [List.append_nil, List.append_nil] at happend
      have hgroups := Agree.nested (hnested hfirsts hseconds .nil)
        (hnested' hseconds' hfirsts' .nil)
        (by rw [evaluateItems_cons, evaluateItems_cons, hwrites, evaluateItems_nil,
          evaluateItems_nil]) hrests
      rw [List.append_nil, List.append_nil] at hgroups
      rw [List.append_assoc, List.append_assoc]
      exact hgroups.append start start' (hstart.trans hstart'.symm)

end Agreement

/-! ## §4. Layers. -/

section Layers

variable {σ : Type}

/-- Walking an accepted layer is taking its steps to their end. -/
theorem walk_eq_ends {layer : ParsedLayer} (h : layer.Accepted) (text : String)
    (hright : layer.RightParts) (resolve : String → Run σ Rendered) :
    walk layer text resolve
      = layer.steps.foldlM (walkStep layer.arena resolve) { stack := { layer := layer.name } }
        >>= WalkState.ends fun written => pure (.text written) := by
  unfold walk
  dsimp only
  rw [h.foldlM_walkSegment resolve text hright]
  rfl

/-- **`unless` is the exact dual of `if`**: accepted layers that are dual, in which every
placeholder has the right number of parts, come to the same in a walk, whatever is made of the
names that are asked for, and the names asked for are the same in the same order. -/
theorem walk_dual {name name' text text' : String} {tags tags' : Tags} {layer other : ParsedLayer}
    (h : ParsedLayer.parse name text tags = .ok layer)
    (h' : ParsedLayer.parse name' text' tags' = .ok other)
    (hright : layer.RightParts) (hright' : other.RightParts)
    (hdual : Dual layer.sayings other.sayings) (resolve : String → Run σ Rendered) (s : σ) :
    (walk layer text resolve).outcome s = (walk other text' resolve).outcome s
      ∧ (walk layer text (recording resolve)).outcome (s, [])
        = (walk other text' (recording resolve)).outcome (s, []) := by
  have haccepted := ParsedLayer.accepted_of_parse h
  have haccepted' := ParsedLayer.accepted_of_parse h'
  obtain ⟨items, hitems⟩ := haccepted.nested
  -- both walks start with nothing open and nothing written
  have hwalk : ∀ {τ : Type} (ask : String → Run τ Rendered),
      walk layer text ask = walk other text' ask := by
    intro τ ask
    rw [walk_eq_ends haccepted text hright, walk_eq_ends haccepted' text' hright']
    exact hdual.agree rfl rfl _ _ ⟨rfl, rfl⟩ hitems.closes
  rw [hwalk resolve, hwalk (recording resolve)]
  exact ⟨rfl, rfl⟩

/-- The greeting the other way round. -/
def welcomeText : String :=
  "\x7b\x7bif guest\x7d\x7d\x7b\x7b=welcome\x7d\x7d"
    ++ "\x7b\x7belse\x7d\x7dHello\x7b\x7b#member\x7d\x7d\x7b\x7bend\x7d\x7d"

/-- The other greeting as it is parsed. -/
def welcome : ParsedLayer :=
  match ParsedLayer.parse "page" welcomeText {} with
  | .ok layer => layer
  | .error _ => default

theorem walk_dual_greeting :
    ParsedLayer.parse "page" welcomeText {} = .ok welcome
      ∧ ParsedLayer.parse "page" greetingText {} = .ok greeting
      ∧ welcome.RightParts ∧ greeting.RightParts ∧ Dual welcome.sayings greeting.sayings
      ∧ (walk welcome welcomeText countQuestions).outcome 0
        = (walk greeting greetingText countQuestions).outcome 0
      ∧ (walk welcome welcomeText (recording countQuestions)).outcome (0, [])
        = (walk greeting greetingText (recording countQuestions)).outcome (0, []) := by
  have hparse : ParsedLayer.parse "page" welcomeText {} = .ok welcome := rfl
  have hparse' : ParsedLayer.parse "page" greetingText {} = .ok greeting := rfl
  obtain ⟨hright, hsaid⟩ : welcome.RightParts ∧ welcome.sayings
      = [] ++ (.directive .ifTrue (some "guest") ::
        ([.directive .insert (some "welcome")] ++ .directive .otherwise none ::
          ([.text "Hello", .directive .comment none] ++ [.directive .endBlock none]))) ++ [] := by
    decide +kernel
  obtain ⟨hright', hsaid'⟩ : greeting.RightParts ∧ greeting.sayings
      = [] ++ (.directive .ifFalse (some "guest") ::
        ([.text "Hello", .directive .comment none] ++ .directive .otherwise none ::
          ([.directive .insert (some "welcome")] ++ [.directive .endBlock none]))) ++ [] := by
    decide +kernel
  have hdual : Dual welcome.sayings greeting.sayings := by
    rw [hsaid, hsaid']
    exact .intro [] [] (.alternative _ _ none none) (.alternative _ _ none none)
      (.insert _ .nil) (.text _ (.comment _ .nil))
  exact ⟨hparse, hparse', hright, hright', hdual,
    walk_dual hparse hparse' hright hright' hdual countQuestions 0⟩

end Layers

end LayerTemplates
