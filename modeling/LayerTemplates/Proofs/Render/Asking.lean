/-
  LayerTemplates.Proofs.Render.Asking
  ───────────────────────────────────
  What a layer can ask for, and what can stop it.

  A plan meets a description if it asks only for names of one kind, stops only with errors
  of another and ends only with results of a third, whatever it is answered.  An accepted
  layer asks for its references and stops with nothing but a wrong number of parts: its
  conditionals are closed in every walk, whichever of its parts are shown.

  Main statements:
    * `planWalk_meets` — an accepted layer asks for its references and is stopped by the
      number of parts only.
    * `Plan.Meets.halts` — what stops the run of a plan is its own or its resolver's.
    * `resolve_halts_by` — what can stop a run, with getters or without.
    * `control_sequences_agree` — builder, open conditionals and grammar accept the same steps, and
      no render fails for what they refuse.
-/
import LayerTemplates.Proofs.Control.Balance
import LayerTemplates.Proofs.Layer.Accepted
import LayerTemplates.Proofs.Render.Plan

namespace LayerTemplates

/-! ## §1. Descriptions of plans. -/

namespace Plan

variable {σ α β : Type} {asked : String → Prop} {stopped : RenderError → Prop}

/-- Whatever it is answered, a plan asks only for some names, stops only with some errors and
ends only with some results. -/
def Meets (asked : String → Prop) (stopped : RenderError → Prop) (result : α → Prop) :
    Plan α → Prop
  | .done a => result a
  | .stop e => stopped e
  | .ask name next => asked name ∧ ∀ answer, (next answer).Meets asked stopped result

theorem Meets.bind {p : Plan α} {f : α → Plan β} {middle : α → Prop} {result : β → Prop}
    (h : p.Meets asked stopped middle)
    (hf : ∀ a, middle a → (f a).Meets asked stopped result) :
    (p >>= f).Meets asked stopped result := by
  induction p with
  | done a => exact hf a h
  | stop e => exact h
  | ask name next ih => exact ⟨h.1, fun answer => ih answer (h.2 answer)⟩

theorem Meets.mono {p : Plan α} {result : α → Prop} {asked' : String → Prop}
    {stopped' : RenderError → Prop} {result' : α → Prop} (h : p.Meets asked stopped result)
    (hasked : ∀ name, asked name → asked' name) (hstopped : ∀ e, stopped e → stopped' e)
    (hresult : ∀ a, result a → result' a) : p.Meets asked' stopped' result' := by
  induction p with
  | done a => exact hresult a h
  | stop e => exact hstopped e h
  | ask name next ih => exact ⟨hasked name h.1, fun answer => ih answer (h.2 answer)⟩

/-- A plan that meets two descriptions meets both at once. -/
theorem Meets.and {p : Plan α} {result : α → Prop} {asked' : String → Prop}
    {stopped' : RenderError → Prop} {result' : α → Prop} (h : p.Meets asked stopped result)
    (h' : p.Meets asked' stopped' result') :
    p.Meets (fun name => asked name ∧ asked' name) (fun e => stopped e ∧ stopped' e)
      fun a => result a ∧ result' a := by
  induction p with
  | done a => exact ⟨h, h'⟩
  | stop e => exact ⟨h, h'⟩
  | ask name next ih => exact ⟨⟨h.1, h'.1⟩, fun answer => ih answer (h.2 answer) (h'.2 answer)⟩

theorem meets_ofExcept {e : Except RenderError α} {result : α → Prop}
    (hok : ∀ a, e = .ok a → result a) (herror : ∀ error, e = .error error → stopped error) :
    (ofExcept e).Meets asked stopped result := by
  cases e with
  | ok a => exact hok a rfl
  | error error => exact herror error rfl

theorem meets_query {name : String} {result : Rendered → Prop} (h : asked name)
    (hresult : ∀ answer, result answer) : (query name).Meets asked stopped result :=
  ⟨h, hresult⟩

/-- **What stops the run of a plan is its own or its resolver's.**  `keeps` is what the resolver
keeps of the state, and what the answer to a name depends on. -/
theorem Meets.halts {p : Plan α} {result : α → Prop} (h : p.Meets asked stopped result)
    {resolve : String → Run σ Rendered} (keeps : σ → Prop) {cause : Halt → Prop}
    (hkeeps : ∀ name s, keeps s → keeps ((resolve name).outcome s).2)
    (hresolve : ∀ name, asked name → ∀ s, keeps s → ∀ halt,
      ((resolve name).outcome s).1 = .error halt → cause halt)
    (hown : ∀ e, stopped e → cause (.error e)) :
    ∀ s, keeps s → ∀ halt, ((p.run resolve).outcome s).1 = .error halt → cause halt := by
  induction p with
  | done a =>
      intro s _ halt hs
      exact absurd hs (by simp)
  | stop e =>
      intro s _ halt hs
      obtain rfl := Except.error.inj hs
      exact hown e h
  | ask name next ih =>
      intro s hkept halt hs
      rw [outcome_ask] at hs
      have hnext := hkeeps name s hkept
      rcases ha : (resolve name).outcome s with ⟨stop | answer, s'⟩ <;> rw [ha] at hs hnext
      · obtain rfl := Except.error.inj hs
        exact hresolve name h.1 s hkept stop (by rw [ha])
      · exact ih answer (h.2 answer) s' hnext halt hs

end Plan

/-! ## §2. Accepted layers. -/

/-- A placeholder of the layer has too few parts or too many. -/
def RenderError.IsArity (layer : String) : RenderError → Prop
  | .tooFewParts name _ | .tooManyParts name _ => name = layer
  | _ => False

section Layer

variable {layer : ParsedLayer} (text : String)

theorem isArity_of_checkArity {p : Placeholder} {d : Directive} {e : RenderError}
    (h : checkArity layer text p d = .error e) : e.IsArity layer.name := by
  unfold checkArity at h
  cases harity : d.arity <;> rw [harity] at h
  · obtain rfl := Except.error.inj h
    rfl
  · exact absurd h (by simp)
  · obtain rfl := Except.error.inj h
    rfl

theorem isArity_of_requireTarget {p : Placeholder} {d : Directive} {e : RenderError}
    (h : requireTarget layer text p d = .error e) : e.IsArity layer.name := by
  unfold requireTarget at h
  cases htarget : d.targetName layer.arena <;> rw [htarget] at h
  · obtain rfl := Except.error.inj h
    rfl
  · exact absurd h (by simp)

/-- What a placeholder requires is a reference of its layer. -/
theorem mem_references {p : Placeholder} {d : Directive} {name : String}
    (hp : .placeholder p ∈ layer.segments) (hd : p.directive = some d)
    (hparts : d.operator.expectedParts = 2) (h : requireTarget layer text p d = .ok name) :
    name ∈ layer.references := by
  have htarget : d.targetName layer.arena = some name := by
    unfold requireTarget at h
    cases htarget : d.targetName layer.arena <;> rw [htarget] at h
    · exact absurd h (by simp)
    · exact congrArg some (Except.ok.inj h)
  refine List.mem_filterMap.2 ⟨p, ParsedLayer.mem_placeholders.2 hp, ?_⟩
  rw [hd]
  simp [ParsedLayer.referenceOf, hparts, htarget]

/-- Requiring a target and asking for it asks for a reference. -/
theorem meets_require {α : Type} {p : Placeholder} {d : Directive}
    (hp : .placeholder p ∈ layer.segments) (hd : p.directive = some d)
    (hparts : d.operator.expectedParts = 2) {k : Rendered → Plan α} {result : α → Prop}
    (hk : ∀ answer,
      (k answer).Meets (· ∈ layer.references) (RenderError.IsArity layer.name) result) :
    (Plan.ofExcept (requireTarget layer text p d) >>= fun name => Plan.query name >>= k).Meets
      (· ∈ layer.references) (RenderError.IsArity layer.name) result := by
  have htarget : (Plan.ofExcept (requireTarget layer text p d)).Meets (· ∈ layer.references)
      (RenderError.IsArity layer.name) (· ∈ layer.references) :=
    Plan.meets_ofExcept (fun name hname => mem_references text hp hd hparts hname)
      fun e he => isArity_of_requireTarget text he
  refine htarget.bind fun name hname => ?_
  have hquery : (Plan.query name).Meets (· ∈ layer.references) (RenderError.IsArity layer.name)
      fun _ => True := Plan.meets_query hname fun _ => trivial
  exact hquery.bind fun answer _ => hk answer

/-- A placeholder whose step fits leaves the conditionals so that the steps after it fit. -/
theorem planDirective_meets {p : Placeholder} {d : Directive} {w : WalkState}
    {rest : List ControlStep} (hp : .placeholder p ∈ layer.segments) (hd : p.directive = some d)
    (h : Closes w.stack.flags (.directive d p.entry :: rest)) :
    (planDirective layer text w p d).Meets (· ∈ layer.references)
      (RenderError.IsArity layer.name) fun w' => Closes w'.stack.flags rest := by
  -- what the stack makes of the step, if the conditional is shown as told
  have htake : ∀ visible, ∃ s', w.stack.takeStep (.directive d p.entry, visible) = .ok s'
      ∧ Closes s'.flags rest := fun visible => (w.stack.closes_cons_iff _ visible rest).1 h
  unfold planDirective
  have hcheck : (Plan.ofExcept (checkArity layer text p d)).Meets (· ∈ layer.references)
      (RenderError.IsArity layer.name) fun _ => True :=
    Plan.meets_ofExcept (fun _ _ => trivial) fun e he => isArity_of_checkArity text he
  refine hcheck.bind fun _ _ => ?_
  cases hop : d.operator with
  | insert =>
      obtain ⟨s', htaken, hrest⟩ := htake true
      rw [OpenConditionals.takeStep_plain (Or.inl hop)] at htaken
      obtain rfl := Except.ok.inj htaken
      dsimp only
      split
      · exact meets_require text hp hd (by rw [hop]; rfl) fun answer => hrest
      · exact hrest
  | comment =>
      obtain ⟨s', htaken, hrest⟩ := htake true
      rw [OpenConditionals.takeStep_plain (Or.inr hop)] at htaken
      obtain rfl := Except.ok.inj htaken
      exact hrest
  | ifTrue | ifFalse =>
      obtain ⟨s', htaken, hrest⟩ := htake false
      rw [OpenConditionals.takeStep_opening (by simp [hop])] at htaken
      obtain rfl := Except.ok.inj htaken
      dsimp only
      split
      · exact meets_require text hp hd (by rw [hop]; rfl) fun answer => hrest
      · exact hrest
  | otherwise =>
      obtain ⟨s', htaken, hrest⟩ := htake false
      rw [OpenConditionals.takeStep_otherwise hop] at htaken
      dsimp only
      rw [htaken]
      exact hrest
  | endBlock =>
      obtain ⟨s', htaken, hrest⟩ := htake false
      rw [OpenConditionals.takeStep_endBlock hop] at htaken
      dsimp only
      cases hpop : w.stack.pop p.entry with
      | error e =>
          rw [hpop] at htaken
          exact absurd htaken (by simp [Except.map])
      | ok popped =>
          rw [hpop] at htaken
          obtain rfl := Except.ok.inj htaken
          exact hrest

/-- A segment whose step fits, if it takes one, does so as well. -/
theorem planSegment_meets {segment : Segment} {w : WalkState} {rest : List Segment}
    (hmem : segment ∈ layer.segments)
    (h : Closes w.stack.flags ((segment :: rest).filterMap Segment.step?)) :
    (planSegment layer text w segment).Meets (· ∈ layer.references)
      (RenderError.IsArity layer.name)
      fun w' => Closes w'.stack.flags (rest.filterMap Segment.step?) := by
  cases segment with
  | text id =>
      show Closes (w.write (layer.arena.get id).value).stack.flags _
      have hstack : (w.write (layer.arena.get id).value).stack = w.stack := by
        unfold WalkState.write
        split <;> rfl
      rw [hstack]
      exact h
  | placeholder p =>
      unfold planSegment
      dsimp only
      cases hd : p.directive with
      | none =>
          rw [List.filterMap_cons] at h
          simp only [Segment.step?, hd, Option.map_none] at h
          exact h
      | some d =>
          rw [List.filterMap_cons] at h
          simp only [Segment.step?, hd, Option.map_some] at h
          exact planDirective_meets text hmem hd h

/-- Segments whose steps close what is open leave nothing open. -/
theorem foldlM_planSegment_meets (segments : List Segment) :
    ∀ w : WalkState, (∀ segment ∈ segments, segment ∈ layer.segments) →
      Closes w.stack.flags (segments.filterMap Segment.step?) →
        (segments.foldlM (planSegment layer text) w).Meets (· ∈ layer.references)
          (RenderError.IsArity layer.name) fun w' => w'.stack.flags = [] := by
  induction segments with
  | nil => exact fun w _ hclosed => hclosed
  | cons segment rest ih =>
      intro w hmem hclosed
      obtain ⟨hsegment, hrest⟩ := List.forall_mem_cons.1 hmem
      rw [List.foldlM_cons]
      exact (planSegment_meets text hsegment hclosed).bind fun w' hw' => ih w' hrest hw'

/-- **An accepted layer asks for its references**, and nothing but the number of parts of a
placeholder stops it. -/
theorem planWalk_meets (h : layer.Accepted) :
    (planWalk layer text).Meets (· ∈ layer.references) (RenderError.IsArity layer.name)
      fun _ => True := by
  obtain ⟨items, hitems⟩ := h.nested
  have hwalk := foldlM_planSegment_meets text layer.segments { stack := { layer := layer.name } }
    (fun _ hmem => hmem) hitems.closes
  unfold planWalk
  refine hwalk.bind fun w hw => ?_
  rw [w.stack.finish_eq_ok_iff.2 hw]
  trivial

end Layer

/-! ## §3. Names. -/

/-- The errors that expanding a name can have of its own. -/
def RenderError.IsOwn : RenderError → Prop
  | .tooFewParts _ _ | .tooManyParts _ _ | .getterFailed _ _ | .faultyLayer _ => True
  | _ => False

theorem RenderError.IsArity.isOwn {layer : String} {e : RenderError} (h : e.IsArity layer) :
    e.IsOwn := by
  unfold IsArity at h
  split at h
  · trivial
  · trivial
  · exact h.elim

namespace Renderer

/-- The first name leads to a text that is accepted and refers to the second name. -/
def Refers (r : Renderer) (name other : String) : Prop :=
  ∃ entry text layer, r.data.lookup name = some entry ∧ entry.value = .string text
    ∧ ParsedLayer.parse name text r.options.tags = .ok layer ∧ other ∈ layer.references

variable (r : Renderer)

/-- **A name asks for what its layer refers to**, if no getter changes the text, and stops with
errors of its own only, whatever was called before. -/
theorem plan_meets (previous : List CallRecord) (name : String) :
    (r.plan previous name).Meets (fun other => r.getters = .none → r.Refers name other)
      RenderError.IsOwn fun _ => True := by
  unfold plan
  cases hl : r.data.lookup name with
  | none => trivial
  | some entry =>
      dsimp only
      cases hv : entry.value with
      | string value =>
          -- the text is that of the source, unless there is a getter
          have htext : (r.planText previous entry name value).Meets
              (fun other => r.getters = .none → r.Refers name other) RenderError.IsOwn
              fun text => r.getters = .none → text = value := by
            unfold planText
            cases hg : r.getters.find name with
            | none => exact fun _ => rfl
            | some getter =>
                dsimp only
                rcases getter (r.callFor previous entry name value) with messages | text
                · trivial
                · intro hnone
                  rw [hnone] at hg
                  exact absurd hg (by simp [GetterSet.find])
          refine htext.bind fun text hsame => ?_
          unfold parse
          cases hparse : ParsedLayer.parse name text r.options.tags with
          | error report => trivial
          | ok layer =>
              refine (planWalk_meets text (ParsedLayer.accepted_of_parse hparse)).mono
                (fun other hother hnone => ?_) (fun e he => he.isOwn) fun _ h => h
              rw [hsame hnone] at hparse
              exact ⟨entry, value, layer, hl, hv, hparse, hother⟩
      | null | bool _ | number _ | array _ | object _ => trivial

/-- **What can stop a run**: its depth, a cycle, or an error that expanding a name has of its
own. -/
theorem resolve_halts_by (depth : Nat) :
    ∀ name s halt, ((r.resolve depth name).outcome s).1 = .error halt →
      halt = .tooDeep ∨ ∃ e, halt = .error e
        ∧ (e.IsOwn ∨ ∃ chain, e = .cyclicDependence chain) := by
  induction depth with
  | zero =>
      intro name s halt hs
      exact Or.inl (Except.error.inj hs).symm
  | succ depth ih =>
      intro name s halt hs
      rw [outcome_resolve] at hs
      cases hc : s.cached name with
      | some result =>
          rw [hc] at hs
          exact absurd hs (by simp)
      | none =>
          rw [hc] at hs
          dsimp only at hs
          by_cases hp : name ∈ s.inProgress
          · rw [if_pos hp] at hs
            exact Or.inr ⟨_, (Except.error.inj hs).symm, Or.inr ⟨_, rfl⟩⟩
          · rw [if_neg hp] at hs
            exact (r.plan_meets s.calls.toList name).halts (fun _ => True) (fun _ _ _ => trivial)
              (fun other _ t _ => ih other t) (fun e he => Or.inr ⟨e, rfl, Or.inl he⟩) _ trivial
              halt hs

/-- A render is refused for its options or because it has nothing to start with. -/
theorem refused_of_refusal? {e : RenderError} (h : r.refusal? = some e) :
    (∃ reason, e = .invalidOptions reason) ∨ ∃ name, e = .missingEntryPoint name := by
  unfold refusal? at h
  split at h
  · exact Or.inl ⟨_, (Option.some.inj h).symm⟩
  · split at h
    · exact Or.inr ⟨_, (Option.some.inj h).symm⟩
    · exact absurd h (by simp)

/-! ## §4. Control sequences. -/

/-- **Builder, open conditionals and grammar agree.**  They accept the same sequences of texts and
directives, whatever the conditionals show; where they refuse one, the first fault of the builder
and the error of the open conditionals are of the same kind and name the same placeholders.  So
no render fails for its control sequences: what could fail there is refused with its layer. -/
theorem control_sequences_agree :
    (∀ (layer : String) (steps : List (ControlStep × Bool)),
      let faults := ((steps.map Prod.fst).foldl TreeBuilder.addStep {}).allFaults
      let followed := ({ layer } : OpenConditionals).follow steps
      (faults = [] ↔ followed = .ok ())
        ∧ (faults = [] ↔ ∃ items, Nested (steps.map Prod.fst) items)
        ∧ ∀ e, followed = .error e →
            ∃ fault, faults.head? = some fault ∧ SameFailure fault e)
      ∧ ∀ (r : Renderer) (depth : Nat) (layer entry : String) (entries : List String),
          (r.renderWithin depth).1 ≠ .error (.error (.brokenControlSequence layer entry))
            ∧ (r.renderWithin depth).1 ≠ .error (.error (.twoElseInRow layer entry))
            ∧ (r.renderWithin depth).1 ≠ .error (.error (.unclosedOperators layer entries)) := by
  constructor
  · intro layer steps faults followed
    have hmirror := (mirrors_start layer).follow steps
    have hclosed := OpenConditionals.follow_eq_ok_iff steps { layer }
    have hnested := closes_iff_nested (steps.map Prod.fst)
    -- the builder has no fault exactly where the open conditionals come to the end
    have hiff : faults = [] ↔ followed = .ok () := by
      cases hfollow : ({ layer } : OpenConditionals).follow steps with
      | ok u =>
          rw [hfollow] at hmirror
          exact iff_of_true hmirror hfollow
      | error e =>
          rw [hfollow] at hmirror
          obtain ⟨fault, hfault, -⟩ := hmirror
          refine iff_of_false (fun hnil => ?_) (by simp [followed, hfollow])
          exact absurd hfault (by simp [show ((steps.map Prod.fst).foldl TreeBuilder.addStep
            {}).allFaults = [] from hnil])
    refine ⟨hiff, hiff.trans (hclosed.trans hnested), fun e he => ?_⟩
    rw [show ({ layer } : OpenConditionals).follow steps = .error e from he] at hmirror
    exact hmirror
  · intro r depth layer entry entries
    -- a render is refused, stopped by a cycle or by an error of a layer that it expands
    have hcauses : ∀ e, (r.renderWithin depth).1 = .error (.error e) →
        e.IsOwn ∨ (∃ chain, e = .cyclicDependence chain) ∨ r.refusal? = some e := by
      intro e he
      rw [renderWithin_eq] at he
      cases hrefusal : r.refusal? with
      | some reason =>
          rw [hrefusal] at he
          exact Or.inr (Or.inr (congrArg some (Halt.error.inj (Except.error.inj he))))
      | none =>
          rw [hrefusal] at he
          rcases r.resolve_halts_by depth _ _ _ he with hdeep | ⟨e', he', hcause⟩
          · exact absurd hdeep (by simp)
          · obtain rfl := Halt.error.inj he'
            exact hcause.imp_right Or.inl
    refine ⟨fun h => ?_, fun h => ?_, fun h => ?_⟩ <;>
    · rcases hcauses _ h with hown | ⟨chain, hchain⟩ | hreason
      · exact hown
      · exact absurd hchain (by simp)
      · rcases r.refused_of_refusal? hreason with ⟨_, hr⟩ | ⟨_, hr⟩ <;> exact absurd hr (by simp)

/-- An `unless` with two `else` inside an `if`, neither of which is closed. -/
def elseTwice : List (ControlStep × Bool) :=
  [(.directive ⟨.ifTrue, true, 2, some 1⟩ "\x7b\x7bif a\x7d\x7d", true),
   (.directive ⟨.ifFalse, true, 2, some 3⟩ "\x7b\x7bunless b\x7d\x7d", false),
   (.directive ⟨.otherwise, true, 1, none⟩ "\x7b\x7belse\x7d\x7d", true), (.text 4, true),
   (.directive ⟨.otherwise, true, 1, none⟩ "\x7b\x7bElse\x7d\x7d", true)]

theorem control_sequences_agree_elseTwice :
    ({ layer := "start" } : OpenConditionals).follow elseTwice
        = .error (.twoElseInRow "start" "\x7b\x7bElse\x7d\x7d")
      ∧ ∃ fault,
          ((elseTwice.map Prod.fst).foldl TreeBuilder.addStep {}).allFaults.head? = some fault
          ∧ SameFailure fault (.twoElseInRow "start" "\x7b\x7bElse\x7d\x7d") := by
  have hfollow : ({ layer := "start" } : OpenConditionals).follow elseTwice
      = .error (.twoElseInRow "start" "\x7b\x7bElse\x7d\x7d") := rfl
  exact ⟨hfollow, (control_sequences_agree.1 "start" elseTwice).2.2 _ hfollow⟩

end Renderer

end LayerTemplates
