/-
  LayerTemplates.Proofs.Render.Plan
  ─────────────────────────────────
  Plans: what a layer asks for, and what it makes of the answers.

  A walk knows nothing of the resolver it is given, so all that it can do is to ask for
  names, to stop with an error or to end with a result.  A plan is that behaviour as a
  value.  Running the plan of a layer is walking the layer, whatever the resolver is, and
  what holds of every run of a walk is proved by induction on a plan, with one case for
  each of the three things it can do.

  Main statements:
    * `run_planWalk` — walking a layer is running its plan.
    * `outcome_expand` — so is expanding a name, once the call of a getter is noted.
    * `outcome_resolve` — what resolving a name does to the state, in one equation.
    * `renderWithin_eq` — a render is refused, or it resolves the entry point.
-/
import LayerTemplates.Render.Renderer

namespace LayerTemplates

/-! ## §1. Plans and their runs. -/

/-- What is asked for, one name after another, and what is made of the answers. -/
inductive Plan (α : Type) where
  | done (result : α)
  | stop (e : RenderError)
  | ask (name : String) (next : Rendered → Plan α)

namespace Plan

variable {σ α β : Type}

/-- Goes on with the result of a plan. -/
protected def bind : Plan α → (α → Plan β) → Plan β
  | .done a, f => f a
  | .stop e, _ => .stop e
  | .ask name next, f => .ask name fun answer => (next answer).bind f

instance : Monad Plan where
  pure := .done
  bind := Plan.bind

/-- Stops with an error where there is one. -/
def ofExcept : Except RenderError α → Plan α
  | .ok a => .done a
  | .error e => .stop e

/-- Asks for a name and ends with the answer. -/
def query (name : String) : Plan Rendered := .ask name .done

/-- Follows a plan with a resolver that answers. -/
def run (resolve : String → Run σ Rendered) : Plan α → Run σ α
  | .done a => pure a
  | .stop e => throw (.error e)
  | .ask name next => resolve name >>= fun answer => (next answer).run resolve

/-- Running one plan after another is running them joined: by induction on the first one, below what
it asks for. -/
theorem run_bind (resolve : String → Run σ Rendered) (p : Plan α) (f : α → Plan β) :
    (p >>= f).run resolve = p.run resolve >>= fun a => (f a).run resolve := by
  induction p with
  | done a =>
      show (f a).run resolve = (pure a : Run σ α) >>= fun a => (f a).run resolve
      rw [pure_bind]
  | stop e => rfl
  | ask name next ih =>
      show (resolve name >>= fun answer => (next answer >>= f).run resolve)
        = (resolve name >>= fun answer => (next answer).run resolve) >>= fun a => (f a).run resolve
      rw [bind_assoc]
      congr 1
      funext answer
      exact ih answer

/-- An error stops the run as it stops the plan. -/
theorem run_ofExcept (resolve : String → Run σ Rendered) (e : Except RenderError α) :
    (ofExcept e).run resolve = Run.ofExcept e := by
  cases e <;> rfl

theorem run_query (resolve : String → Run σ Rendered) (name : String) :
    (query name).run resolve = resolve name := by
  show (resolve name >>= fun answer => pure answer) = resolve name
  rw [bind_pure]

/-- A plan for a list is run element by element, whatever the state is that passes through. -/
theorem run_foldlM {ι : Type} (resolve : String → Run σ Rendered) (f : β → ι → Plan β) :
    ∀ (l : List ι) (b : β),
      (l.foldlM f b).run resolve = l.foldlM (fun b i => (f b i).run resolve) b := by
  intro l
  induction l with
  | nil => intro b; rfl
  | cons i l ih =>
      intro b
      rw [List.foldlM_cons, List.foldlM_cons, run_bind]
      congr 1
      funext b'
      exact ih b'

end Plan

/-! ## §2. The plan of a layer. -/

section Layer

variable {σ : Type} (layer : ParsedLayer) (text : String)

/-- What a placeholder plans. -/
def planDirective (w : WalkState) (p : Placeholder) (d : Directive) : Plan WalkState := do
  Plan.ofExcept (checkArity layer text p d)
  match d.operator with
  | .insert =>
      if w.stack.isVisible then
        let name ← Plan.ofExcept (requireTarget layer text p d)
        let result ← Plan.query name
        return { w with output := w.output ++ result.toText }
      else
        return w
  | .ifTrue | .ifFalse =>
      if w.stack.isVisible then
        let name ← Plan.ofExcept (requireTarget layer text p d)
        let result ← Plan.query name
        return { w with stack := w.stack.push d.operator p.entry (takesFirst d.operator result) }
      else
        return { w with stack := w.stack.push d.operator p.entry false }
  | .otherwise =>
      let stack ← Plan.ofExcept (w.stack.flip p.entry)
      return { w with stack }
  | .endBlock =>
      let (_, stack) ← Plan.ofExcept (w.stack.pop p.entry)
      return { w with stack }
  | .comment => return w

/-- What a segment plans. -/
def planSegment (w : WalkState) : Segment → Plan WalkState
  | .text id => return w.write (layer.arena.get id).value
  | .placeholder p =>
      match p.directive with
      | some d => planDirective layer text w p d
      | none => return w

/-- What a layer plans. -/
def planWalk : Plan Rendered := do
  let start : WalkState := { stack := { layer := layer.name } }
  let w ← layer.segments.foldlM (planSegment layer text) start
  Plan.ofExcept w.stack.finish
  return .text w.output

/-- A placeholder asks, stops and goes on exactly where the walk does; it is checked for each
operator, in a visible block and in a hidden one. -/
theorem run_planDirective (resolve : String → Run σ Rendered) (w : WalkState) (p : Placeholder)
    (d : Directive) :
    (planDirective layer text w p d).run resolve = walkDirective layer text resolve w p d := by
  unfold planDirective walkDirective
  rw [Plan.run_bind, Plan.run_ofExcept]
  congr 1
  funext _
  cases d.operator with
  | insert | ifTrue | ifFalse =>
      dsimp only
      split
      · simp only [Plan.run_bind, Plan.run_ofExcept, Plan.run_query]
        rfl
      · rfl
  | otherwise | endBlock =>
      simp only [Plan.run_bind, Plan.run_ofExcept]
      rfl
  | comment => rfl

/-- Text and placeholders without a directive ask for nothing. -/
theorem run_planSegment (resolve : String → Run σ Rendered) (w : WalkState) (segment : Segment) :
    (planSegment layer text w segment).run resolve = walkSegment layer text resolve w segment := by
  cases segment with
  | text id => rfl
  | placeholder p =>
      show (match p.directive with
          | some d => planDirective layer text w p d
          | none => pure w : Plan WalkState).run resolve
        = match p.directive with
          | some d => walkDirective layer text resolve w p d
          | none => pure w
      cases p.directive with
      | none => rfl
      | some d => exact run_planDirective layer text resolve w p d

/-- **Walking a layer is running its plan.** -/
theorem run_planWalk (resolve : String → Run σ Rendered) :
    (planWalk layer text).run resolve = walk layer text resolve := by
  unfold planWalk walk
  simp only [Plan.run_bind, Plan.run_foldlM, run_planSegment, Plan.run_ofExcept]
  rfl

end Layer

/-! ## §3. Outcomes. -/

section Outcome

variable {σ α : Type} (resolve : String → Run σ Rendered) (s : σ)

@[simp] theorem outcome_pure (a : α) : (pure a : Run σ α).outcome s = (.ok a, s) := rfl

@[simp] theorem outcome_throw (h : Halt) : (throw h : Run σ α).outcome s = (.error h, s) := rfl

@[simp] theorem outcome_ofExcept_ok (a : α) :
    (Run.ofExcept (.ok a) : Run σ α).outcome s = (.ok a, s) := rfl

@[simp] theorem outcome_ofExcept_error (e : RenderError) :
    (Run.ofExcept (.error e) : Run σ α).outcome s = (.error (.error e), s) := rfl

@[simp] theorem outcome_get : (get : Run σ σ).outcome s = (.ok s, s) := rfl

@[simp] theorem outcome_set (t : σ) : (set t : Run σ PUnit).outcome s = (.ok ⟨⟩, t) := rfl

@[simp] theorem outcome_observe (run : Run σ α) :
    run.observe.outcome s = (.ok (run.outcome s).1, (run.outcome s).2) := rfl

/-- The second part of a run starts in the state that the first one ends in, and is left out if that
halts. -/
theorem outcome_bind {β : Type} (run : Run σ α) (f : α → Run σ β) :
    (run >>= f).outcome s
      = match run.outcome s with
        | (.ok a, s') => (f a).outcome s'
        | (.error h, s') => (.error h, s') := by
  show (match run s with | (o, s') => (ExceptT.bindCont f o) s') = _
  rcases hr : run s with ⟨o, s'⟩
  have hr' : run.outcome s = (o, s') := hr
  rw [hr']
  cases o <;> rfl

namespace Plan

@[simp] theorem outcome_done (a : α) : ((Plan.done a).run resolve).outcome s = (.ok a, s) := rfl

@[simp] theorem outcome_stop (e : RenderError) :
    ((Plan.stop e : Plan α).run resolve).outcome s = (.error (.error e), s) := rfl

/-- What is asked for is resolved in the state at hand, and the plan goes on with the answer in the
state behind it. -/
theorem outcome_ask (name : String) (next : Rendered → Plan α) :
    ((Plan.ask name next).run resolve).outcome s
      = match (resolve name).outcome s with
        | (.ok answer, s') => ((next answer).run resolve).outcome s'
        | (.error h, s') => (.error h, s') := by
  show (resolve name >>= fun answer => (next answer).run resolve).outcome s = _
  rw [outcome_bind]
  rcases (resolve name).outcome s with ⟨answer | h, s'⟩ <;> rfl

end Plan

end Outcome

/-! ## §4. The plan of a name, and what resolving it does. -/

/-- The state once a layer is entered: it is in progress and counted among the visited. -/
def RenderState.entered (s : RenderState) (name : String) : RenderState :=
  { s with inProgress := s.inProgress ++ [name], visited := s.visited.push name }

/-- Entering a layer calls no getter. -/
@[simp] theorem RenderState.entered_calls (s : RenderState) (name : String) :
    (s.entered name).calls = s.calls := rfl

/-- The state once a layer is left, whose expansion ended as told. -/
def RenderState.left (s : RenderState) (name : String) : Except Halt Rendered → RenderState
  | .ok result => (s.leave name).store name result
  | .error _ => s.leave name

namespace Renderer

variable (r : Renderer)

/-- The text of a layer after the calls made before, or why its getter gives none. -/
def planText (previous : List CallRecord) (entry : Entry) (name value : String) : Plan String :=
  match r.getters.find name with
  | none => .done value
  | some getter =>
      match getter (r.callFor previous entry name value) with
      | .ok text => .done text
      | .error messages => .stop (.getterFailed name messages)

/-- What a name plans after the calls made before: a getter may answer in view of them. -/
def plan (previous : List CallRecord) (name : String) : Plan Rendered :=
  match r.data.lookup name with
  | none => .done r.substitute
  | some entry =>
      match entry.value with
      | .string value => do
          let text ← r.planText previous entry name value
          let layer ← Plan.ofExcept (r.parse name text)
          planWalk layer text
      | value => .done (.data value)

/-- The call of a getter that expanding a name takes, if it takes one. -/
def callOf? (name : String) : Option CallRecord :=
  match r.data.lookup name, r.getters.find name with
  | some { key, value := .string value }, some _ => some { key, name, value }
  | _, _ => none

/-- The state once the call that expanding a name takes is noted. -/
def noted (name : String) (s : RenderState) : RenderState :=
  match r.callOf? name with
  | some call => s.noteCall call
  | none => s

/-- The call that expanding a name takes is noted under that name. -/
theorem callOf?_name {name : String} {call : CallRecord} (h : r.callOf? name = some call) :
    call.name = name := by
  unfold callOf? at h
  split at h
  · obtain rfl := Option.some.inj h
    rfl
  · exact absurd h (by simp)

/-- Expanding a name that takes a call notes this one. -/
theorem noted_of_callOf? {name : String} {call : CallRecord} (h : r.callOf? name = some call)
    (s : RenderState) : r.noted name s = s.noteCall call := by
  unfold noted
  rw [h]

/-- Expanding a name that takes no call notes none. -/
theorem noted_eq_self {name : String} (h : r.callOf? name = none) (s : RenderState) :
    r.noted name s = s := by
  unfold noted
  rw [h]

/-- **Expanding a name notes the call it takes and runs its plan**, that of the calls before. -/
theorem outcome_expand (resolve : String → Run RenderState Rendered) (name : String)
    (s : RenderState) :
    (r.expand resolve name).outcome s
      = ((r.plan s.calls.toList name).run resolve).outcome (r.noted name s) := by
  -- the data and the getters decide which of the three branches is taken, on both sides alike
  unfold expand plan noted callOf?
  rcases hl : r.data.lookup name with _ | ⟨key, value⟩
  · rfl
  cases value with
  | string value =>
      dsimp only
      unfold layerText planText
      rcases hg : r.getters.find name with _ | getter
      · dsimp only
        simp only [pure_bind, Plan.run_bind, Plan.run_ofExcept, run_planWalk]
        rfl
      · dsimp only
        rw [bind_assoc, outcome_bind, outcome_get]
        dsimp only
        rcases getter (r.callFor s.calls.toList ⟨key, .string value⟩ name value)
          with messages | text
        · rfl
        · simp only [Plan.run_bind, Plan.run_ofExcept, run_planWalk]
          rfl
  | null | bool _ | number _ | array _ | object _ => rfl

/-- **What resolving a name does**: a result that was kept is used, a layer in progress is a
cycle, and every other layer is entered, planned and left. -/
theorem outcome_resolve (depth : Nat) (name : String) (s : RenderState) :
    (r.resolve (depth + 1) name).outcome s
      = match s.cached name with
        | some result => (.ok result, s)
        | none =>
            if name ∈ s.inProgress then
              (.error (.error (.cyclicDependence (s.inProgress ++ [name]))), s)
            else
              let (o, s') := ((r.plan s.calls.toList name).run (r.resolve depth)).outcome
                (r.noted name (s.entered name))
              (o, s'.left name o) := by
  -- operation by operation: look in the cache, enter, expand, leave
  rw [resolve, outcome_bind, outcome_get]
  dsimp only
  cases s.cached name with
  | some result => rfl
  | none =>
      dsimp only
      rw [outcome_bind, outcome_get]
      dsimp only
      unfold RenderState.enter
      split
      · rfl
      · rw [outcome_bind, outcome_ofExcept_ok]
        dsimp only
        rw [outcome_bind, outcome_set]
        dsimp only
        rw [outcome_bind, outcome_observe, ← RenderState.entered, outcome_expand,
          RenderState.entered_calls]
        rcases ((r.plan s.calls.toList name).run (r.resolve depth)).outcome
          (r.noted name (s.entered name)) with ⟨result | halt, s'⟩ <;> rfl

/-- A name that is neither kept nor in progress is planned between entering and leaving it. -/
theorem outcome_resolve_new (depth : Nat) {name : String} {s : RenderState}
    (hc : s.cached name = none) (hp : name ∉ s.inProgress) {o : Except Halt Rendered}
    {t : RenderState}
    (h : ((r.plan s.calls.toList name).run (r.resolve depth)).outcome
      (r.noted name (s.entered name)) = (o, t)) :
    (r.resolve (depth + 1) name).outcome s = (o, t.left name o) := by
  rw [outcome_resolve, hc]
  dsimp only
  rw [if_neg hp, h]

/-! ## §5. What plans depend on. -/

section Dependence

variable {r} {r' : Renderer} {previous previous' : List CallRecord} {name : String}

/-- Two renderers plan the same for a name if the source, the options that count and the getter in
charge are the same, and the getter answers both alike. -/
theorem plan_congr (hlookup : r'.data.lookup name = r.data.lookup name)
    (hmissing : r'.options.missing = r.options.missing) (htags : r'.options.tags = r.options.tags)
    (hgetters : r'.getters = r.getters)
    (hanswer : ∀ getter, r.getters.find name = some getter → ∀ entry value,
      getter (r'.callFor previous' entry name value)
        = getter (r.callFor previous entry name value)) :
    r'.plan previous' name = r.plan previous name := by
  have hsubstitute : r'.substitute = r.substitute := by
    unfold substitute
    rw [hmissing]
  have hparse : ∀ text, r'.parse name text = r.parse name text := by
    intro text
    unfold parse
    rw [htags]
  have htext : ∀ entry value, r'.planText previous' entry name value
      = r.planText previous entry name value := by
    intro entry value
    unfold planText
    rw [hgetters]
    cases hfind : r.getters.find name with
    | none => rfl
    | some getter =>
        dsimp only
        rw [hanswer getter hfind entry value]
  unfold plan
  rw [hlookup, hsubstitute]
  simp only [hparse, htext]

end Dependence

end Renderer

/-- No getter of the set goes by the calls that were made before: it keeps no state. -/
def GetterSet.IgnoresPast (s : GetterSet) : Prop :=
  ∀ (name : String) (getter : Getter), s.find name = some getter →
    ∀ (call : GetterCall) (previous : List CallRecord), getter { call with previous } = getter call

/-- Where there are no getters, none of them keeps a state. -/
theorem GetterSet.ignoresPast_none : GetterSet.none.IgnoresPast := by
  intro name getter hfind
  exact absurd hfind (by simp [GetterSet.find])

namespace Renderer

variable (r : Renderer)

/-- What a name plans is the same whatever was called before, if no getter goes by that. -/
theorem plan_past (h : r.getters.IgnoresPast) (previous previous' : List CallRecord)
    (name : String) : r.plan previous name = r.plan previous' name :=
  plan_congr rfl rfl rfl rfl fun getter hfind entry value =>
    h name getter hfind (r.callFor previous' entry name value) previous

/-! ## §6. Whole renders. -/

/-- Why a render does not start, if it does not. -/
def refusal? : Option RenderError :=
  match r.options.validate with
  | .error reason => some (.invalidOptions reason)
  | .ok () =>
      match r.data.lookup r.options.entryPoint with
      | none => some (.missingEntryPoint r.options.entryPoint)
      | some _ => none

/-- A render is refused, or it resolves the entry point from a fresh state. -/
theorem renderWithin_eq (depth : Nat) :
    r.renderWithin depth
      = match r.refusal? with
        | some e => (.error (.error e), { fast := r.options.fast })
        | none => (r.resolve depth r.options.entryPoint).outcome { fast := r.options.fast } := by
  unfold renderWithin refusal?
  cases r.options.validate with
  | error reason => rfl
  | ok _ => cases r.data.lookup r.options.entryPoint <;> rfl

end Renderer

end LayerTemplates
