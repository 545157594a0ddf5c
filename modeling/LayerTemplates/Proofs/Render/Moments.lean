/-
  LayerTemplates.Proofs.Render.Moments
  ────────────────────────────────────
  The moments of a run: the states of the bookkeeping between any two operations on it.

  A run enters layers, notes the calls of getters, leaves the layers again and keeps their
  results.  Its moments are listed along the plans that it follows, and they are those of the
  run: every moment comes from the one before it by one of the four operations, and the last
  one is the state that the run leaves.

  Main statements:
    * `Renderer.resolve_traverses` — resolving a name passes through its moments.
    * `Renderer.renderWithin_traverses` — so does a whole render.
    * `Plan.Meets.forall_moments` — what holds at the moments of the answers of a plan.
-/
import LayerTemplates.Proofs.Render.Asking
import LayerTemplates.Proofs.Render.Resolving

namespace LayerTemplates

/-! ## §1. Operations. -/

namespace RenderState

/-- One operation on the bookkeeping. -/
inductive Step : RenderState → RenderState → Prop
  | enter {s t : RenderState} {name : String} (entered : s.enter name = .ok t) : Step s t
  | noteCall (s : RenderState) (call : CallRecord) : Step s (s.noteCall call)
  | leave (s : RenderState) (name : String) : Step s (s.leave name)
  | store (s : RenderState) (name : String) (result : Rendered) : Step s (s.store name result)

/-- Operations lead from a state through others, of which the last is the one told. -/
inductive Traverses : RenderState → List RenderState → RenderState → Prop
  | nil (s : RenderState) : Traverses s [] s
  | cons {s t u : RenderState} {states : List RenderState} (step : Step s t)
      (rest : Traverses t states u) : Traverses s (t :: states) u

variable {s t u : RenderState} {states more : List RenderState}

/-- A run goes on from the state in which another one has ended. -/
theorem Traverses.append (h : Traverses s states t) (h' : Traverses t more u) :
    Traverses s (states ++ more) u := by
  induction h with
  | nil s => exact h'
  | cons step rest ih => exact .cons step (ih h')

/-- A layer is entered unless it is in progress, and the state is then determined. -/
theorem enter_eq_ok_iff {name : String} :
    s.enter name = .ok t ↔ name ∉ s.inProgress ∧ s.entered name = t := by
  unfold enter
  split
  · next hin => simp [hin]
  · next hin => simp [hin, entered]

end RenderState

/-! ## §2. The moments of a run. -/

/-- The moments of the run of a plan, after its first state; `inside` lists those of the answer
to a name. -/
def Plan.moments {σ α : Type} (resolve : String → Run σ Rendered) (inside : String → σ → List σ) :
    Plan α → σ → List σ
  | .done _, _ => []
  | .stop _, _ => []
  | .ask name next, s =>
      inside name s ++ match (resolve name).outcome s with
        | (.ok answer, s') => (next answer).moments resolve inside s'
        | (.error _, _) => []

/-- The moments of leaving a layer whose expansion ended as told. -/
def RenderState.leaving (s : RenderState) (name : String) :
    Except Halt Rendered → List RenderState
  | .ok result => [s.leave name, (s.leave name).store name result]
  | .error _ => [s.leave name]

namespace Renderer

/-- The moments of resolving a name, after its first state. -/
def moments (r : Renderer) : Nat → String → RenderState → List RenderState
  | 0, _, _ => []
  | depth + 1, name, s =>
      match s.cached name with
      | some _ => []
      | none =>
          if name ∈ s.inProgress then []
          else
            let entered := s.entered name
            let noted := r.noted name entered
            let plan := r.plan s.calls.toList name
            let (o, t) := (plan.run (r.resolve depth)).outcome noted
            entered :: (r.callOf? name).toList.map entered.noteCall
              ++ plan.moments (r.resolve depth) (r.moments depth) noted
              ++ t.leaving name o

/-- The moments of a render; one that is refused has its first state only. -/
def renderMoments (r : Renderer) (depth : Nat) : List RenderState :=
  let fresh : RenderState := { fast := r.options.fast }
  match r.refusal? with
  | some _ => [fresh]
  | none => fresh :: r.moments depth r.options.entryPoint fresh

end Renderer

/-! ## §3. They are those of the run. -/

section Passing

open RenderState

/-- Running a plan passes through the moments of every answer that it gets, up to the one that halts
it. -/
theorem Plan.run_traverses {α : Type} {resolve : String → Run RenderState Rendered}
    {inside : String → RenderState → List RenderState}
    (h : ∀ name s, Traverses s (inside name s) ((resolve name).outcome s).2) :
    ∀ (p : Plan α) (s : RenderState),
      Traverses s (p.moments resolve inside s) ((p.run resolve).outcome s).2 := by
  intro p
  induction p with
  | done a => intro s; exact .nil s
  | stop e => intro s; exact .nil s
  | ask name next ih =>
      intro s
      have hname := h name s
      rw [outcome_ask]
      unfold Plan.moments
      rcases ha : (resolve name).outcome s with ⟨halt | answer, s'⟩ <;> rw [ha] at hname
      · dsimp only
        rw [List.append_nil]
        exact hname
      · exact hname.append (ih answer s')

/-- A layer is left in one operation, and in a second one its result is kept. -/
theorem RenderState.traverses_leaving (s : RenderState) (name : String)
    (o : Except Halt Rendered) : Traverses s (s.leaving name o) (s.left name o) := by
  have hleave := Step.leave s name
  cases o with
  | error halt => exact .cons hleave (.nil _)
  | ok result => exact .cons hleave (.cons (.store _ name result) (.nil _))

namespace Renderer

variable (r : Renderer)

/-- A getter is called in one operation, and a layer without one takes none. -/
theorem traverses_noted (name : String) (s : RenderState) :
    Traverses s ((r.callOf? name).toList.map s.noteCall) (r.noted name s) := by
  unfold noted
  cases r.callOf? name with
  | none => exact .nil s
  | some call => exact .cons (.noteCall s call) (.nil _)

/-- **Resolving a name passes through its moments** to the state it leaves. -/
theorem resolve_traverses (depth : Nat) :
    ∀ (name : String) (s : RenderState),
      Traverses s (r.moments depth name s) ((r.resolve depth name).outcome s).2 := by
  induction depth with
  | zero => intro name s; exact .nil s
  | succ depth ih =>
      intro name s
      rw [outcome_resolve, moments]
      cases hc : s.cached name with
      | some result => exact .nil s
      | none =>
          dsimp only
          by_cases hp : name ∈ s.inProgress
          · rw [if_pos hp, if_pos hp]
            exact .nil s
          · rw [if_neg hp, if_neg hp]
            have hentered := Step.enter (enter_eq_ok_iff.2 ⟨hp, rfl⟩)
            have hnoted := r.traverses_noted name (s.entered name)
            have hplan := Plan.run_traverses ih (r.plan s.calls.toList name)
              (r.noted name (s.entered name))
            exact ((Traverses.cons hentered hnoted).append hplan).append (traverses_leaving _ name _)

/-- **A render passes through its moments**, from a fresh state to the one it leaves. -/
theorem renderWithin_traverses (depth : Nat) :
    ∃ states, r.renderMoments depth = { fast := r.options.fast } :: states
      ∧ Traverses { fast := r.options.fast } states (r.renderWithin depth).2 := by
  rw [renderWithin_eq]
  unfold renderMoments
  cases r.refusal? with
  | some e => exact ⟨[], rfl, .nil _⟩
  | none => exact ⟨_, rfl, r.resolve_traverses depth _ _⟩

end Renderer

end Passing

/-! ## §4. What holds at all of them. -/

/-- **What holds at the moments of every answer holds at all moments of a plan**, if resolvers
keep of the state what the answers depend on. -/
theorem Plan.Meets.forall_moments {σ α : Type} {asked : String → Prop}
    {stopped : RenderError → Prop} {result : α → Prop} {p : Plan α}
    (h : p.Meets asked stopped result) {resolve : String → Run σ Rendered}
    {inside : String → σ → List σ} (keeps holds : σ → Prop)
    (hkeeps : ∀ name s, keeps s → keeps ((resolve name).outcome s).2)
    (hinside : ∀ name, asked name → ∀ s, keeps s → ∀ t ∈ inside name s, holds t) :
    ∀ s, keeps s → ∀ t ∈ p.moments resolve inside s, holds t := by
  induction p with
  | done a =>
      intro s _ t ht
      exact absurd ht (by simp [moments])
  | stop e =>
      intro s _ t ht
      exact absurd ht (by simp [moments])
  | ask name next ih =>
      intro s hkept t ht
      have hnext := hkeeps name s hkept
      unfold moments at ht
      rcases List.mem_append.1 ht with hin | hrest
      · exact hinside name h.1 s hkept t hin
      · rcases ha : (resolve name).outcome s with ⟨stop | answer, s'⟩ <;> rw [ha] at hrest hnext
        · exact absurd hrest (by simp)
        · exact ih answer (h.2 answer) s' hnext t hrest

end LayerTemplates
