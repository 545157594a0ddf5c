/-
  LayerTemplates.Proofs.Render.Requests
  ─────────────────────────────────────
  The requests of a run: every name that is asked for, with the state that it is asked for
  from.

  A render requests its entry point.  A request that is answered neither from the results kept
  nor with a cycle enters a layer, and the plan of that layer makes further requests, one after
  another.  So what holds of the first request, and passes from a request to those that its
  layer makes, holds of all requests of a render.

  Main statements:
    * `Plan.Meets.asked` — what a plan asks for in a run is of the kind that it asks for.
    * `Plan.Meets.ends` — how the run of a plan ends.
    * `mem_visited_iff` — the layers visited are those that requests enter.
    * `Requested.keeps` — what requests pass on holds of all of them.
    * `Requested.outcome_ne` — what stops one of them stops the render.
    * `Requested.refers` — without getters the names requested are the entry point and
      references.
-/
import Mathlib.Logic.Relation
import LayerTemplates.Proofs.Render.Asking
import LayerTemplates.Proofs.Render.Resolving

namespace LayerTemplates

/-! ## §1. What the run of a plan asks for. -/

namespace Plan

variable {σ α : Type} {resolve : String → Run σ Rendered}

/-- A plan that is run from a state asks for a name from another state. -/
inductive Asks (resolve : String → Run σ Rendered) : Plan α → σ → String → σ → Prop
  | first (name : String) (next : Rendered → Plan α) (s : σ) :
      Asks resolve (.ask name next) s name s
  /-- Once a name is answered the rest of the plan may ask. -/
  | later {name other : String} {next : Rendered → Plan α} {s s' t : σ} {answer : Rendered}
      (answered : (resolve name).outcome s = (.ok answer, s'))
      (rest : Asks resolve (next answer) s' other t) :
      Asks resolve (.ask name next) s other t

variable {p : Plan α} {name : String} {s t : σ}

/-- A plan that asks, and is not answered, asks for nothing else. -/
theorem asks_ask_of_error {next : Rendered → Plan α} {other : String} {s' : σ} {halt : Halt}
    (ha : (resolve name).outcome s = (.error halt, s')) :
    (ask name next).Asks resolve s other t ↔ other = name ∧ t = s := by
  constructor
  · intro hasks
    cases hasks with
    | first => exact ⟨rfl, rfl⟩
    | later answered _ =>
        rw [ha] at answered
        exact absurd (Prod.mk.inj answered).1 (by simp)
  · rintro ⟨rfl, rfl⟩
    exact .first _ next _

/-- A plan that asks, and is answered, asks for what the rest of it asks for as well. -/
theorem asks_ask_of_ok {next : Rendered → Plan α} {other : String} {s' : σ} {answer : Rendered}
    (ha : (resolve name).outcome s = (.ok answer, s')) :
    (ask name next).Asks resolve s other t
      ↔ (other = name ∧ t = s) ∨ (next answer).Asks resolve s' other t := by
  constructor
  · intro hasks
    cases hasks with
    | first => exact Or.inl ⟨rfl, rfl⟩
    | later answered rest =>
        rw [ha] at answered
        obtain ⟨ho, rfl⟩ := Prod.mk.inj answered
        obtain rfl := Except.ok.inj ho
        exact Or.inr rest
  · rintro (⟨rfl, rfl⟩ | rest)
    · exact .first _ next _
    · exact .later ha rest

/-- **What a plan asks for in a run is of the kind that it asks for.** -/
theorem Meets.asked {asked : String → Prop} {stopped : RenderError → Prop} {result : α → Prop}
    (h : p.Meets asked stopped result) (hasks : p.Asks resolve s name t) : asked name := by
  induction hasks with
  | first name next s => exact h.1
  | @later name other next s s' t answer _ _ ih => exact ih (h.2 answer)

/-- What resolvers keep of the state holds wherever a plan asks. -/
theorem Asks.keeps {keeps : σ → Prop}
    (hkeeps : ∀ name s, keeps s → keeps ((resolve name).outcome s).2)
    (hasks : p.Asks resolve s name t) : keeps s → keeps t := by
  induction hasks with
  | first name next s => exact id
  | @later name other next s s' t answer answered _ ih =>
      intro hs
      apply ih
      have hnext := hkeeps name s hs
      rwa [answered] at hnext

/-- What stops the answer to a question stops the run. -/
theorem Asks.outcome_ne {halt : Halt} (hasks : p.Asks resolve s name t)
    (hrun : ((p.run resolve).outcome s).1 ≠ .error halt) :
    ((resolve name).outcome t).1 ≠ .error halt := by
  induction hasks with
  | first name next s =>
      intro hstop
      apply hrun
      rw [outcome_ask]
      rcases ha : (resolve name).outcome s with ⟨stop | answer, s'⟩ <;> rw [ha] at hstop
      · exact congrArg Except.error (Except.error.inj hstop)
      · exact absurd hstop (by simp)
  | @later name other next s s' t answer answered _ ih =>
      apply ih
      rwa [outcome_ask, answered] at hrun

/-- What the resolver keeps of the state every run keeps. -/
theorem run_keeps {keeps : σ → Prop}
    (hkeeps : ∀ name s, keeps s → keeps ((resolve name).outcome s).2) (p : Plan α) :
    ∀ s, keeps s → keeps ((p.run resolve).outcome s).2 := by
  induction p with
  | done a => intro s hs; exact hs
  | stop e => intro s hs; exact hs
  | ask name next ih =>
      intro s hs
      have hnext := hkeeps name s hs
      rw [outcome_ask]
      rcases ha : (resolve name).outcome s with ⟨halt | answer, s'⟩ <;> rw [ha] at hnext
      · exact hnext
      · exact ih answer s' hnext

/-- A run of the plan asks for something and is stopped by the answer. -/
def PassesOn (p : Plan α) (resolve : String → Run σ Rendered) (s : σ) (halt : Halt) : Prop :=
  ∃ name t, p.Asks resolve s name t ∧ ((resolve name).outcome t).1 = .error halt

/-- **How the run of a plan ends**: with a result or an error of the plan, or with what has stopped
one of the answers. -/
theorem Meets.ends {asked : String → Prop} {stopped : RenderError → Prop} {result : α → Prop}
    (h : p.Meets asked stopped result) (resolve : String → Run σ Rendered) :
    ∀ s, match ((p.run resolve).outcome s).1 with
      | .ok a => result a
      | .error halt => p.PassesOn resolve s halt ∨ ∃ e, halt = .error e ∧ stopped e := by
  induction p with
  | done a => exact fun _ => h
  | stop e => exact fun _ => Or.inr ⟨e, rfl, h⟩
  | ask name next ih =>
      intro s
      rw [outcome_ask]
      rcases ha : (resolve name).outcome s with ⟨halt | answer, s'⟩
      · exact Or.inl ⟨name, s, .first name next s, by rw [ha]⟩
      · -- the name was answered, so it is the rest of the plan that ends
        dsimp only
        have hrest := ih answer (h.2 answer) s'
        rcases hrun : (((next answer).run resolve).outcome s').1 with halt | a <;> rw [hrun] at hrest
        · rcases hrest with ⟨other, t, hasks, hstop⟩ | hown
          · exact Or.inl ⟨other, t, .later ha hasks, hstop⟩
          · exact Or.inr hown
        · exact hrest

end Plan

/-! ## §2. Requests. -/

/-- A name that is asked for from a state, when references may be followed so deep. -/
structure Request where
  depth : Nat
  name : String
  state : RenderState

namespace Request

/-- A request that finds no result kept and no cycle enters the layer. -/
def Enters (q : Request) : Prop :=
  q.depth ≠ 0 ∧ q.state.cached q.name = none ∧ q.name ∉ q.state.inProgress

/-- What comes of a request. -/
def outcome (q : Request) (r : Renderer) : Except Halt Rendered × RenderState :=
  (r.resolve q.depth q.name).outcome q.state

end Request

namespace Renderer

variable (r : Renderer)

/-- The layer that the first request enters makes the second one. -/
inductive Makes : Request → Request → Prop
  | intro {depth : Nat} {name other : String} {s t : RenderState}
      (uncached : s.cached name = none) (fresh : name ∉ s.inProgress)
      (asks : (r.plan s.calls.toList name).Asks (r.resolve depth) (r.noted name (s.entered name))
        other t) :
      Makes ⟨depth + 1, name, s⟩ ⟨depth, other, t⟩

/-- The request that a render starts with. -/
def firstRequest (depth : Nat) : Request :=
  ⟨depth, r.options.entryPoint, { fast := r.options.fast }⟩

/-- A render that is not refused makes the request, itself or through layers that it enters. -/
structure Requested (depth : Nat) (q : Request) : Prop where
  accepted : r.refusal? = none
  made : Relation.ReflTransGen r.Makes (r.firstRequest depth) q

variable {r} {depth : Nat} {q : Request}

/-- **What requests pass on holds of all of them.** -/
theorem Requested.keeps (holds : Request → Prop) (h : r.Requested depth q)
    (first : holds (r.firstRequest depth))
    (passes : ∀ q q', holds q → r.Makes q q' → holds q') : holds q := by
  obtain ⟨-, hmade⟩ := h
  induction hmade with
  | refl => exact first
  | tail _ hmakes ih => exact passes _ _ ih hmakes

/-- What stops a request stops the one that makes it. -/
theorem Makes.outcome_ne {q' : Request} {halt : Halt} (h : r.Makes q q')
    (hne : (q.outcome r).1 ≠ .error halt) : (q'.outcome r).1 ≠ .error halt := by
  cases h with
  | @intro depth name other s t uncached fresh asks =>
      unfold Request.outcome at hne
      rw [outcome_resolve, uncached] at hne
      dsimp only at hne
      rw [if_neg fresh] at hne
      exact asks.outcome_ne hne

/-- **What stops a request stops the render.** -/
theorem Requested.outcome_ne {halt : Halt} (h : r.Requested depth q)
    (hne : (r.renderWithin depth).1 ≠ .error halt) : (q.outcome r).1 ≠ .error halt := by
  refine h.keeps (fun q => (q.outcome r).1 ≠ .error halt) ?_ ?_
  · rw [renderWithin_eq, h.accepted] at hne
    exact hne
  · intro q q' hq hmakes
    exact hmakes.outcome_ne hq

/-- **Without getters the names requested are the entry point and references.** -/
theorem Requested.refers (hnone : r.getters = .none) (h : r.Requested depth q) :
    q.name = r.options.entryPoint ∨ ∃ below, r.Refers below q.name := by
  refine h.keeps (fun q => q.name = r.options.entryPoint ∨ ∃ below, r.Refers below q.name)
    (Or.inl rfl) ?_
  intro q q' _ hmakes
  cases hmakes with
  | @intro depth name other s t _ _ asks =>
      exact Or.inr ⟨name, (r.plan_meets _ name).asked asks hnone⟩

end Renderer

/-! ## §3. Requests that keep no results. -/

/-- Leaving a layer keeps its result only where results are kept. -/
theorem RenderState.Plain.left {s : RenderState} (h : s.Plain) (name : String)
    (o : Except Halt Rendered) : (s.left name o).Plain := by
  refine ⟨by rw [left_fast, h.1], ?_⟩
  cases o with
  | error halt => exact h.2
  | ok result =>
      show ((s.leave name).store name result).cache = []
      unfold store
      rw [if_neg (by rw [show (s.leave name).fast = s.fast from rfl, h.1]; simp)]
      exact h.2

namespace Renderer

variable (r : Renderer)

/-- A run that keeps no results has none in the end. -/
theorem resolve_plain (depth : Nat) :
    ∀ (name : String) (s : RenderState), s.Plain → ((r.resolve depth name).outcome s).2.Plain := by
  induction depth with
  | zero => intro name s h; exact h
  | succ depth ih =>
      intro name s h
      rw [outcome_resolve, h.cached]
      dsimp only
      by_cases hp : name ∈ s.inProgress
      · rw [if_pos hp]
        exact h
      · -- nothing is kept on the way in, in between or on the way out
        rw [if_neg hp]
        have hentered : (r.noted name (s.entered name)).Plain := h.entered name
        have hrun := Plan.run_keeps ih (r.plan s.calls.toList name) _ hentered
        exact hrun.left name _

variable {r}

theorem Requested.plain {depth : Nat} {q : Request} (hslow : r.options.fast = false)
    (h : r.Requested depth q) : q.state.Plain := by
  refine h.keeps (fun q => q.state.Plain) ⟨hslow, rfl⟩ ?_
  rintro _ _ hq ⟨_, _, asks⟩
  exact asks.keeps (fun name s hs => r.resolve_plain _ name s hs) (hq.entered _)

end Renderer

/-! ## §4. Layers visited. -/

section Visited

variable {σ α : Type} {resolve : String → Run σ Rendered}

/-- What a state holds after the run of a plan it held before, or it holds because of an answer. -/
theorem Plan.run_holds_iff (holds : σ → Prop) (because : String → σ → Prop)
    (h : ∀ name s, holds ((resolve name).outcome s).2 ↔ holds s ∨ because name s) (p : Plan α) :
    ∀ s, holds ((p.run resolve).outcome s).2
      ↔ holds s ∨ ∃ name t, p.Asks resolve s name t ∧ because name t := by
  -- a plan that asks for nothing leaves the state as it is
  have hnothing : ∀ {p : Plan α} {s : σ}, (∀ name t, ¬ p.Asks resolve s name t) →
      (holds s ↔ holds s ∨ ∃ name t, p.Asks resolve s name t ∧ because name t) := by
    intro p s hnone
    refine ⟨Or.inl, fun hor => hor.elim id ?_⟩
    rintro ⟨name, t, hasks, -⟩
    exact absurd hasks (hnone name t)
  induction p with
  | done a => exact fun s => hnothing fun name t hasks => by cases hasks
  | stop e => exact fun s => hnothing fun name t hasks => by cases hasks
  | ask name next ih =>
      intro s
      have hname := h name s
      rw [Plan.outcome_ask]
      rcases ha : (resolve name).outcome s with ⟨halt | answer, s'⟩ <;> rw [ha] at hname
      · -- the run stops here, so there is no question after this one
        simp only [hname, asks_ask_of_error ha, and_assoc, exists_and_left, exists_eq_left]
      · simp only [ih answer s', hname, asks_ask_of_ok ha, or_and_right, exists_or, and_assoc,
          exists_and_left, exists_eq_left, or_assoc]

end Visited

namespace Renderer

variable (r : Renderer)

/-- A request leads to one that enters the layer. -/
def LeadsInto (q : Request) (name : String) : Prop :=
  ∃ q', Relation.ReflTransGen r.Makes q q' ∧ q'.Enters ∧ q'.name = name

/-- What enters a layer enters it itself, or makes requests that do. -/
theorem leadsInto_succ {depth : Nat} {name x : String} {s : RenderState}
    (hc : s.cached name = none) (hp : name ∉ s.inProgress) :
    r.LeadsInto ⟨depth + 1, name, s⟩ x
      ↔ x = name ∨ ∃ other t,
        (r.plan s.calls.toList name).Asks (r.resolve depth) (r.noted name (s.entered name)) other t
          ∧ r.LeadsInto ⟨depth, other, t⟩ x := by
  constructor
  · rintro ⟨q, hmade, henters, rfl⟩
    rcases Relation.ReflTransGen.cases_head hmade with rfl | ⟨q', hmakes, hrest⟩
    · exact Or.inl rfl
    · cases hmakes with
      | intro _ _ asks => exact Or.inr ⟨_, _, asks, q, hrest, henters, rfl⟩
  · rintro (rfl | ⟨other, t, hasks, q, hmade, henters, rfl⟩)
    · exact ⟨_, .refl, ⟨Nat.succ_ne_zero depth, hc, hp⟩, rfl⟩
    · exact ⟨q, .head (.intro hc hp hasks) hmade, henters, rfl⟩

/-- A request that enters nothing leads nowhere. -/
theorem not_leadsInto {q : Request} (h : ¬ q.Enters) (name : String) : ¬ r.LeadsInto q name := by
  rintro ⟨q', hmade, henters, -⟩
  rcases Relation.ReflTransGen.cases_head hmade with rfl | ⟨q'', hmakes, -⟩
  · exact h henters
  · cases hmakes with
    | intro uncached fresh _ => exact h ⟨Nat.succ_ne_zero _, uncached, fresh⟩

/-- A layer that was visited when a request is answered was visited before, or the request leads
into it. -/
theorem mem_visited_resolve (x : String) (depth : Nat) :
    ∀ (name : String) (s : RenderState),
      x ∈ ((r.resolve depth name).outcome s).2.visited.toList
        ↔ x ∈ s.visited.toList ∨ r.LeadsInto ⟨depth, name, s⟩ x := by
  -- on the depth; a layer that is entered is visited itself, and its plan does the rest
  have hnothing : ∀ {q : Request} {P : Prop}, ¬ q.Enters → (P ↔ P ∨ r.LeadsInto q x) := by
    intro q P hq
    exact ⟨Or.inl, fun hor => hor.elim id fun hleads => absurd hleads (r.not_leadsInto hq x)⟩
  induction depth with
  | zero => exact fun name s => hnothing fun henters => henters.1 rfl
  | succ depth ih =>
      intro name s
      rw [outcome_resolve]
      cases hc : s.cached name with
      | some result =>
          refine hnothing fun henters => ?_
          rw [henters.2.1] at hc
          exact absurd hc (by simp)
      | none =>
          dsimp only
          by_cases hp : name ∈ s.inProgress
          · rw [if_pos hp]
            exact hnothing fun henters => henters.2.2 hp
          · rw [if_neg hp]
            show x ∈ (RenderState.left _ name _).visited.toList ↔ _
            rw [RenderState.left_visited, r.leadsInto_succ hc hp,
              Plan.run_holds_iff (fun t => x ∈ t.visited.toList)
                (fun other t => r.LeadsInto ⟨depth, other, t⟩ x) ih,
              r.noted_visited, RenderState.entered_visited, List.mem_append, List.mem_singleton,
              or_assoc]

/-- **The layers visited are those that requests enter.** -/
theorem mem_visited_iff (depth : Nat) (x : String) :
    x ∈ (r.renderWithin depth).2.visited.toList
      ↔ ∃ q, r.Requested depth q ∧ q.Enters ∧ q.name = x := by
  rw [renderWithin_eq]
  cases hrefusal : r.refusal? with
  | some e =>
      constructor
      · intro hx
        exact absurd hx (by simp)
      · rintro ⟨q, ⟨haccepted, -⟩, -⟩
        rw [hrefusal] at haccepted
        exact absurd haccepted (by simp)
  | none =>
      dsimp only
      rw [r.mem_visited_resolve]
      constructor
      · rintro (hx | ⟨q, hmade, henters, hname⟩)
        · exact absurd hx (by simp)
        · exact ⟨q, ⟨hrefusal, hmade⟩, henters, hname⟩
      · rintro ⟨q, ⟨-, hmade⟩, henters, hname⟩
        exact Or.inr ⟨q, hmade, henters, hname⟩

end Renderer

end LayerTemplates
