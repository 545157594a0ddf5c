/-
  LayerTemplates.Proofs.Render.Resolving
  ──────────────────────────────────────
  What holds of every run of a resolver, whatever the data, the getters and the mode.

  Each fact has the same two steps: a lemma on plans, by induction on the plan and for any
  resolver that has the property, and the lemma on `Renderer.resolve`, by induction on how
  deep references are followed.

  Main statements:
    * `outcome_resolve_mono` — following references deeper changes no finished outcome.
    * `resolve_grown` — a run only adds to what was visited, and the getters called are
      those of the layers visited.
    * `resolve_replays` — a result that was found without keeping results is found again
      from every state that has none of the layers entered in progress.
-/
import LayerTemplates.Proofs.Render.Plan

namespace LayerTemplates

/-! ## §1. Depth. -/

/-- A run that stopped stopped for no other cause than the one told. -/
theorem outcome_ne_of_error {σ α β : Type} {run : Run σ β} {s s' : σ} {halt cause : Halt}
    (h : run.outcome s = (.error halt, s'))
    (hne : (.error halt : Except Halt α) ≠ .error cause) : (run.outcome s).1 ≠ .error cause := by
  rw [h]
  intro hd
  obtain rfl : halt = cause := Except.error.inj hd
  exact hne rfl

/-- A plan whose run finished runs alike with a resolver that agrees where the first one
finished. -/
theorem Plan.outcome_run_mono {σ α : Type} {shallow deep : String → Run σ Rendered}
    (h : ∀ name s, ((shallow name).outcome s).1 ≠ .error .tooDeep →
      (deep name).outcome s = (shallow name).outcome s) :
    ∀ (p : Plan α) (s : σ), ((p.run shallow).outcome s).1 ≠ .error .tooDeep →
      (p.run deep).outcome s = (p.run shallow).outcome s := by
  intro p
  induction p with
  | done a => intro s _; rfl
  | stop e => intro s _; rfl
  | ask name next ih =>
      intro s hs
      rw [Plan.outcome_ask] at hs ⊢
      rw [Plan.outcome_ask]
      rcases ha : (shallow name).outcome s with ⟨halt | answer, s'⟩ <;> rw [ha] at hs
      · rw [h name s (outcome_ne_of_error ha hs), ha]
      · rw [h name s (by rw [ha]; simp), ha]
        exact ih _ s' hs

namespace Renderer

variable (r : Renderer)

/-- **Following references deeper changes no finished outcome.** -/
theorem outcome_resolve_mono {depth deeper : Nat} (hd : depth ≤ deeper) :
    ∀ (name : String) (s : RenderState),
      ((r.resolve depth name).outcome s).1 ≠ .error .tooDeep →
        (r.resolve deeper name).outcome s = (r.resolve depth name).outcome s := by
  -- on the smaller depth, for every greater one; the plan is the same at both
  induction depth generalizing deeper with
  | zero => intro name s h; exact absurd rfl h
  | succ depth ih =>
      intro name s h
      obtain ⟨deeper, rfl⟩ : ∃ k, deeper = k + 1 := ⟨deeper - 1, by omega⟩
      rw [outcome_resolve] at h ⊢
      rw [outcome_resolve]
      cases hc : s.cached name with
      | some result => rfl
      | none =>
          rw [hc] at h
          dsimp only at h ⊢
          by_cases hp : name ∈ s.inProgress
          · rw [if_pos hp, if_pos hp]
          · rw [if_neg hp] at h ⊢
            rw [if_neg hp,
              Plan.outcome_run_mono (ih (by omega)) (r.plan s.calls.toList name) _ h]

/-- Two depths at which a run finishes agree. -/
theorem outcome_resolve_agree {depth other : Nat} {name : String} {s : RenderState}
    (h : ((r.resolve depth name).outcome s).1 ≠ .error .tooDeep)
    (h' : ((r.resolve other name).outcome s).1 ≠ .error .tooDeep) :
    (r.resolve depth name).outcome s = (r.resolve other name).outcome s := by
  rcases Nat.le_total depth other with hd | hd
  · exact (r.outcome_resolve_mono hd name s h).symm
  · exact r.outcome_resolve_mono hd name s h'

end Renderer

/-! ## §2. What a run leaves behind. -/

/-- The second state is the first one after the layers `names` were entered, in this order,
and left again. -/
structure RenderState.Grown (r : Renderer) (s t : RenderState) (names : List String) : Prop where
  visited : t.visited.toList = s.visited.toList ++ names
  calls : t.calls.toList = s.calls.toList ++ names.filterMap r.callOf?
  inProgress : t.inProgress = s.inProgress
  fast : t.fast = s.fast

namespace RenderState

variable {r : Renderer}

/-- A run that enters nothing leaves the state as it was. -/
theorem Grown.refl (s : RenderState) : Grown r s s [] :=
  ⟨by simp, by simp, rfl, rfl⟩

/-- Runs that follow one another enter their layers one after the other. -/
theorem Grown.trans {s t u : RenderState} {names more : List String}
    (h : Grown r s t names) (h' : Grown r t u more) : Grown r s u (names ++ more) where
  visited := by rw [h'.visited, h.visited, List.append_assoc]
  calls := by rw [h'.calls, h.calls, List.filterMap_append, List.append_assoc]
  inProgress := h'.inProgress.trans h.inProgress
  fast := h'.fast.trans h.fast

/-- The layer that is entered is the innermost of those in progress. -/
@[simp] theorem entered_inProgress (s : RenderState) (name : String) :
    (s.entered name).inProgress = s.inProgress ++ [name] := rfl

@[simp] theorem entered_fast (s : RenderState) (name : String) :
    (s.entered name).fast = s.fast := rfl

@[simp] theorem entered_visited (s : RenderState) (name : String) :
    (s.entered name).visited.toList = s.visited.toList ++ [name] := by
  simp [entered]

/-- Leaving a layer touches nothing but the layers in progress and the results kept. -/
theorem left_eq (s : RenderState) (name : String) (o : Except Halt Rendered) :
    s.left name o = { s.leave name with cache := (s.left name o).cache } := by
  cases o with
  | error halt => rfl
  | ok result =>
      show (s.leave name).store name result
        = { s.leave name with cache := ((s.leave name).store name result).cache }
      unfold store
      split <;> rfl

@[simp] theorem left_inProgress (s : RenderState) (name : String) (o : Except Halt Rendered) :
    (s.left name o).inProgress = s.inProgress.erase name := by
  rw [left_eq]; rfl

@[simp] theorem left_fast (s : RenderState) (name : String) (o : Except Halt Rendered) :
    (s.left name o).fast = s.fast := by
  rw [left_eq]; rfl

@[simp] theorem left_visited (s : RenderState) (name : String) (o : Except Halt Rendered) :
    (s.left name o).visited = s.visited := by
  rw [left_eq]; rfl

@[simp] theorem left_calls (s : RenderState) (name : String) (o : Except Halt Rendered) :
    (s.left name o).calls = s.calls := by
  rw [left_eq]; rfl

/-- Leaving a layer that was not in progress before takes away what entering it added. -/
theorem erase_entered {names : List String} {name : String} (h : name ∉ names) :
    (names ++ [name]).erase name = names := by
  rw [List.erase_append_right _ h]
  simp

end RenderState

namespace Renderer

open RenderState

variable (r : Renderer)

@[simp] theorem noted_inProgress (name : String) (s : RenderState) :
    (r.noted name s).inProgress = s.inProgress := by
  unfold noted; split <;> rfl

@[simp] theorem noted_fast (name : String) (s : RenderState) :
    (r.noted name s).fast = s.fast := by
  unfold noted; split <;> rfl

@[simp] theorem noted_cache (name : String) (s : RenderState) :
    (r.noted name s).cache = s.cache := by
  unfold noted; split <;> rfl

@[simp] theorem noted_visited (name : String) (s : RenderState) :
    (r.noted name s).visited = s.visited := by
  unfold noted; split <;> rfl

/-- A call is noted for each layer that has a getter, and for no other one. -/
theorem noted_calls (name : String) (s : RenderState) :
    (r.noted name s).calls.toList = s.calls.toList ++ [name].filterMap r.callOf? := by
  unfold noted
  cases hc : r.callOf? name with
  | none => simp [hc]
  | some call => simp [hc, noteCall]

/-- A layer that is entered, worked on and left has grown the state by its own name and by
those entered meanwhile. -/
theorem grown_left {s t : RenderState} {name : String} {names : List String}
    (hp : name ∉ s.inProgress) (h : Grown r (r.noted name (s.entered name)) t names)
    (o : Except Halt Rendered) : Grown r s (t.left name o) (name :: names) where
  visited := by rw [left_visited, h.visited]; simp
  calls := by
    rw [left_calls, h.calls, noted_calls, entered_calls, List.append_assoc,
      ← List.filterMap_append]
    rfl
  inProgress := by
    rw [left_inProgress, h.inProgress, noted_inProgress, entered_inProgress, erase_entered hp]
  fast := by rw [left_fast, h.fast, noted_fast, entered_fast]

end Renderer

/-- A plan grows the state where its resolver does. -/
theorem Plan.run_grown {α : Type} {r : Renderer} {resolve : String → Run RenderState Rendered}
    (h : ∀ name s, ∃ names, RenderState.Grown r s ((resolve name).outcome s).2 names) :
    ∀ (p : Plan α) (s : RenderState),
      ∃ names, RenderState.Grown r s ((p.run resolve).outcome s).2 names := by
  intro p
  induction p with
  | done a => intro s; exact ⟨[], RenderState.Grown.refl s⟩
  | stop e => intro s; exact ⟨[], RenderState.Grown.refl s⟩
  | ask name next ih =>
      intro s
      rw [Plan.outcome_ask]
      obtain ⟨names, hn⟩ := h name s
      rcases ha : (resolve name).outcome s with ⟨halt | answer, s'⟩ <;> rw [ha] at hn
      · exact ⟨names, hn⟩
      · obtain ⟨more, hm⟩ := ih answer s'
        exact ⟨names ++ more, hn.trans hm⟩

/-- **A run adds the names it enters to those visited, calls the getters of exactly these, and
leaves the layers in progress as they were.** -/
theorem Renderer.resolve_grown (r : Renderer) (depth : Nat) :
    ∀ (name : String) (s : RenderState),
      ∃ names, RenderState.Grown r s ((r.resolve depth name).outcome s).2 names := by
  -- a result that is kept and a cycle enter nothing; every other layer adds its own name first
  induction depth with
  | zero => intro name s; exact ⟨[], RenderState.Grown.refl s⟩
  | succ depth ih =>
      intro name s
      rw [outcome_resolve]
      cases hc : s.cached name with
      | some result => exact ⟨[], RenderState.Grown.refl s⟩
      | none =>
          dsimp only
          by_cases hp : name ∈ s.inProgress
          · rw [if_pos hp]
            exact ⟨[], RenderState.Grown.refl s⟩
          · rw [if_neg hp]
            obtain ⟨names, hn⟩ :=
              Plan.run_grown ih (r.plan s.calls.toList name) (r.noted name (s.entered name))
            exact ⟨name :: names, r.grown_left hp hn _⟩

/-! ## §3. Results found again. -/

namespace RenderState

/-- Results are not kept, and none is there. -/
def Plain (s : RenderState) : Prop := s.fast = false ∧ s.cache = []

/-- None of the names is in progress. -/
def Clear (s : RenderState) (names : List String) : Prop := ∀ name ∈ names, name ∉ s.inProgress

/-- The state after layers were entered and left again without keeping results. -/
def extended (r : Renderer) (s : RenderState) (names : List String) : RenderState :=
  { s with
    visited := s.visited ++ names.toArray
    calls := s.calls ++ (names.filterMap r.callOf?).toArray }

variable {r : Renderer}

theorem Plain.extended {s : RenderState} (h : s.Plain) (names : List String) :
    (s.extended r names).Plain := h

/-- Entering a layer keeps no result, and neither does calling its getter. -/
theorem Plain.entered {s : RenderState} (h : s.Plain) (name : String) :
    (r.noted name (s.entered name)).Plain := by
  unfold Plain
  rw [r.noted_fast, r.noted_cache]
  exact h

/-- So whatever is asked for has to be resolved anew. -/
theorem Plain.cached {s : RenderState} (h : s.Plain) (name : String) : s.cached name = none := by
  unfold RenderState.cached
  rw [h.2]
  rfl

@[simp] theorem extended_visited (s : RenderState) (names : List String) :
    (s.extended r names).visited.toList = s.visited.toList ++ names := by
  simp [RenderState.extended]

theorem extended_nil (s : RenderState) : s.extended r [] = s := by
  simp [RenderState.extended]

/-- Layers may be added one after the other or all at once. -/
theorem extended_append (s : RenderState) (names more : List String) :
    (s.extended r names).extended r more = s.extended r (names ++ more) := by
  simp [RenderState.extended, Array.append_assoc]

/-- Entering, extending and leaving is extending by one name more. -/
theorem left_extended {s : RenderState} (h : s.Plain) {name : String} {names : List String}
    (hp : name ∉ s.inProgress) (result : Rendered) :
    ((r.noted name (s.entered name)).extended r names).left name (.ok result)
      = s.extended r (name :: names) := by
  obtain ⟨hfast, hcache⟩ := h
  obtain ⟨fast, inProgress, cache, visited, calls⟩ := s
  subst hfast hcache
  have he : (inProgress ++ [name]).erase name = inProgress := erase_entered hp
  unfold Renderer.noted
  cases hc : r.callOf? name <;>
    simp [left, leave, store, entered, noteCall, extended, he, hc, ← Array.append_singleton,
      Array.append_assoc]

end RenderState

/-- The name is found to be `result`, and `names` are entered, from every state that keeps no
results and has none of the names in progress. -/
def Renderer.Replays (r : Renderer) (depth : Nat) (name : String) (result : Rendered)
    (names : List String) : Prop :=
  ∀ s : RenderState, s.Plain → s.Clear names →
    (r.resolve depth name).outcome s = (.ok result, s.extended r names)

/-- A result that a plan ended with is found again if the answers are. -/
theorem Plan.run_replays {α : Type} {r : Renderer} {resolve : String → Run RenderState Rendered}
    (h : ∀ name s answer s', s.Plain → (resolve name).outcome s = (.ok answer, s') →
      ∃ names, s.Clear names ∧ ∀ t : RenderState, t.Plain → t.Clear names →
        (resolve name).outcome t = (.ok answer, t.extended r names)) :
    ∀ (p : Plan α) (s : RenderState) (a : α) (s' : RenderState), s.Plain →
      (p.run resolve).outcome s = (.ok a, s') →
        ∃ names, s.Clear names ∧ ∀ t : RenderState, t.Plain → t.Clear names →
          (p.run resolve).outcome t = (.ok a, t.extended r names) := by
  intro p
  -- the names of a plan are those of its answers, one after another
  induction p with
  | done b =>
      intro s a s' _ hs
      obtain rfl := Except.ok.inj (Prod.mk.inj hs).1
      refine ⟨[], by simp [RenderState.Clear], fun t _ _ => ?_⟩
      rw [RenderState.extended_nil]
      rfl
  | stop e =>
      intro s a s' _ hs
      exact absurd (Prod.mk.inj hs).1 (by simp)
  | ask name next ih =>
      intro s a s' hplain hs
      rw [Plan.outcome_ask] at hs
      rcases ha : (resolve name).outcome s with ⟨halt | answer, s₁⟩ <;> rw [ha] at hs
      · exact absurd (Prod.mk.inj hs).1 (by simp)
      · obtain ⟨names, hclear, hreplay⟩ := h name s answer s₁ hplain ha
        obtain rfl : s₁ = s.extended r names := by
          have := hreplay s hplain hclear
          rw [ha] at this
          exact (Prod.mk.inj this).2
        obtain ⟨more, hclear', hreplay'⟩ := ih answer _ a s' (hplain.extended names) hs
        refine ⟨names ++ more, ?_, fun t ht hcl => ?_⟩
        · intro x hx
          rcases List.mem_append.1 hx with hx | hx
          · exact hclear x hx
          · exact hclear' x hx
        · have h₁ : t.Clear names := fun x hx => hcl x (List.mem_append_left _ hx)
          have h₂ : (t.extended r names).Clear more :=
            fun x hx => hcl x (List.mem_append_right _ hx)
          rw [Plan.outcome_ask, hreplay t ht h₁, ← RenderState.extended_append]
          exact hreplay' _ (ht.extended names) h₂

/-- **A result found without keeping results is found again** from every state that has none of
the layers entered in progress, and the same layers are entered in the same order, if no getter
goes by what was called before. -/
theorem Renderer.resolve_replays (r : Renderer) (hpast : r.getters.IgnoresPast) (depth : Nat) :
    ∀ (name : String) (s : RenderState) (result : Rendered) (s' : RenderState), s.Plain →
      (r.resolve depth name).outcome s = (.ok result, s') →
        ∃ names, s.Clear names ∧ r.Replays depth name result names := by
  induction depth with
  | zero =>
      intro name s result s' _ hs
      exact absurd (Prod.mk.inj hs).1 (by simp)
  | succ depth ih =>
      intro name s result s' hplain hs
      rw [outcome_resolve, hplain.cached] at hs
      dsimp only at hs
      by_cases hp : name ∈ s.inProgress
      · rw [if_pos hp] at hs
        exact absurd (Prod.mk.inj hs).1 (by simp)
      · rw [if_neg hp] at hs
        obtain ⟨ho, -⟩ := Prod.mk.inj hs
        obtain ⟨names, hclear, hreplay⟩ := Plan.run_replays ih (r.plan s.calls.toList name)
          (r.noted name (s.entered name)) result _ (hplain.entered name) (Prod.ext ho rfl)
        -- the layer itself is in progress meanwhile, so what is entered inside it is another one
        have hname : name ∉ names := by
          intro hx
          exact hclear name hx (by simp)
        refine ⟨name :: names, ?_, fun t ht hcl => ?_⟩
        · intro x hx
          rcases List.mem_cons.1 hx with rfl | hx
          · exact hp
          · intro hin
            exact hclear x hx (by simp [hin])
        · -- the same from the other state, in which the layer is entered first as well
          have hpt : name ∉ t.inProgress := hcl name List.mem_cons_self
          have hct : (r.noted name (t.entered name)).Clear names := by
            intro x hx hin
            rw [r.noted_inProgress, RenderState.entered_inProgress] at hin
            rcases List.mem_append.1 hin with hin | hin
            · exact hcl x (List.mem_cons_of_mem _ hx) hin
            · obtain rfl := List.mem_singleton.1 hin
              exact hname hx
          rw [outcome_resolve, ht.cached]
          dsimp only
          rw [if_neg hpt, r.plan_past hpast t.calls.toList s.calls.toList,
            hreplay _ (ht.entered name) hct]
          exact congrArg _ (RenderState.left_extended ht hpt result)

end LayerTemplates
