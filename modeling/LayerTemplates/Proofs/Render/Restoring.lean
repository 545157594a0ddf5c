/-
  LayerTemplates.Proofs.Render.Restoring
  ──────────────────────────────────────
  Resolving a name gives the bookkeeping back.

  A run can be left in many places: with a result that was kept, with a cycle, with an error of
  the layer or of one below it.  Whatever it is left with, the layers in progress are those from
  before, what was visited has only grown, and the results kept from before are still there.  A
  result that is new among those kept is what expanding its layer came to on the way.

  Leaving takes a layer out of the layers in progress by its name, so it matters that a layer is
  never in progress twice, and that no layer is kept while it is in progress.

  Main statements:
    * `Renderer.moments_inOrder` — at no moment is a layer both kept and in progress.
    * `Renderer.resolve_restored` — what a request leaves of the state it was made from.
    * `Renderer.resolve_restores` — all of it, from every state of a render.
-/
import LayerTemplates.Proofs.Render.FastMode
import LayerTemplates.Proofs.Render.References
import LayerTemplates.Proofs.Render.Requests

namespace LayerTemplates

/-! ## §1. Results kept, and layers in progress. -/

namespace RenderState

variable {r : Renderer} {s t : RenderState} {name x : String} {result : Rendered}
  {o : Except Halt Rendered}

/-- In slow mode nothing is kept of a layer that is left. -/
theorem left_of_slow (hslow : t.fast ≠ true) (name : String) (result : Rendered) :
    t.left name (.ok result) = t.leave name := if_neg hslow

/-- What is kept of the other layers stays. -/
theorem cached_left_of_ne (hx : x ≠ name) : (t.left name o).cached x = t.cached x := by
  cases o with
  | error halt => rfl
  | ok value =>
      by_cases hfast : t.fast = true
      · rw [cached_left hfast, if_neg hx]
      · rw [left_of_slow hfast]
        rfl

/-- Leaving a layer keeps at most the result of that layer. -/
theorem cached_left_cases (h : (t.left name o).cached x = some result) :
    t.cached x = some result ∨ (x = name ∧ o = .ok result) := by
  by_cases hx : x = name
  · cases o with
    | error halt => exact Or.inl h
    | ok value =>
        by_cases hfast : t.fast = true
        · rw [cached_left hfast, if_pos hx] at h
          exact Or.inr ⟨hx, congrArg Except.ok (Option.some.inj h)⟩
        · rw [left_of_slow hfast] at h
          exact Or.inl h
  · rw [cached_left_of_ne hx] at h
    exact Or.inl h

/-- No layer is both kept and in progress. -/
def Apart (s : RenderState) : Prop := ∀ x, (s.cached x).isSome → x ∉ s.inProgress

/-- A state in order is in the mode of the render, and keeps results in fast mode only and of no
layer in progress. -/
structure InOrder (r : Renderer) (s : RenderState) : Prop where
  mode : s.fast = r.options.fast
  slow : s.fast = false → s.cache = []
  apart : s.Apart

theorem InOrder.noted (h : InOrder r s) (name : String) : InOrder r (r.noted name s) where
  mode := by rw [r.noted_fast, h.mode]
  slow := by
    rw [r.noted_fast, r.noted_cache]
    exact h.slow
  apart := by
    intro x hx
    rw [cached_noted] at hx
    rw [r.noted_inProgress]
    exact h.apart x hx

/-- A layer that is not kept can be entered. -/
theorem InOrder.entered (h : InOrder r s) (hc : s.cached name = none) :
    InOrder r (s.entered name) where
  mode := h.mode
  slow := h.slow
  apart := by
    intro x hx hin
    rw [entered_inProgress, List.mem_append, List.mem_singleton] at hin
    have hkept : (s.cached x).isSome := hx
    rcases hin with hin | rfl
    · exact h.apart x hkept hin
    · rw [hc] at hkept
      exact absurd hkept (by simp)

/-- The layer entered last can be left, and its result kept. -/
theorem InOrder.left {names : List String} (h : InOrder r t)
    (ht : t.inProgress = names ++ [name]) (hp : name ∉ names) (o : Except Halt Rendered) :
    InOrder r (t.left name o) where
  mode := by rw [left_fast, h.mode]
  slow := by
    rw [left_fast]
    intro hslow
    have hplain : t.Plain := ⟨hslow, h.slow hslow⟩
    exact (hplain.left name o).2
  apart := by
    intro x hx
    rw [left_inProgress, ht, erase_entered hp]
    obtain ⟨result, hresult⟩ := Option.isSome_iff_exists.1 hx
    rcases cached_left_cases hresult with hkept | ⟨rfl, -⟩
    · intro hin
      have hnot : x ∉ t.inProgress := h.apart x (by rw [hkept]; rfl)
      rw [ht] at hnot
      exact hnot (List.mem_append_left _ hin)
    · exact hp

/-- A moment of leaving a layer is one of having left it, with some outcome. -/
theorem eq_left_of_mem_leaving (h : t ∈ s.leaving name o) : ∃ o', t = s.left name o' := by
  have hleave : s.leave name = s.left name (.error .tooDeep) := rfl
  cases o with
  | error halt =>
      obtain rfl := List.mem_singleton.1 h
      exact ⟨_, hleave⟩
  | ok result =>
      rcases List.mem_cons.1 h with rfl | h
      · exact ⟨_, hleave⟩
      · exact ⟨.ok result, List.mem_singleton.1 h⟩

/-- Operations end with the last state they lead through. -/
theorem Traverses.last_mem {states : List RenderState} (h : Traverses s states t) :
    t ∈ s :: states := by
  induction h with
  | nil s => exact List.mem_singleton.2 rfl
  | cons _ _ ih => exact List.mem_cons_of_mem _ ih

end RenderState

namespace Renderer

open RenderState

variable (r : Renderer)

/-- The moments of resolving a name one by one. -/
theorem moments_succ_cases {depth : Nat} {name : String} {s t : RenderState}
    (h : t ∈ r.moments (depth + 1) name s) :
    s.cached name = none ∧ name ∉ s.inProgress
      ∧ (t = s.entered name ∨ t = r.noted name (s.entered name)
        ∨ t ∈ (r.plan s.calls.toList name).moments (r.resolve depth) (r.moments depth)
            (r.noted name (s.entered name))
        ∨ ∃ o, t = (((r.plan s.calls.toList name).run (r.resolve depth)).outcome
            (r.noted name (s.entered name))).2.left name o) := by
  unfold moments at h
  cases hc : s.cached name with
  | some result =>
      rw [hc] at h
      exact absurd h (by simp)
  | none =>
      rw [hc] at h
      dsimp only at h
      by_cases hp : name ∈ s.inProgress
      · rw [if_pos hp] at h
        exact absurd h (by simp)
      rw [if_neg hp] at h
      refine ⟨rfl, hp, ?_⟩
      rcases List.mem_append.1 h with h | hleaving
      · rcases List.mem_append.1 h with h | hplan
        · rcases List.mem_cons.1 h with rfl | h
          · exact Or.inl rfl
          · right; left
            obtain ⟨call, hcall, rfl⟩ := List.mem_map.1 h
            have hsome : r.callOf? name = some call := by simpa using hcall
            exact (r.noted_of_callOf? hsome _).symm
        · exact Or.inr (Or.inr (Or.inl hplan))
      · exact Or.inr (Or.inr (Or.inr (eq_left_of_mem_leaving hleaving)))

/-- **At no moment of a run is a layer both kept and in progress**, if none is at first. -/
theorem moments_inOrder (depth : Nat) :
    ∀ (name : String) (s : RenderState), InOrder r s →
      ∀ t ∈ s :: r.moments depth name s, InOrder r t := by
  induction depth with
  | zero =>
      intro name s hs t ht
      obtain rfl := List.mem_singleton.1 ht
      exact hs
  | succ depth ih =>
      intro name s hs t ht
      -- one level down every answer leaves a state in order, since it is a moment itself
      have hkeeps : ∀ other u, InOrder r u → InOrder r ((r.resolve depth other).outcome u).2 :=
        fun other u hu => ih other u hu _ (r.resolve_traverses depth other u).last_mem
      rcases List.mem_cons.1 ht with rfl | ht
      · exact hs
      obtain ⟨hc, hp, rfl | rfl | hplan | ⟨o, rfl⟩⟩ := r.moments_succ_cases ht
      · exact hs.entered hc
      · exact (hs.entered hc).noted name
      · refine (r.plan_meets _ name).forall_moments (InOrder r) (InOrder r) hkeeps ?_ _
          ((hs.entered hc).noted name) t hplan
        intro other _ u hu v hv
        exact ih other u hu v (List.mem_cons_of_mem _ hv)
      · have hran := Plan.run_keeps hkeeps (r.plan s.calls.toList name) _
          ((hs.entered hc).noted name)
        have hin := (run_inProgress r depth (r.plan s.calls.toList name) _).trans
          (noted_entered_inProgress r name s)
        exact hran.left hin hp o

theorem resolve_inOrder (depth : Nat) (name : String) (s : RenderState) (h : InOrder r s) :
    InOrder r ((r.resolve depth name).outcome s).2 :=
  r.moments_inOrder depth name s h _ (r.resolve_traverses depth name s).last_mem

theorem inOrder_fresh : InOrder r { fast := r.options.fast } where
  mode := rfl
  slow _ := rfl
  apart x hx := absurd hx (by simp [RenderState.cached])

/-- Every moment of a render is in order. -/
theorem renderMoments_inOrder (depth : Nat) : ∀ s ∈ r.renderMoments depth, InOrder r s := by
  intro s hs
  unfold renderMoments at hs
  cases hrefusal : r.refusal? with
  | some e =>
      rw [hrefusal] at hs
      obtain rfl := List.mem_singleton.1 hs
      exact r.inOrder_fresh
  | none =>
      rw [hrefusal] at hs
      exact r.moments_inOrder depth _ _ r.inOrder_fresh s hs

end Renderer

/-! ## §2. What a run leaves of the state. -/

/-- The second state is the first one after a run: the layers in progress are the same in the
same order, layers were only added to those visited and results only to those kept, and the
results added are those that came up. -/
structure RenderState.Restored (came : String → Rendered → Prop) (s t : RenderState) : Prop where
  inProgress : t.inProgress = s.inProgress
  visited : ∃ names, t.visited.toList = s.visited.toList ++ names
  kept : ∀ x result, s.cached x = some result → t.cached x = some result
  came : ∀ x result, t.cached x = some result → s.cached x = some result ∨ came x result

namespace RenderState

variable {came more : String → Rendered → Prop} {s t u : RenderState}

theorem Restored.refl (s : RenderState) : Restored came s s where
  inProgress := rfl
  visited := ⟨[], by simp⟩
  kept _ _ h := h
  came _ _ h := Or.inl h

theorem Restored.mono (h : Restored came s t) (himp : ∀ x result, came x result → more x result) :
    Restored more s t where
  inProgress := h.inProgress
  visited := h.visited
  kept := h.kept
  came x result hx := (h.came x result hx).imp_right (himp x result)

theorem Restored.trans (h : Restored came s t) (h' : Restored came t u) : Restored came s u where
  inProgress := h'.inProgress.trans h.inProgress
  visited := by
    obtain ⟨names, hn⟩ := h.visited
    obtain ⟨others, ho⟩ := h'.visited
    exact ⟨names ++ others, by rw [ho, hn, List.append_assoc]⟩
  kept x result hx := h'.kept x result (h.kept x result hx)
  came := by
    intro x result hx
    rcases h'.came x result hx with hx | hx
    · exact h.came x result hx
    · exact Or.inr hx

/-- A layer that is entered, worked on and left adds itself to those visited, and at most its own
result to those kept. -/
theorem Restored.left {r : Renderer} {name : String} (hc : s.cached name = none)
    (hp : name ∉ s.inProgress) (h : Restored came (r.noted name (s.entered name)) t)
    (o : Except Halt Rendered) :
    Restored (fun x result => came x result ∨ (x = name ∧ o = .ok result)) s (t.left name o) where
  inProgress := by
    rw [left_inProgress, h.inProgress, r.noted_inProgress, entered_inProgress, erase_entered hp]
  visited := by
    obtain ⟨names, hn⟩ := h.visited
    refine ⟨name :: names, ?_⟩
    rw [left_visited, hn, r.noted_visited, entered_visited, List.append_assoc]
    rfl
  kept := by
    intro x result hx
    have hne : x ≠ name := by
      rintro rfl
      rw [hc] at hx
      exact absurd hx (by simp)
    rw [cached_left_of_ne hne]
    apply h.kept
    rw [cached_noted]
    exact hx
  came := by
    intro x result hx
    rcases cached_left_cases hx with hx | hown
    · rcases h.came x result hx with hold | hcame
      · rw [cached_noted] at hold
        exact Or.inl hold
      · exact Or.inr (Or.inl hcame)
    · exact Or.inr (Or.inr hown)

end RenderState

/-- A plan gives back what each of its answers gives back, and what came up on the way is what
came up for some question. -/
theorem Plan.run_restored {α : Type} {resolve : String → Run RenderState Rendered}
    {keeps : RenderState → Prop} {came : String → RenderState → String → Rendered → Prop}
    (hkeeps : ∀ name s, keeps s → keeps ((resolve name).outcome s).2)
    (h : ∀ name s, keeps s →
      RenderState.Restored (came name s) s ((resolve name).outcome s).2) (p : Plan α) :
    ∀ s, keeps s → RenderState.Restored
      (fun x result => ∃ name t, p.Asks resolve s name t ∧ came name t x result)
      s ((p.run resolve).outcome s).2 := by
  induction p with
  | done a => intro s _; exact .refl s
  | stop e => intro s _; exact .refl s
  | ask name next ih =>
      intro s hs
      have hanswer := h name s hs
      have hkept := hkeeps name s hs
      rw [Plan.outcome_ask]
      rcases ha : (resolve name).outcome s with ⟨halt | answer, s'⟩ <;> rw [ha] at hanswer hkept
      · apply hanswer.mono
        intro x result hcame
        exact ⟨name, s, .first name next s, hcame⟩
      · -- the rest of the plan starts from what the first answer has left
        have hfirst := hanswer.mono fun x result hcame =>
          show ∃ other t, (ask name next).Asks resolve s other t ∧ came other t x result from
            ⟨name, s, .first name next s, hcame⟩
        refine hfirst.trans ((ih answer s' hkept).mono ?_)
        rintro x result ⟨other, t, hasks, hcame⟩
        exact ⟨other, t, .later ha hasks, hcame⟩

/-! ## §3. Requests. -/

/-- What comes of expanding the layer of a request that enters it. -/
def Request.expansion (q : Request) (r : Renderer) : Except Halt Rendered × RenderState :=
  (r.expand (r.resolve (q.depth - 1)) q.name).outcome (q.state.entered q.name)

namespace Renderer

open RenderState

variable (r : Renderer)

/-- A request enters a layer, itself or through requests that it leads to, and expanding the
layer comes to the result. -/
def Finds (q : Request) (x : String) (result : Rendered) : Prop :=
  ∃ q', Relation.ReflTransGen r.Makes q q' ∧ q'.Enters ∧ q'.name = x
    ∧ (q'.expansion r).1 = .ok result

/-- **A request gives the state back that it was made from**, but for layers visited and results
found. -/
theorem resolve_restored (depth : Nat) :
    ∀ (name : String) (s : RenderState), InOrder r s →
      Restored (r.Finds ⟨depth, name, s⟩) s ((r.resolve depth name).outcome s).2 := by
  induction depth with
  | zero => intro name s _; exact .refl s
  | succ depth ih =>
      intro name s hs
      rw [outcome_resolve]
      cases hc : s.cached name with
      | some result => exact .refl s
      | none =>
          dsimp only
          by_cases hp : name ∈ s.inProgress
          · rw [if_pos hp]
            exact .refl s
          · rw [if_neg hp]
            have hran := Plan.run_restored (r.resolve_inOrder depth) ih
              (r.plan s.calls.toList name) _ ((hs.entered hc).noted name)
            -- what came up below the layer came up for a request that it makes
            refine (hran.left hc hp _).mono ?_
            rintro x result (⟨other, t, hasks, q, hmade, hq⟩ | ⟨rfl, ho⟩)
            · exact ⟨q, .head (.intro hc hp hasks) hmade, hq⟩
            · refine ⟨_, .refl, ⟨Nat.succ_ne_zero depth, hc, hp⟩, rfl, ?_⟩
              show ((r.expand (r.resolve depth) x).outcome (s.entered x)).1 = .ok result
              rw [outcome_expand]
              exact ho

/-- A request gives the render state back, whatever comes of it. -/
structure Restores (q : Request) : Prop where
  /-- The layers in progress, those visited and those kept, before and after. -/
  state : Restored (r.Finds q) q.state (q.outcome r).2
  /-- In slow mode nothing is kept. -/
  slow : r.options.fast = false → (q.outcome r).2.cache = []
  /-- From the first state to the last no layer is both kept and in progress. -/
  apart : ∀ t ∈ q.state :: r.moments q.depth q.name q.state, t.Apart

/-- **Resolving gives the render state back**: from every moment of every render, for every name
and however deep references are followed, and with every outcome there is.  The layers in
progress are the same in the same order, layers have been added to those visited and nothing
else, every result kept before is unchanged, and every new one is what expanding its layer came
to during the call.  In slow mode nothing is kept, and in neither mode is a layer ever both kept
and in progress. -/
theorem resolve_restores (r : Renderer) (depth : Nat) :
    ∀ s ∈ r.renderMoments depth, ∀ (limit : Nat) (name : String),
      r.Restores ⟨limit, name, s⟩ := by
  intro s hs limit name
  have horder : InOrder r s := r.renderMoments_inOrder depth s hs
  have hafter : InOrder r ((r.resolve limit name).outcome s).2 :=
    r.resolve_inOrder limit name s horder
  refine ⟨r.resolve_restored limit name s horder, ?_, ?_⟩
  · intro hslow
    apply hafter.slow
    rw [hafter.mode, hslow]
  · intro t ht
    exact (r.moments_inOrder limit name s horder t ht).apart

/-- In the middle of a render, with the first layer in progress: one that it refers to. -/
theorem resolve_restores_diamond :
    let s := RenderState.entered { fast := true } "start"
    s ∈ (diamond.inMode true).renderMoments 5
      ∧ (diamond.inMode true).Restores ⟨4, "a", s⟩ := by
  intro s
  have hs : s ∈ (diamond.inMode true).renderMoments 5 :=
    .tail _ (.head _)
  exact ⟨hs, resolve_restores (diamond.inMode true) 5 s hs 4 "a"⟩

end Renderer

end LayerTemplates
