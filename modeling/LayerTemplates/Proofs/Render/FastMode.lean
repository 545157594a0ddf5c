/-
  LayerTemplates.Proofs.Render.FastMode
  ─────────────────────────────────────
  Keeping results changes nothing but the work done.

  A render that keeps results follows one that does not, step by step.  Where it finds a
  result that was kept, the other one resolves the name once more and finds the same.  This
  needs that nothing below the name is in progress, although what was kept is looked up
  before cycles are looked for: the layers that were entered for a kept result have been
  kept as well, and a kept layer is not entered again.

  Main statements:
    * `RenderState.Follows` — what ties the states of the two renders.
    * `resolve_follows` — resolving a name keeps them tied.
    * `renderWithin_inMode` — a render that ends without keeping results ends alike with
      keeping them, and visits the same layers without the repetitions.
-/
import LayerTemplates.Proofs.Render.Resolving

namespace LayerTemplates

/-! ## §1. The mode. -/

/-- No getter of the set looks at the mode of the render. -/
def GetterSet.IgnoresMode (s : GetterSet) : Prop :=
  ∀ (name : String) (getter : Getter), s.find name = some getter →
    ∀ (call : GetterCall) (fast : Bool),
      getter { call with options := { call.options with fast } } = getter call

/-- The getters of the set give the same for the same layer, in either mode and however often they
are called. -/
structure GetterSet.Steady (s : GetterSet) : Prop where
  mode : s.IgnoresMode
  past : s.IgnoresPast

theorem GetterSet.steady_none : GetterSet.none.Steady where
  mode name getter hfind := absurd hfind (by simp [find])
  past := ignoresPast_none

namespace Renderer

/-- The renderer with results kept or not. -/
def inMode (r : Renderer) (fast : Bool) : Renderer :=
  { r with options := { r.options with fast } }

variable (r : Renderer) (fast : Bool)

theorem noted_inMode (name : String) (s : RenderState) :
    (r.inMode fast).noted name s = r.noted name s := rfl

/-- A name plans the same in either mode: only the call of a getter mentions it. -/
theorem plan_inMode (h : r.getters.IgnoresMode) (previous : List CallRecord) (name : String) :
    (r.inMode fast).plan previous name = r.plan previous name :=
  plan_congr rfl rfl rfl rfl fun getter hfind entry value =>
    h name getter hfind (r.callFor previous entry name value) fast

end Renderer

/-! ## §2. Two renders side by side. -/

namespace RenderState

/-- What ties a render that keeps results (state `f`) to one that does not (state `s`). -/
structure Follows (r : Renderer) (s f : RenderState) : Prop where
  plain : s.Plain
  fast : f.fast = true
  inProgress : f.inProgress = s.inProgress
  /-- Nothing is visited twice where results are kept. -/
  visited : f.visited.toList = s.visited.toList.eraseDups
  /-- What was visited is in progress or was kept. -/
  seen : ∀ name, name ∈ f.visited.toList ↔ name ∈ f.inProgress ∨ (f.cached name).isSome
  /-- Nothing is in progress and kept at once. -/
  apart : ∀ name, (f.cached name).isSome → name ∉ f.inProgress
  /-- What was kept is found again, and so was kept all that is entered for it. -/
  known : ∀ name result, f.cached name = some result →
    ∃ depth names, r.Replays depth name result names ∧
      ∀ other ∈ names, (f.cached other).isSome

theorem nodup_eraseDups : ∀ names : List String, names.eraseDups.Nodup
  | [] => by simp
  | name :: names => by
      rw [List.eraseDups_cons, List.nodup_cons]
      refine ⟨by simp, nodup_eraseDups (names.filter fun other => !(other == name))⟩
termination_by names => names.length
decreasing_by
  have := List.length_filter_le (fun other => !(other == name)) names
  simp only [List.length_cons]
  omega

/-- Names that were met before add nothing. -/
theorem eraseDups_append_of_mem {names more : List String} (h : ∀ name ∈ more, name ∈ names) :
    (names ++ more).eraseDups = names.eraseDups := by
  rw [List.eraseDups_append]
  have : more.removeAll names = [] := by
    simpa [List.removeAll] using h
  rw [this]
  simp

/-- A name that was not met before comes last. -/
theorem eraseDups_append_singleton {names : List String} {name : String} (h : name ∉ names) :
    (names ++ [name]).eraseDups = names.eraseDups ++ [name] := by
  rw [List.eraseDups_append]
  have : [name].removeAll names = [name] := by
    simpa [List.removeAll] using h
  rw [this]
  simp [List.eraseDups_cons]

variable {r : Renderer} {s f : RenderState}

/-- A name that was kept is neither in progress nor met for the first time. -/
theorem Follows.clear_of_cached (h : Follows r s f) {names : List String}
    (hn : ∀ name ∈ names, (f.cached name).isSome) : s.Clear names := by
  intro name hname
  rw [← h.inProgress]
  exact h.apart name (hn name hname)

/-- The render that keeps results uses one where the other finds it again. -/
theorem Follows.extended (h : Follows r s f) {names : List String}
    (hn : ∀ name ∈ names, (f.cached name).isSome) : Follows r (s.extended r names) f where
  plain := h.plain.extended names
  fast := h.fast
  inProgress := h.inProgress
  visited := by
    have hmem : ∀ name ∈ names, name ∈ s.visited.toList := by
      intro name hname
      rw [← List.mem_eraseDups, ← h.visited, h.seen]
      exact Or.inr (hn name hname)
    rw [extended_visited, eraseDups_append_of_mem hmem, h.visited]
  seen := h.seen
  apart := h.apart
  known := h.known

theorem cached_noted (name x : String) (t : RenderState) :
    (r.noted name t).cached x = t.cached x := by
  unfold cached
  rw [r.noted_cache]

/-- Both renders enter a layer that was neither kept nor is in progress. -/
theorem Follows.entered (h : Follows r s f) {name : String} (hc : f.cached name = none)
    (hp : name ∉ f.inProgress) :
    Follows r (r.noted name (s.entered name)) (r.noted name (f.entered name)) where
  plain := h.plain.entered name
  fast := by rw [r.noted_fast]; exact h.fast
  inProgress := by simp [h.inProgress]
  visited := by
    -- the fast run has seen what is in progress or kept, and the name is neither
    have hnew : name ∉ s.visited.toList := by
      rw [← List.mem_eraseDups, ← h.visited, h.seen, hc]
      simpa using hp
    rw [r.noted_visited, r.noted_visited, entered_visited, entered_visited, h.visited,
      eraseDups_append_singleton hnew]
  seen := by
    intro x
    rw [r.noted_visited, entered_visited, r.noted_inProgress, entered_inProgress, cached_noted]
    show x ∈ f.visited.toList ++ [name] ↔ x ∈ f.inProgress ++ [name] ∨ (f.cached x).isSome
    rw [List.mem_append, List.mem_append, h.seen x]
    constructor
    · rintro ((hx | hx) | hx)
      · exact Or.inl (Or.inl hx)
      · exact Or.inr hx
      · exact Or.inl (Or.inr hx)
    · rintro ((hx | hx) | hx)
      · exact Or.inl (Or.inl hx)
      · exact Or.inr hx
      · exact Or.inl (Or.inr hx)
  apart := by
    intro x hx hin
    rw [cached_noted] at hx
    rw [r.noted_inProgress, entered_inProgress] at hin
    rcases List.mem_append.1 hin with hin | hin
    · exact h.apart x hx hin
    · obtain rfl := List.mem_singleton.1 hin
      have : (f.cached x).isSome := hx
      rw [hc] at this
      exact absurd this (by simp)
  known := by
    intro x result hx
    rw [cached_noted] at hx
    obtain ⟨depth, names, hr, hn⟩ := h.known x result hx
    refine ⟨depth, names, hr, fun other ho => ?_⟩
    rw [cached_noted]
    exact hn other ho

/-- What is kept once a layer is left with a result. -/
theorem cached_left {t : RenderState} (ht : t.fast = true) (name x : String) (result : Rendered) :
    (t.left name (.ok result)).cached x = if x = name then some result else t.cached x := by
  show ((t.leave name).store name result).cached x = _
  unfold store cached
  rw [if_pos (show (t.leave name).fast = true from ht)]
  show List.lookup x ((name, result) :: t.cache) = _
  rw [List.lookup_cons]
  by_cases hx : x = name
  · simp [hx]
  · rw [if_neg hx, beq_false_of_ne hx]

/-- Both renders leave a layer with a result that is found again: `t` and `g` are the states
before leaving, and `s` is the one that the layer was entered from. -/
theorem Follows.left {t g : RenderState} {name : String} {names : List String} {depth : Nat}
    {result : Rendered} (h : Follows r t g) (ht : t.inProgress = s.inProgress ++ [name])
    (hp : name ∉ s.inProgress) (hclear : s.Clear names)
    (hreplay : r.Replays depth name result names)
    (hleft : t.left name (.ok result) = s.extended r names) (hs : s.Plain) :
    Follows r (t.left name (.ok result)) (g.left name (.ok result)) := by
  -- leaving takes the layer from those in progress to those kept
  have hg : g.inProgress = s.inProgress ++ [name] := h.inProgress.trans ht
  have hgl : (g.left name (.ok result)).inProgress = s.inProgress := by
    rw [left_inProgress, hg, erase_entered hp]
  have hkept : ∀ x, ((g.left name (.ok result)).cached x).isSome
      ↔ x = name ∨ (g.cached x).isSome := by
    intro x
    rw [cached_left h.fast]
    by_cases hx : x = name
    · simp [hx]
    · simp [hx]
  refine ⟨?_, ?_, ?_, ?_, ?_, ?_, ?_⟩
  · rw [hleft]
    exact hs.extended names
  · rw [left_fast]
    exact h.fast
  · rw [hgl, hleft]
    rfl
  · rw [left_visited, left_visited]
    exact h.visited
  · intro x
    rw [left_visited, h.seen, hgl, hkept, hg, List.mem_append, List.mem_singleton, or_assoc]
  · intro x hx
    rw [hgl]
    rcases (hkept x).1 hx with rfl | hx
    · exact hp
    · intro hin
      exact h.apart x hx (by rw [hg]; exact List.mem_append_left _ hin)
  · intro x other hx
    rw [cached_left h.fast] at hx
    by_cases hxn : x = name
    · rw [if_pos hxn] at hx
      obtain rfl := Option.some.inj hx
      subst hxn
      refine ⟨depth, names, hreplay, fun y hy => (hkept y).2 ?_⟩
      -- `y` was visited, so it is in progress or kept; of those in progress it can only be `x`
      have hyv : y ∈ g.visited.toList := by
        have : y ∈ (t.left x (.ok result)).visited.toList := by
          rw [hleft, extended_visited]
          exact List.mem_append_right _ hy
        rw [left_visited] at this
        rw [h.visited, List.mem_eraseDups]
        exact this
      rcases (h.seen y).1 hyv with hin | hc
      · rw [hg, List.mem_append, List.mem_singleton] at hin
        rcases hin with hin | rfl
        · exact absurd hin (hclear y hy)
        · exact Or.inl rfl
      · exact Or.inr hc
    · rw [if_neg hxn] at hx
      obtain ⟨depth', names', hr', hn'⟩ := h.known x other hx
      exact ⟨depth', names', hr', fun y hy => (hkept y).2 (Or.inr (hn' y hy))⟩

end RenderState

/-! ## §3. One step, and a whole run. -/

/-- Two runs end alike, and their states are tied as long as neither stopped. -/
structure Tied {α : Type} (r : Renderer) (x y : Except Halt α × RenderState) : Prop where
  outcome : y.1 = x.1
  visited : y.2.visited.toList = x.2.visited.toList.eraseDups
  follows : ∀ a, x.1 = .ok a → RenderState.Follows r x.2 y.2

/-- A plan keeps two renders tied where their resolvers do. -/
theorem Plan.run_tied {α : Type} {r : Renderer} {slow fast : String → Run RenderState Rendered}
    (h : ∀ name s f, RenderState.Follows r s f → ((slow name).outcome s).1 ≠ .error .tooDeep →
      Tied r ((slow name).outcome s) ((fast name).outcome f)) :
    ∀ (p : Plan α) (s f : RenderState), RenderState.Follows r s f →
      ((p.run slow).outcome s).1 ≠ .error .tooDeep →
        Tied r ((p.run slow).outcome s) ((p.run fast).outcome f) := by
  intro p
  induction p with
  | done a => intro s f hf _; exact ⟨rfl, hf.visited, fun _ _ => hf⟩
  | stop e => intro s f hf _; exact ⟨rfl, hf.visited, fun _ _ => hf⟩
  | ask name next ih =>
      intro s f hf hs
      rw [Plan.outcome_ask] at hs
      rw [Plan.outcome_ask, Plan.outcome_ask]
      rcases ha : (slow name).outcome s with ⟨halt | answer, s'⟩ <;> rw [ha] at hs
      · have hstep := h name s f hf (outcome_ne_of_error ha hs)
        rcases hb : (fast name).outcome f with ⟨o, f'⟩
        rw [ha, hb] at hstep
        obtain rfl : o = .error halt := hstep.outcome
        exact ⟨rfl, hstep.visited, fun a ha => absurd ha (by simp)⟩
      · have hstep := h name s f hf (by rw [ha]; simp)
        rcases hb : (fast name).outcome f with ⟨o, f'⟩
        rw [ha, hb] at hstep
        obtain rfl : o = .ok answer := hstep.outcome
        exact ih answer s' f' (hstep.follows answer rfl) hs

namespace Renderer

variable {r : Renderer}

/-- A result that was kept is what the other render finds once more. -/
theorem tied_of_cached {depth : Nat} {name : String} {s f : RenderState} {result : Rendered}
    (h : RenderState.Follows r s f) (hc : f.cached name = some result)
    (hs : ((r.resolve depth name).outcome s).1 ≠ .error .tooDeep) :
    Tied r ((r.resolve depth name).outcome s) (.ok result, f) := by
  obtain ⟨other, names, hreplay, hkept⟩ := h.known name result hc
  have hfound : (r.resolve other name).outcome s = (.ok result, s.extended r names) :=
    hreplay s h.plain (h.clear_of_cached hkept)
  -- it was found at some other depth, which makes no difference
  have hsame : (r.resolve depth name).outcome s = (.ok result, s.extended r names) := by
    rw [r.outcome_resolve_agree hs (by rw [hfound]; simp), hfound]
  rw [hsame]
  exact ⟨rfl, (h.extended hkept).visited, fun _ _ => h.extended hkept⟩

/-- **Resolving a name keeps the two renders tied.** -/
theorem resolve_follows (hg : r.getters.Steady) (depth : Nat) :
    ∀ (name : String) (s f : RenderState), RenderState.Follows r s f →
      ((r.resolve depth name).outcome s).1 ≠ .error .tooDeep →
        Tied r ((r.resolve depth name).outcome s)
          (((r.inMode true).resolve depth name).outcome f) := by
  -- on the depth; where nothing was kept, both renders run the same plan
  induction depth with
  | zero => intro name s f _ hs; exact absurd rfl hs
  | succ depth ih =>
      intro name s f hf hs
      rw [outcome_resolve (r.inMode true)]
      cases hc : f.cached name with
      | some result => exact tied_of_cached hf hc hs
      | none =>
          dsimp only
          rw [plan_inMode r true hg.mode, r.plan_past hg.past f.calls.toList s.calls.toList,
            noted_inMode, hf.inProgress]
          have hsc := hf.plain.cached name
          by_cases hp : name ∈ s.inProgress
          · -- a cycle stops both
            rw [if_pos hp, outcome_resolve, hsc]
            dsimp only
            rw [if_pos hp]
            exact ⟨rfl, hf.visited, fun _ h => absurd h (by simp)⟩
          · rw [if_neg hp]
            have hentered := hf.entered hc (by rw [hf.inProgress]; exact hp)
            have hgrown := Plan.run_grown (r.resolve_grown depth) (r.plan s.calls.toList name)
              (r.noted name (s.entered name))
            rcases hx : ((r.plan s.calls.toList name).run (r.resolve depth)).outcome
              (r.noted name (s.entered name)) with ⟨o, t⟩
            rcases hy : ((r.plan s.calls.toList name).run ((r.inMode true).resolve depth)).outcome
              (r.noted name (f.entered name)) with ⟨o', g⟩
            have hout := r.outcome_resolve_new depth hsc hp hx
            rw [hout] at hs ⊢
            have htied := Plan.run_tied ih (r.plan s.calls.toList name) _ _ hentered
              (by rw [hx]; exact hs)
            rw [hx] at hgrown htied
            rw [hy] at htied
            obtain rfl : o' = o := htied.outcome
            cases o' with
            | error halt =>
                -- what stopped the plan stops both, and nothing is kept
                refine ⟨rfl, ?_, fun _ h => absurd h (by simp)⟩
                show (g.left name _).visited.toList = (t.left name _).visited.toList.eraseDups
                rw [RenderState.left_visited, RenderState.left_visited]
                exact htied.visited
            | ok result =>
                -- the result that is kept now can be found again, and leaves the same state
                obtain ⟨names, hclear, hreplay⟩ :=
                  r.resolve_replays hg.past (depth + 1) name s result _ hf.plain hout
                obtain ⟨entered, hgrown⟩ := hgrown
                have hleft : t.left name (.ok result) = s.extended r names := by
                  have := hreplay s hf.plain hclear
                  rw [hout] at this
                  exact (Prod.mk.inj this).2
                have ht : t.inProgress = s.inProgress ++ [name] := by
                  rw [hgrown.inProgress, r.noted_inProgress, RenderState.entered_inProgress]
                have hfollows := (htied.follows result rfl).left ht hp hclear hreplay hleft hf.plain
                exact ⟨rfl, hfollows.visited, fun _ _ => hfollows⟩

end Renderer

/-! ## §4. Whole renders. -/

namespace Renderer

/-- The getters called for some layers are those of these layers, in the same order. -/
theorem map_name_filterMap_callOf? (r : Renderer) (names : List String) :
    ((names.filterMap r.callOf?).map CallRecord.name).Sublist names := by
  induction names with
  | nil => exact List.Sublist.slnil
  | cons name names ih =>
      rw [List.filterMap_cons]
      cases hc : r.callOf? name with
      | none => exact ih.cons name
      | some call =>
          rw [List.map_cons, r.callOf?_name hc]
          exact ih.cons_cons name

/-- The two renders start tied. -/
theorem follows_fresh (r : Renderer) :
    RenderState.Follows r { fast := false } { fast := true } where
  plain := ⟨rfl, rfl⟩
  fast := rfl
  inProgress := rfl
  visited := rfl
  seen name := by simp [RenderState.cached]
  apart name h := absurd h (by simp [RenderState.cached])
  known name result h := absurd h (by simp [RenderState.cached])

/-- **Keeping results changes nothing but the work done.**  A render that ends without keeping
results ends with keeping them too, with the same result or the same error.  It visits the same
layers without the repetitions, and so enters every layer, and calls its getter, at most once.
The depth is any depth; that of `render` is the same in both modes. -/
theorem renderWithin_inMode (r : Renderer) (hg : r.getters.Steady) (depth : Nat)
    (ends : ((r.inMode false).renderWithin depth).1 ≠ .error .tooDeep) :
    let slow := (r.inMode false).renderWithin depth
    let fast := (r.inMode true).renderWithin depth
    fast.1 = slow.1
      ∧ fast.2.visited.toList = slow.2.visited.toList.eraseDups
      ∧ fast.2.visited.toList.Nodup
      ∧ (fast.2.calls.toList.map CallRecord.name).Nodup := by
  intro slow fast
  -- the two renders are tied from their fresh states on
  have htied : Tied (r.inMode false) slow fast := by
    show Tied _ ((r.inMode false).renderWithin depth) ((r.inMode true).renderWithin depth)
    rw [renderWithin_eq] at ends ⊢
    rw [renderWithin_eq, show (r.inMode true).refusal? = (r.inMode false).refusal? from rfl]
    cases hr : (r.inMode false).refusal? with
    | some e => exact ⟨rfl, rfl, fun _ h => absurd h (by simp)⟩
    | none =>
        rw [hr] at ends
        exact resolve_follows (r := r.inMode false) hg depth _ _ _ (follows_fresh _) ends
  -- the getters that were called are those of the layers visited
  obtain ⟨names, hgrown⟩ : ∃ names, RenderState.Grown r { fast := true } fast.2 names := by
    show ∃ names, RenderState.Grown r { fast := true } ((r.inMode true).renderWithin depth).2 names
    rw [renderWithin_eq]
    cases (r.inMode true).refusal? with
    | some e => exact ⟨[], RenderState.Grown.refl _⟩
    | none =>
        obtain ⟨names, h⟩ := (r.inMode true).resolve_grown depth _ { fast := true }
        exact ⟨names, h.visited, h.calls, h.inProgress, h.fast⟩
  have hvisited : fast.2.visited.toList = names := by
    rw [hgrown.visited]
    rfl
  have hcalls : fast.2.calls.toList = names.filterMap r.callOf? := by
    rw [hgrown.calls]
    rfl
  have hnodup : fast.2.visited.toList.Nodup := by
    rw [htied.visited]
    exact RenderState.nodup_eraseDups _
  refine ⟨htied.outcome, htied.visited, hnodup, ?_⟩
  rw [hcalls]
  rw [hvisited] at hnodup
  exact (map_name_filterMap_callOf? r names).nodup hnodup

/-- Two layers that share a third one, with a getter that hands every text on. -/
def diamond : Renderer where
  data :=
    { inner := .ordered
        [("start", .string "\x7b\x7b=a\x7d\x7d\x7b\x7b=b\x7d\x7d"),
         ("a", .string "\x7b\x7b=c\x7d\x7d"), ("b", .string "\x7b\x7b=c\x7d\x7d"),
         ("c", .string "x")] }
  getters := .single fun call => .ok call.value

theorem renderWithin_inMode_diamond :
    diamond.getters.Steady
      ∧ ((diamond.inMode false).renderWithin 5).1 ≠ .error .tooDeep
      ∧ ((diamond.inMode true).renderWithin 5).1 = ((diamond.inMode false).renderWithin 5).1
      ∧ ((diamond.inMode true).renderWithin 5).2.visited.toList
        = ((diamond.inMode false).renderWithin 5).2.visited.toList.eraseDups
      ∧ ((diamond.inMode true).renderWithin 5).2.visited.toList.Nodup
      ∧ (((diamond.inMode true).renderWithin 5).2.calls.toList.map CallRecord.name).Nodup := by
  have hgetters : diamond.getters.Steady := by
    constructor
    all_goals
      intro name getter hfind call _
      obtain rfl := Option.some.inj hfind
      rfl
  have ends : ((diamond.inMode false).renderWithin 5).1 ≠ .error .tooDeep := by
    intro h
    have hslow : ((diamond.inMode false).renderWithin 5).1.toBool = true := by decide +kernel
    rw [h] at hslow
    exact absurd hslow (by decide)
  exact ⟨hgetters, ends, renderWithin_inMode diamond hgetters 5 ends⟩

end Renderer

end LayerTemplates
