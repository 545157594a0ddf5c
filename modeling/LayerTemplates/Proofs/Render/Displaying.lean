/-
  LayerTemplates.Proofs.Render.Displaying
  ───────────────────────────────────────
  What a layer asks for stands where text is written.

  A walk looks up the target of a placeholder only while every open conditional is visible.
  So a request is made for each reference that the walk of a layer comes to while it writes,
  and for no other: a layer all of whose references stand in hidden branches is never entered.

  Main statements:
    * `Plan.Asks.displays` — what a layer asks for it displays.
    * `ParsedLayer.Displays.asks` — a layer that is walked to its end asks for what it displays.
    * `mem_visited_iff_displays` — a render visits its entry point and what requests display.
    * `not_mem_visited` — what no request displays is not visited, however the render ends.
-/
import LayerTemplates.Proofs.Render.Check
import LayerTemplates.Proofs.Render.Requests

namespace LayerTemplates

/-! ## §1. Questions of plans that follow one another. -/

instance : LawfulMonad Plan := LawfulMonad.mk' Plan
  (by
    intro α p
    induction p with
    | done a => rfl
    | stop e => rfl
    | ask name next ih => exact congrArg (Plan.ask name) (funext ih))
  (by intros; rfl)
  (by
    intro α β γ p f g
    induction p with
    | done a => rfl
    | stop e => rfl
    | ask name next ih => exact congrArg (Plan.ask name) (funext ih))

section Following

variable {σ : Type}

/-- What a plan asks for after another one is asked for by the first or by the second. -/
theorem Plan.Asks.of_bind {α β : Type} {resolve : String → Run σ Rendered} {p : Plan α}
    {f : α → Plan β} {name : String} {t : σ} :
    ∀ {s : σ}, (p >>= f).Asks resolve s name t →
      p.Asks resolve s name t
        ∨ ∃ a s', (p.run resolve).outcome s = (.ok a, s') ∧ (f a).Asks resolve s' name t := by
  induction p with
  | done a => exact fun hasks => Or.inr ⟨a, _, rfl, hasks⟩
  | stop e =>
      intro s hasks
      have hstop : (Plan.stop e : Plan β).Asks resolve s name t := hasks
      cases hstop
  | ask first next ih =>
      intro s hasks
      replace hasks : (Plan.ask first fun answer => next answer >>= f).Asks resolve s name t :=
        hasks
      cases hasks with
      | first => exact Or.inl (.first _ next _)
      | @later _ _ _ _ s' _ answer answered rest =>
          rcases ih answer rest with hleft | ⟨a, u, hrun, hright⟩
          · exact Or.inl (.later answered hleft)
          · refine Or.inr ⟨a, u, ?_, hright⟩
            rw [outcome_ask, answered]
            exact hrun

theorem Plan.Asks.bind_left {α β : Type} {resolve : String → Run σ Rendered} {p : Plan α}
    {f : α → Plan β} {name : String} {s t : σ} (h : p.Asks resolve s name t) :
    (p >>= f).Asks resolve s name t := by
  induction h with
  | first name next s => exact .first name (fun answer => next answer >>= f) s
  | later answered _ ih => exact .later answered ih

theorem Plan.Asks.bind_right {α β : Type} {resolve : String → Run σ Rendered} {p : Plan α}
    {f : α → Plan β} {name : String} {t s' : σ} {a : α} (h : (f a).Asks resolve s' name t) :
    ∀ {s : σ}, (p.run resolve).outcome s = (.ok a, s') → (p >>= f).Asks resolve s name t := by
  induction p with
  | done b =>
      intro s hrun
      obtain ⟨hb, rfl⟩ := Prod.mk.inj hrun
      obtain rfl := Except.ok.inj hb
      exact h
  | stop e =>
      intro s hrun
      exact absurd (congrArg Prod.fst hrun) (by simp)
  | ask first next ih =>
      intro s hrun
      obtain ⟨answer, s₁, answered, hnext⟩ := outcome_bind_ok hrun
      exact .later answered (ih answer hnext)

theorem Plan.not_asks_ofExcept {α : Type} {resolve : String → Run σ Rendered}
    {e : Except RenderError α} {name : String} {s t : σ} :
    ¬ (Plan.ofExcept e).Asks resolve s name t := by
  cases e <;> rintro ⟨⟩

theorem Plan.Asks.of_query {resolve : String → Run σ Rendered} {asked name : String} {s t : σ}
    (h : (Plan.query asked).Asks resolve s name t) : name = asked := by
  cases h with
  | first => rfl
  | later _ rest => cases rest

end Following

/-! ## §2. Layers. -/

section Displays

variable {σ : Type} {layer : ParsedLayer} (text : String) (resolve : String → Run σ Rendered)

/-- A placeholder refers to a name. -/
def ParsedLayer.RefersBy (layer : ParsedLayer) (p : Placeholder) (name : String) : Prop :=
  p.directive.bind (ParsedLayer.referenceOf layer.arena) = some name

/-- A walk of the layer comes to a placeholder that refers to the name while text is written.
A reference that is never met so stands in hidden branches. -/
def ParsedLayer.Displays (layer : ParsedLayer) (s : σ) (name : String) : Prop :=
  ∃ before p rest w t, layer.segments = before ++ .placeholder p :: rest
    ∧ layer.RefersBy p name
    ∧ (before.foldlM (walkSegment layer text resolve)
        { stack := { layer := layer.name } }).outcome s = (.ok w, t)
    ∧ w.stack.isVisible = true

variable {text resolve}

/-- A placeholder that has to have a target asks for nothing else, if what follows does not. -/
theorem refersBy_of_asks_requireTarget {p : Placeholder} {d : Directive} {name : String} {s t : σ}
    {k : Rendered → Plan WalkState} (hd : p.directive = some d)
    (hparts : d.operator.expectedParts = 2) (hk : ∀ answer u, ¬ (k answer).Asks resolve u name t)
    (h : (Plan.ofExcept (requireTarget layer text p d) >>= fun target =>
      Plan.query target >>= k).Asks resolve s name t) :
    layer.RefersBy p name := by
  rcases h.of_bind with h | ⟨target, u, hrun, h⟩
  · exact absurd h Plan.not_asks_ofExcept
  rcases h.of_bind with h | ⟨answer, u', -, h⟩
  · obtain rfl := h.of_query
    unfold ParsedLayer.RefersBy ParsedLayer.referenceOf
    rw [hd, Option.bind_some, if_pos hparts]
    rw [Plan.run_ofExcept] at hrun
    unfold requireTarget at hrun
    cases hname : d.targetName layer.arena with
    | none =>
        rw [hname] at hrun
        exact absurd (congrArg Prod.fst hrun) (by simp)
    | some other =>
        rw [hname] at hrun
        exact congrArg some (Except.ok.inj (congrArg Prod.fst hrun))
  · exact absurd h (hk answer u')

/-- What a placeholder asks for it refers to, and text is written there. -/
theorem asks_planDirective {w : WalkState} {p : Placeholder} {d : Directive} {name : String}
    {s t : σ} (hd : p.directive = some d)
    (h : (planDirective layer text w p d).Asks resolve s name t) :
    w.stack.isVisible = true ∧ layer.RefersBy p name := by
  unfold planDirective at h
  -- checking the number of parts asks for nothing
  rcases h.of_bind with h | ⟨-, u, -, h⟩
  · exact absurd h Plan.not_asks_ofExcept
  cases hop : d.operator with
  | insert | ifTrue | ifFalse =>
      rw [hop] at h
      dsimp only at h
      split at h
      · next hvisible =>
          refine ⟨hvisible, refersBy_of_asks_requireTarget hd (by rw [hop]; rfl) ?_ h⟩
          rintro _ _ ⟨⟩
      · cases h
  | otherwise | endBlock =>
      rw [hop] at h
      dsimp only at h
      rcases h.of_bind with h | ⟨a, u', -, h⟩
      · exact absurd h Plan.not_asks_ofExcept
      · cases h
  | comment =>
      rw [hop] at h
      cases h

/-- What segments ask for one of them does, when those before it were walked. -/
theorem asks_foldlM_planSegment {name : String} {t : σ} (segments : List Segment) :
    ∀ (w : WalkState) (s : σ),
      (segments.foldlM (planSegment layer text) w).Asks resolve s name t →
        ∃ before p rest w' s', segments = before ++ .placeholder p :: rest
          ∧ layer.RefersBy p name
          ∧ (before.foldlM (walkSegment layer text resolve) w).outcome s = (.ok w', s')
          ∧ w'.stack.isVisible = true := by
  -- on the segments: this one asks, or one behind it does after the walk has passed this one
  induction segments with
  | nil => intro w s h; cases h
  | cons segment segments ih =>
      intro w s h
      rw [List.foldlM_cons] at h
      rcases h.of_bind with h | ⟨w₁, s₁, hrun, h⟩
      · cases segment with
        | text id => cases h
        | placeholder p =>
            unfold planSegment at h
            dsimp only at h
            cases hd : p.directive with
            | none =>
                rw [hd] at h
                cases h
            | some d =>
                rw [hd] at h
                obtain ⟨hvisible, hrefers⟩ := asks_planDirective hd h
                exact ⟨[], p, segments, w, s, rfl, hrefers, rfl, hvisible⟩
      · obtain ⟨before, p, rest, w', s', rfl, hrefers, hwalk, hvisible⟩ := ih w₁ s₁ h
        refine ⟨segment :: before, p, rest, w', s', rfl, hrefers, ?_, hvisible⟩
        rw [run_planSegment] at hrun
        rw [List.foldlM_cons, outcome_bind, hrun]
        exact hwalk

/-- A placeholder with the right number of parts asks for what it refers to, where text is
written. -/
theorem planDirective_asks {w : WalkState} {p : Placeholder} {d : Directive} {name : String}
    {s : σ} (hd : p.directive = some d) (harity : d.arity = .eq)
    (hvisible : w.stack.isVisible = true) (hrefers : layer.RefersBy p name) :
    (planDirective layer text w p d).Asks resolve s name s := by
  unfold ParsedLayer.RefersBy ParsedLayer.referenceOf at hrefers
  rw [hd, Option.bind_some] at hrefers
  -- a reference has two parts, and its operator asks for the second where it is seen
  by_cases hparts : d.operator.expectedParts = 2
  · rw [if_pos hparts] at hrefers
    have hcheck : checkArity layer text p d = .ok () := checkArity_eq_ok.2 harity
    have hrequire : requireTarget layer text p d = .ok name := by
      unfold requireTarget
      rw [hrefers]
    have hask : ∀ {k : Rendered → Plan WalkState},
        (Plan.ofExcept (requireTarget layer text p d) >>= fun target =>
          Plan.query target >>= k).Asks resolve s name s := by
      intro k
      rw [hrequire]
      exact .first name _ s
    unfold planDirective
    rw [hcheck]
    refine Plan.Asks.bind_right ?_ rfl
    cases hop : d.operator with
    | insert | ifTrue | ifFalse =>
        dsimp only
        rw [if_pos hvisible]
        exact hask
    | otherwise | endBlock | comment =>
        rw [hop] at hparts
        exact absurd hparts (by decide)
  · rw [if_neg hparts] at hrefers
    exact absurd hrefers (by simp)

/-- A layer that is walked to its end asks for what it displays. -/
theorem ParsedLayer.Displays.asks {name : String} {s s' : σ} {result : Rendered}
    (h : layer.Displays text resolve s name)
    (hrun : ((planWalk layer text).run resolve).outcome s = (.ok result, s')) :
    ∃ t, (planWalk layer text).Asks resolve s name t := by
  obtain ⟨before, p, rest, w, t, hsegments, hrefers, hwalk, hvisible⟩ := h
  -- a walk that comes to its end has found the right number of parts everywhere
  rw [run_planWalk] at hrun
  have hright := rightParts_of_walk hrun
  have hp : p ∈ layer.placeholders := ParsedLayer.mem_placeholders.2 (by rw [hsegments]; simp)
  refine ⟨t, ?_⟩
  unfold planWalk
  apply Plan.Asks.bind_left
  rw [hsegments, List.foldlM_append]
  rw [← funext₂ (run_planSegment layer text resolve), ← Plan.run_foldlM] at hwalk
  refine Plan.Asks.bind_right ?_ hwalk
  rw [List.foldlM_cons]
  apply Plan.Asks.bind_left
  unfold planSegment
  dsimp only
  cases hd : p.directive with
  | none =>
      unfold ParsedLayer.RefersBy at hrefers
      rw [hd] at hrefers
      exact absurd hrefers (by simp)
  | some d => exact planDirective_asks hd (hright p hp d hd) hvisible hrefers

/-- **What a layer asks for stands where text is written.** -/
theorem Plan.Asks.displays {name : String} {s t : σ}
    (h : (planWalk layer text).Asks resolve s name t) : layer.Displays text resolve s name := by
  unfold planWalk at h
  rcases h.of_bind with h | ⟨w, u, -, h⟩
  · exact asks_foldlM_planSegment layer.segments _ s h
  · rcases h.of_bind with h | ⟨_, u', -, h⟩
    · exact absurd h Plan.not_asks_ofExcept
    · cases h

end Displays

/-! ## §3. Requests. -/

namespace Renderer

/-- What a name without a getter plans, in terms of its value. -/
theorem plan_eq {r : Renderer} (hnone : r.getters = .none) (previous : List CallRecord)
    (name : String) :
    r.plan previous name
      = match (r.data.lookup name).map Entry.value with
        | none => .done r.substitute
        | some (.string text) =>
            Plan.ofExcept (r.parse name text) >>= fun layer => planWalk layer text
        | some value => .done (.data value) := by
  unfold plan
  cases r.data.lookup name with
  | none => rfl
  | some entry =>
      dsimp only [Option.map_some]
      cases hv : entry.value with
      | string text =>
          have htext : r.planText previous entry name text = .done text := by
            unfold planText
            rw [hnone]
            rfl
          dsimp only
          rw [htext]
          rfl
      | null | bool _ | number _ | array _ | object _ => rfl

/-- The layer that a request enters displays a reference to a name. -/
def Displays (r : Renderer) (q : Request) (name : String) : Prop :=
  q.Enters ∧ ∃ entry text layer, r.data.lookup q.name = some entry ∧ entry.value = .string text
    ∧ ParsedLayer.parse q.name text r.options.tags = .ok layer
    ∧ layer.Displays text (r.resolve (q.depth - 1)) (r.noted q.name (q.state.entered q.name)) name

variable {r : Renderer}

/-- The text of a layer: that of the source, or what the getter in charge of it makes of that
after the calls made before. -/
inductive TextOf (r : Renderer) (previous : List CallRecord) (name : String) : String → Prop
  | source {key value : String} (found : r.data.lookup name = some ⟨key, .string value⟩)
      (free : r.getters.find name = none) : TextOf r previous name value
  | getter {key value text : String} {getter : Getter}
      (found : r.data.lookup name = some ⟨key, .string value⟩)
      (charged : r.getters.find name = some getter)
      (answered : getter (r.callFor previous ⟨key, .string value⟩ name value) = .ok text) :
      TextOf r previous name text

/-- **What a name asks for its layer displays.** -/
theorem asks_plan {r : Renderer} {resolve : String → Run RenderState Rendered}
    {previous : List CallRecord} {name other : String} {s t : RenderState}
    (h : (r.plan previous name).Asks resolve s other t) :
    ∃ text layer, r.TextOf previous name text
      ∧ ParsedLayer.parse name text r.options.tags = .ok layer ∧ layer.Displays text resolve s other := by
  unfold plan at h
  rcases hl : r.data.lookup name with _ | ⟨key, value⟩ <;> rw [hl] at h
  · cases h
  cases value with
  | string value =>
      dsimp only at h
      rcases h.of_bind with h | ⟨text, u, htext, h⟩
      · -- a getter gives a text or an error, and asks for nothing
        unfold planText at h
        split at h
        · cases h
        · split at h <;> cases h
      rcases h.of_bind with h | ⟨layer, u', hparse, h⟩
      · exact absurd h Plan.not_asks_ofExcept
      -- to find the text and to read the layer takes nothing of the state
      obtain ⟨hof, rfl⟩ : r.TextOf previous name text ∧ u = s := by
        unfold planText at htext
        cases hfind : r.getters.find name with
        | none =>
            rw [hfind] at htext
            obtain ⟨ho, rfl⟩ := Prod.mk.inj htext
            obtain rfl := Except.ok.inj ho
            exact ⟨.source hl hfind, rfl⟩
        | some getter =>
            rw [hfind] at htext
            dsimp only at htext
            rcases hanswer : getter (r.callFor previous ⟨key, .string value⟩ name value)
              with messages | answer <;> rw [hanswer] at htext
            · exact absurd (congrArg Prod.fst htext) (by simp)
            · obtain ⟨ho, rfl⟩ := Prod.mk.inj htext
              obtain rfl := Except.ok.inj ho
              exact ⟨.getter hl hfind hanswer, rfl⟩
      rw [Plan.run_ofExcept] at hparse
      cases hread : r.parse name text with
      | error e =>
          rw [hread] at hparse
          exact absurd (congrArg Prod.fst hparse) (by simp)
      | ok parsed =>
          rw [hread] at hparse
          obtain ⟨hlayer, rfl⟩ := Prod.mk.inj hparse
          obtain rfl := Except.ok.inj hlayer
          exact ⟨text, parsed, hof, parse_eq_ok.1 hread, h.displays⟩
  | null | bool _ | number _ | array _ | object _ => cases h

theorem Makes.displays (hnone : r.getters = .none) {q q' : Request} (h : r.Makes q q') :
    r.Displays q q'.name := by
  cases h with
  | @intro depth name other s t uncached fresh asks =>
      refine ⟨⟨Nat.succ_ne_zero depth, uncached, fresh⟩, ?_⟩
      obtain ⟨text, layer, hof, hparse, hdisplays⟩ := asks_plan asks
      cases hof with
      | source found _ => exact ⟨_, text, layer, found, rfl, hparse, hdisplays⟩
      | getter _ charged _ =>
          rw [hnone] at charged
          exact absurd charged (by simp [GetterSet.find])

/-- A layer that is left with a result makes a request for what it displays. -/
theorem Displays.makes (hnone : r.getters = .none) {q : Request} {name : String}
    (h : r.Displays q name) (hne : ∀ halt, (q.outcome r).1 ≠ .error halt) :
    ∃ q', r.Makes q q' ∧ q'.name = name := by
  obtain ⟨⟨hdepth, hcached, hfresh⟩, entry, text, layer, hl, hv, hparse, hdisplays⟩ := h
  obtain ⟨depth, below, s⟩ := q
  obtain ⟨depth, rfl⟩ : ∃ limit, depth = limit + 1 := ⟨depth - 1, by
    have : depth ≠ 0 := hdepth
    omega⟩
  have hplan : r.plan s.calls.toList below = planWalk layer text := by
    rw [plan_eq hnone, show r.data.lookup below = some entry from hl, Option.map_some, hv]
    dsimp only
    rw [parse_eq_ok.2 hparse]
    rfl
  unfold Request.outcome at hne
  rw [outcome_resolve, show s.cached below = none from hcached] at hne
  dsimp only at hne hfresh
  rw [if_neg hfresh, hplan] at hne
  rcases hrun : ((planWalk layer text).run (r.resolve depth)).outcome
    (r.noted below (s.entered below)) with ⟨halt | result, s'⟩
  · rw [hrun] at hne
    exact absurd rfl (hne halt)
  · obtain ⟨t, hasks⟩ := hdisplays.asks hrun
    rw [← hplan] at hasks
    exact ⟨_, .intro hcached hfresh hasks, rfl⟩

/-- Where results are not kept a request for a name that is found enters its layer. -/
theorem Requested.mem_visited {depth : Nat} {q : Request} {result : Rendered}
    (hslow : r.options.fast = false) (h : r.Requested depth q)
    (hok : (r.renderWithin depth).1 = .ok result) :
    q.name ∈ (r.renderWithin depth).2.visited.toList := by
  have hplain := h.plain hslow
  have hne : ∀ halt, (q.outcome r).1 ≠ .error halt := fun halt =>
    h.outcome_ne (by rw [hok]; simp)
  refine (r.mem_visited_iff depth q.name).2 ⟨q, h, ?_, rfl⟩
  obtain ⟨limit, name, s⟩ := q
  cases limit with
  | zero => exact absurd rfl (hne .tooDeep)
  | succ limit =>
      refine ⟨Nat.succ_ne_zero limit, hplain.cached name, fun hp => ?_⟩
      -- a layer in progress would be a cycle
      apply hne (.error (.cyclicDependence (s.inProgress ++ [name])))
      unfold Request.outcome
      rw [outcome_resolve, hplain.cached]
      dsimp only
      rw [if_pos hp]

/-- **A render with a result visits the entry point and what requests display**, if it does not
keep results. -/
theorem mem_visited_iff_displays (hnone : r.getters = .none) (hslow : r.options.fast = false)
    {depth : Nat} {result : Rendered} (hok : (r.renderWithin depth).1 = .ok result)
    (name : String) :
    name ∈ (r.renderWithin depth).2.visited.toList
      ↔ name = r.options.entryPoint ∨ ∃ q, r.Requested depth q ∧ r.Displays q name := by
  constructor
  · intro hvisited
    obtain ⟨q, ⟨haccepted, hmade⟩, -, rfl⟩ := (r.mem_visited_iff depth name).1 hvisited
    rcases Relation.ReflTransGen.cases_tail hmade with rfl | ⟨q', hmade', hmakes⟩
    · exact Or.inl rfl
    · exact Or.inr ⟨q', ⟨haccepted, hmade'⟩, hmakes.displays hnone⟩
  · have haccepted : r.refusal? = none := by
      rw [renderWithin_eq] at hok
      cases hrefusal : r.refusal? with
      | none => rfl
      | some e =>
          rw [hrefusal] at hok
          exact absurd hok (by simp)
    rintro (rfl | ⟨q, hq, hdisplays⟩)
    · exact Requested.mem_visited hslow ⟨haccepted, .refl⟩ hok
    · obtain ⟨q', hmakes, hname⟩ := hdisplays.makes hnone fun halt =>
        hq.outcome_ne (by rw [hok]; simp)
      rw [← hname]
      exact Requested.mem_visited hslow ⟨haccepted, hq.made.tail hmakes⟩ hok

/-- A layer that no request displays is not visited, unless it is the entry point. -/
theorem not_mem_visited (hnone : r.getters = .none) {depth : Nat} {name : String}
    (hentry : name ≠ r.options.entryPoint)
    (hhidden : ∀ q, r.Requested depth q → ¬ r.Displays q name) :
    name ∉ (r.renderWithin depth).2.visited.toList := by
  intro hvisited
  obtain ⟨q, ⟨haccepted, hmade⟩, -, hname⟩ := (r.mem_visited_iff depth name).1 hvisited
  rcases Relation.ReflTransGen.cases_tail hmade with rfl | ⟨q', hmade', hmakes⟩
  · exact hentry hname.symm
  · have hdisplays := hmakes.displays hnone
    rw [hname] at hdisplays
    exact hhidden q' ⟨haccepted, hmade'⟩ hdisplays

end Renderer

end LayerTemplates
