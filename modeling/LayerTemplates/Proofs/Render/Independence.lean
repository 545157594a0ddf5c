/-
  LayerTemplates.Proofs.Render.Independence
  ─────────────────────────────────────────
  What a layer amounts to does not depend on where it is inserted.

  The layers in progress touch a run in one place: a name among them is a cycle.  With fewer
  layers in progress a run can therefore only get further.  A run that ended with a result, or
  with an error that is no cycle, was never stopped so, and it ends alike; the results that
  were kept are such results, so it makes no difference either where they are used.

  Main statements:
    * `Plan.run_alike` — two runs of a plan that agree on every settled answer.
    * `resolve_within` — a settled answer is the same with fewer layers in progress.
    * `Requested.exists_plain` — what a render has kept at any request are such answers.
    * `value_independent_of_place` — so a layer that is entered amounts to what it does alone.
-/
import LayerTemplates.Proofs.Layer.Naming
import LayerTemplates.Proofs.Render.FastMode
import LayerTemplates.Proofs.Render.Relevance

namespace LayerTemplates

/-! ## §1. Settled outcomes. -/

/-- A result, or an error of any other kind than a cycle. -/
def Settled {α : Type} : Except Halt α → Prop
  | .ok _ => True
  | .error .tooDeep | .error (.error (.cyclicDependence _)) => False
  | .error (.error _) => True

theorem Settled.ne_tooDeep {α : Type} {o : Except Halt α} (h : Settled o) :
    o ≠ .error .tooDeep := by
  rintro rfl
  exact h

theorem settled_of_isOk {α : Type} {o : Except Halt α} (h : o.isOk = true) : Settled o := by
  cases o with
  | ok a => trivial
  | error halt => exact absurd h (by simp [Except.isOk, Except.toBool])

/-- What stopped an answer stops the run, which is settled only if the answer was. -/
theorem Settled.of_error {α β : Type} {halt : Halt} (h : Settled (.error halt : Except Halt α)) :
    Settled (.error halt : Except Halt β) := by
  unfold Settled at h ⊢
  split at h
  · next heq => exact absurd heq (by simp)
  · exact h.elim
  · exact h.elim
  · next e he heq =>
      obtain rfl := Except.error.inj heq
      split
      · trivial
      · next heq' => exact absurd heq' (by simp)
      · next chain heq' => exact absurd (Halt.error.inj (Except.error.inj heq')) (he chain)
      · trivial

/-- Two runs end alike, and their states are related if they end with a result. -/
structure Alike {α σ τ : Type} (rel : σ → τ → Prop) (x : Except Halt α × σ)
    (y : Except Halt α × τ) : Prop where
  outcome : y.1 = x.1
  related : ∀ a, x.1 = .ok a → rel x.2 y.2

/-- **Two runs of a plan are alike if they are in every settled answer** and the first one is
settled in the end. -/
theorem Plan.run_alike {α σ τ : Type} {resolve : String → Run σ Rendered}
    {resolve' : String → Run τ Rendered} {rel : σ → τ → Prop}
    (h : ∀ name s t, rel s t → Settled ((resolve name).outcome s).1 →
      Alike rel ((resolve name).outcome s) ((resolve' name).outcome t)) (p : Plan α) :
    ∀ s t, rel s t → Settled ((p.run resolve).outcome s).1 →
      Alike rel ((p.run resolve).outcome s) ((p.run resolve').outcome t) := by
  induction p with
  | done a => exact fun s t hrel _ => ⟨rfl, fun _ _ => hrel⟩
  | stop e => exact fun s t hrel _ => ⟨rfl, fun _ _ => hrel⟩
  | ask name next ih =>
      intro s t hrel hsettled
      rw [outcome_ask] at hsettled ⊢
      rw [outcome_ask]
      rcases ha : (resolve name).outcome s with ⟨halt | answer, s'⟩ <;> rw [ha] at hsettled
      · have hanswer := h name s t hrel (by rw [ha]; exact hsettled.of_error)
        rcases hb : (resolve' name).outcome t with ⟨o, t'⟩
        rw [ha, hb] at hanswer
        obtain rfl : o = .error halt := hanswer.outcome
        exact ⟨rfl, fun a hok => absurd hok (by simp)⟩
      · have hanswer := h name s t hrel (by rw [ha]; trivial)
        rcases hb : (resolve' name).outcome t with ⟨o, t'⟩
        rw [ha, hb] at hanswer
        obtain rfl : o = .ok answer := hanswer.outcome
        exact ih answer s' t' (hanswer.related answer rfl) hsettled

/-! ## §2. Fewer layers in progress. -/

/-- Every result that is kept is what its name amounts to when nothing is in progress. -/
def RenderState.Faithful (r : Renderer) (t : RenderState) : Prop :=
  ∀ name result, t.cached name = some result →
    ∃ depth, ((r.resolve depth name).outcome {}).1 = .ok result

theorem RenderState.Plain.faithful {t : RenderState} (h : t.Plain) (r : Renderer) :
    t.Faithful r := by
  intro name result hkept
  rw [h.cached name] at hkept
  exact absurd hkept (by simp)

namespace Renderer

variable {r : Renderer}

/-- A name amounts to the same result from every state without results from which its run is
settled. -/
def Determined (r : Renderer) : Prop :=
  ∀ depth name s, s.Plain → Settled ((r.resolve depth name).outcome s).1 →
    ∀ other result, ((r.resolve other name).outcome {}).1 = .ok result →
      ((r.resolve depth name).outcome s).1 = .ok result

/-- What the second state has in progress the first one has as well, and the results that it
keeps are faithful.  While it is not known that names are determined it keeps none. -/
structure Within (r : Renderer) (s t : RenderState) : Prop where
  plain : s.Plain
  inProgress : ∀ name ∈ t.inProgress, name ∈ s.inProgress
  kept : t.Plain ∨ r.Determined ∧ t.Faithful r

/-- A result that is found without keeping results is found from a fresh state. -/
theorem fresh_of_plain (hpast : r.getters.IgnoresPast) {depth : Nat} {name : String}
    {s : RenderState} {result : Rendered} (hs : s.Plain)
    (h : ((r.resolve depth name).outcome s).1 = .ok result) :
    ∃ depth, ((r.resolve depth name).outcome {}).1 = .ok result := by
  obtain ⟨names, -, hreplay⟩ := r.resolve_replays hpast depth name s result _ hs (Prod.ext h rfl)
  have hfresh := hreplay {} ⟨rfl, rfl⟩ fun other _ => List.not_mem_nil
  exact ⟨depth, congrArg Prod.fst hfresh⟩

theorem Within.entered {s t : RenderState} (h : r.Within s t) (name : String) :
    r.Within (r.noted name (s.entered name)) (r.noted name (t.entered name)) where
  plain := h.plain.entered name
  inProgress other hother := by
    rw [noted_entered_inProgress] at hother ⊢
    rcases List.mem_append.1 hother with hother | hother
    · exact List.mem_append_left _ (h.inProgress other hother)
    · exact List.mem_append_right _ hother
  kept := h.kept.imp (fun hplain => hplain.entered name) fun ⟨hdetermined, hfaithful⟩ =>
    ⟨hdetermined, fun other result hkept => hfaithful other result (by
      rwa [RenderState.cached_noted] at hkept)⟩

/-- Leaving a layer with a result that is found from a fresh state keeps results faithful. -/
theorem faithful_left {t : RenderState} (h : t.Faithful r) {name : String} {result : Rendered}
    (hresult : ∃ depth, ((r.resolve depth name).outcome {}).1 = .ok result) :
    (t.left name (.ok result)).Faithful r := by
  intro other found hkept
  by_cases hfast : t.fast = true
  · rw [RenderState.cached_left hfast] at hkept
    by_cases hother : other = name
    · rw [if_pos hother] at hkept
      obtain rfl := Option.some.inj hkept
      rwa [hother]
    · rw [if_neg hother] at hkept
      exact h other found hkept
  · -- nothing more is kept
    replace hkept : ((t.leave name).store name result).cached other = some found := hkept
    unfold RenderState.store at hkept
    rw [if_neg (show ¬ (t.leave name).fast = true from hfast)] at hkept
    exact h other found hkept

/-- A result that is kept is the settled answer of the run that keeps none. -/
theorem Within.of_kept {depth : Nat} {name : String} {s s' t : RenderState} {result : Rendered}
    {o : Except Halt Rendered} (h : r.Within s t)
    (hout : (r.resolve depth name).outcome s = (o, s')) (hsettled : Settled o)
    (hstays : s'.Plain) (hpath : s'.inProgress = s.inProgress)
    (hkept : t.cached name = some result) : Alike r.Within (o, s') (.ok result, t) := by
  rcases h.kept with hplain | ⟨hdetermined, hfaithful⟩
  · rw [hplain.cached] at hkept
    exact absurd hkept (by simp)
  · obtain ⟨other, hother⟩ := hfaithful name result hkept
    have hresult := hdetermined depth name s h.plain (by rw [hout]; exact hsettled) other result
      hother
    rw [hout] at hresult
    obtain rfl : o = .ok result := hresult
    refine ⟨rfl, fun _ _ => ⟨hstays, ?_, Or.inr ⟨hdetermined, hfaithful⟩⟩⟩
    rw [hpath]
    exact h.inProgress

/-- **A settled answer is the same with fewer layers in progress**, whatever faithful results are
kept there, if no getter goes by what was called before. -/
theorem resolve_within (hpast : r.getters.IgnoresPast) (depth : Nat) :
    ∀ (name : String) (s t : RenderState), r.Within s t →
      Settled ((r.resolve depth name).outcome s).1 →
        Alike r.Within ((r.resolve depth name).outcome s) ((r.resolve depth name).outcome t) := by
  -- on the depth; a name that is in progress for the second run is a cycle for the first one, and
  -- otherwise both enter the layer and follow its plan
  induction depth with
  | zero => exact fun name s t _ hsettled => hsettled.elim
  | succ depth ih =>
      intro name s t hwithin hsettled
      have hplain := hwithin.plain
      rw [outcome_resolve] at hsettled
      rw [hplain.cached] at hsettled
      dsimp only at hsettled
      by_cases hp : name ∈ s.inProgress
      · rw [if_pos hp] at hsettled
        exact hsettled.elim
      rw [if_neg hp] at hsettled
      have hpt : name ∉ t.inProgress := fun hin => hp (hwithin.inProgress name hin)
      rcases hx : ((r.plan s.calls.toList name).run (r.resolve depth)).outcome
        (r.noted name (s.entered name)) with ⟨o, s'⟩
      rw [hx] at hsettled
      dsimp only at hsettled
      have hout := r.outcome_resolve_new depth (hplain.cached name) hp hx
      have hsame : (s'.left name o).Plain ∧ (s'.left name o).inProgress = s.inProgress := by
        have hstays := r.resolve_plain (depth + 1) name s hplain
        have hpath := resolve_inProgress r (depth + 1) name s
        rw [hout] at hstays hpath
        exact ⟨hstays, hpath⟩
      rw [hout]
      cases hc : t.cached name with
      | some result =>
          -- what was kept is what the first run has found
          have hfound : (r.resolve (depth + 1) name).outcome t = (.ok result, t) := by
            rw [outcome_resolve, hc]
          rw [hfound]
          exact hwithin.of_kept hout hsettled hsame.1 hsame.2 hc
      | none =>
          have halike := Plan.run_alike ih (r.plan s.calls.toList name) _ _ (hwithin.entered name)
            (by rw [hx]; exact hsettled)
          rw [r.plan_past hpast s.calls.toList t.calls.toList] at hx halike
          rcases hy : ((r.plan t.calls.toList name).run (r.resolve depth)).outcome
            (r.noted name (t.entered name)) with ⟨o', t'⟩
          rw [hx, hy] at halike
          obtain rfl : o' = o := halike.outcome
          have hout' := r.outcome_resolve_new depth hc hpt hy
          have hpath := resolve_inProgress r (depth + 1) name t
          rw [hout'] at hpath ⊢
          refine ⟨rfl, fun result hresult => ?_⟩
          obtain rfl : o' = .ok result := hresult
          refine ⟨hsame.1, ?_, ?_⟩
          · rw [hsame.2, show (t'.left name (.ok result)).inProgress = t.inProgress from hpath]
            exact hwithin.inProgress
          · refine (halike.related result rfl).kept.imp (fun ht => ht.left name _) ?_
            rintro ⟨hdetermined, hfaithful⟩
            exact ⟨hdetermined,
              faithful_left hfaithful (fresh_of_plain hpast hplain (by rw [hout]))⟩

/-- Names are determined: from a fresh state they amount to what they do elsewhere. -/
theorem determined (hpast : r.getters.IgnoresPast) : r.Determined := by
  intro depth name s hs hsettled other result hother
  have hwithin : r.Within s {} := ⟨hs, fun name hname => absurd hname List.not_mem_nil,
    Or.inl ⟨rfl, rfl⟩⟩
  have hfresh := (resolve_within hpast depth name s {} hwithin hsettled).outcome
  have hagree : (r.resolve depth name).outcome {} = (r.resolve other name).outcome {} :=
    r.outcome_resolve_agree (by rw [hfresh]; exact hsettled.ne_tooDeep) (by rw [hother]; simp)
  rw [← hfresh, hagree, hother]

/-- A settled answer is the same from every faithful state with fewer layers in progress, and at
every greater depth. -/
theorem resolve_eq_of_subset (hpast : r.getters.IgnoresPast) {depth deeper : Nat}
    {name : String} {s t : RenderState} (hs : s.Plain) (ht : t.Faithful r)
    (hsubset : ∀ other ∈ t.inProgress, other ∈ s.inProgress)
    (hsettled : Settled ((r.resolve depth name).outcome s).1) (hd : depth ≤ deeper) :
    ((r.resolve deeper name).outcome t).1 = ((r.resolve depth name).outcome s).1 := by
  have halike :=
    resolve_within hpast depth name s t ⟨hs, hsubset, Or.inr ⟨determined hpast, ht⟩⟩ hsettled
  rw [r.outcome_resolve_mono hd name t (by rw [halike.outcome]; exact hsettled.ne_tooDeep)]
  exact halike.outcome

/-! ## §3. Requests of a render. -/

end Renderer

/-- Where a plan asks while results are kept, it asks in a run that keeps none, from a state that
is tied to this one. -/
theorem Plan.Asks.follows {α : Type} {r : Renderer} {slow fast : String → Run RenderState Rendered}
    (h : ∀ name s f, RenderState.Follows r s f → ((slow name).outcome s).1 ≠ .error .tooDeep →
      Tied r ((slow name).outcome s) ((fast name).outcome f)) {p : Plan α} {name : String}
    {f g : RenderState} (hasks : p.Asks fast f name g) :
    ∀ s, RenderState.Follows r s f → ((p.run slow).outcome s).1 ≠ .error .tooDeep →
      ∃ t, RenderState.Follows r t g ∧ ((slow name).outcome t).1 ≠ .error .tooDeep := by
  induction hasks with
  | first name next f =>
      intro s hfollows hrun
      exact ⟨s, hfollows, Asks.outcome_ne (.first name next s) hrun⟩
  | @later first name next f f' g answer answered _ ih =>
      intro s hfollows hrun
      have hslow := Asks.outcome_ne (.first first next s) hrun
      have htied := h first s f hfollows hslow
      rw [answered] at htied
      -- the answer is the same, so the rest of the plan is
      rcases hs : (slow first).outcome s with ⟨o, s'⟩
      rw [hs] at htied
      obtain rfl : .ok answer = o := htied.outcome
      rw [outcome_ask, hs] at hrun
      exact ih s' (htied.follows answer rfl) hrun

namespace Renderer

variable {r : Renderer}

theorem steady_of_none (hnone : r.getters = .none) : r.getters.Steady :=
  hnone ▸ GetterSet.steady_none

/-- Without getters the mode matters only to what the state keeps. -/
theorem outcome_inMode (hnone : r.getters = .none) (fast : Bool) (depth : Nat) (name : String)
    (s : RenderState) :
    ((r.inMode fast).resolve depth name).outcome s = (r.resolve depth name).outcome s :=
  resolve_congr depth name s fun x _ =>
    ⟨fun previous => r.plan_inMode fast (steady_of_none hnone).mode previous x, rfl⟩

theorem resolve_tied (hnone : r.getters = .none) (depth : Nat) (name : String)
    (s f : RenderState) (h : RenderState.Follows r s f)
    (hends : ((r.resolve depth name).outcome s).1 ≠ .error .tooDeep) :
    Tied r ((r.resolve depth name).outcome s) ((r.resolve depth name).outcome f) := by
  have htied := resolve_follows (steady_of_none hnone) depth name s f h hends
  rwa [outcome_inMode hnone] at htied

/-- Resolving the entry point without keeping results ends. -/
theorem resolve_entryPoint_ne_tooDeep (hnone : r.getters = .none) (haccepted : r.refusal? = none) :
    ((r.resolve r.depthLimit r.options.entryPoint).outcome {}).1 ≠ .error .tooDeep := by
  have hends : (r.inMode false).render.1 ≠ .error .tooDeep := render_ne_tooDeep hnone
  unfold render at hends
  rw [renderWithin_eq, show (r.inMode false).refusal? = r.refusal? from rfl, haccepted] at hends
  dsimp only at hends
  rwa [outcome_inMode hnone] at hends

/-- Every request of a render that keeps results is tied to one without. -/
theorem Requested.follows (hnone : r.getters = .none) (hfast : r.options.fast = true) {q : Request}
    (h : r.Requested r.depthLimit q) :
    ∃ s, RenderState.Follows r s q.state
      ∧ ((r.resolve q.depth q.name).outcome s).1 ≠ .error .tooDeep := by
  refine h.keeps (fun q => ∃ s, RenderState.Follows r s q.state
    ∧ ((r.resolve q.depth q.name).outcome s).1 ≠ .error .tooDeep) ?_ ?_
  · refine ⟨{}, ?_, resolve_entryPoint_ne_tooDeep hnone h.accepted⟩
    show RenderState.Follows r {} { fast := r.options.fast }
    rw [hfast]
    exact follows_fresh r
  · rintro q q' ⟨s, hfollows, hends⟩ hmakes
    cases hmakes with
    | @intro depth name other f g uncached fresh asks =>
        replace hfollows : RenderState.Follows r s f := hfollows
        have hfresh : name ∉ s.inProgress := by
          rw [← hfollows.inProgress]
          exact fresh
        rw [outcome_resolve, hfollows.plain.cached] at hends
        dsimp only at hends
        rw [if_neg hfresh,
          r.plan_past (steady_of_none hnone).past s.calls.toList f.calls.toList] at hends
        exact asks.follows (resolve_tied hnone depth) _ (hfollows.entered uncached fresh) hends

/-- Every request has the outcome of one from a state without results that has the same layers in
progress; and what is kept at the request is faithful. -/
theorem Requested.exists_plain (hnone : r.getters = .none) {q : Request}
    (h : r.Requested r.depthLimit q) :
    q.state.Faithful r ∧ ∃ s, s.Plain ∧ s.inProgress = q.state.inProgress
      ∧ ((r.resolve q.depth q.name).outcome s).1 = (q.outcome r).1 := by
  by_cases hfast : r.options.fast = true
  · obtain ⟨s, hfollows, hends⟩ := h.follows hnone hfast
    have htied := resolve_tied hnone q.depth q.name s q.state hfollows hends
    refine ⟨fun name result hkept => ?_, s, hfollows.plain, hfollows.inProgress.symm,
      htied.outcome.symm⟩
    obtain ⟨depth, names, hreplays, -⟩ := hfollows.known name result hkept
    exact ⟨depth, congrArg Prod.fst (hreplays {} ⟨rfl, rfl⟩ fun _ _ => List.not_mem_nil)⟩
  · have hplain := h.plain (Bool.eq_false_iff.2 hfast)
    exact ⟨hplain.faithful r, q.state, hplain, rfl, rfl⟩

/-! ## §4. Other entry points. -/

/-- The same renderer with another entry point. -/
def startingAt (r : Renderer) (name : String) : Renderer :=
  { r with options := { r.options with entryPoint := name } }

theorem outcome_startingAt (hnone : r.getters = .none) (start : String) (depth : Nat)
    (name : String) (s : RenderState) :
    ((r.startingAt start).resolve depth name).outcome s = (r.resolve depth name).outcome s := by
  refine resolve_congr depth name s fun x _ => ⟨fun previous => ?_, rfl⟩
  rw [plan_eq hnone, plan_eq (r := r.startingAt start) hnone]
  rfl

theorem validate_of_refusal? (h : r.refusal? = none) : r.options.validate = .ok () := by
  unfold refusal? at h
  cases hvalidate : r.options.validate with
  | ok u => rfl
  | error reason =>
      rw [hvalidate] at h
      exact absurd h (by simp)

theorem entryPoint_ne_empty (h : r.options.validate = .ok ()) : r.options.entryPoint ≠ "" := by
  intro hempty
  unfold RenderOptions.validate at h
  rw [hempty, if_pos (by rfl)] at h
  exact absurd h (by simp)

/-- Any other name but the empty one is as good an entry point. -/
theorem validate_startingAt (h : r.options.validate = .ok ()) {name : String} (hname : name ≠ "") :
    (r.startingAt name).options.validate = .ok () := by
  have hentry := entryPoint_ne_empty h
  unfold RenderOptions.validate at h ⊢
  rw [if_neg (by simpa using hentry)] at h
  rw [if_neg (by simpa [startingAt] using hname)]
  exact h

/-- What is requested is never the empty name. -/
theorem Requested.name_ne_empty (hnone : r.getters = .none) {depth : Nat} {q : Request}
    (h : r.Requested depth q) : q.name ≠ "" := by
  have hvalid := validate_of_refusal? h.accepted
  rcases h.refers hnone with hentry | ⟨below, entry, text, layer, -, -, hparse, hmem⟩
  · rw [hentry]
    exact entryPoint_ne_empty hvalid
  · exact ParsedLayer.ne_empty_of_mem_references (visible_of_validate hvalid) hparse hmem

/-- A layer that is requested amounts to what rendering it alone gives. -/
theorem Requested.render_startingAt (hnone : r.getters = .none) {q : Request}
    (h : r.Requested r.depthLimit q) (hfound : (r.data.lookup q.name).isSome = true)
    (hsettled : Settled (q.outcome r).1) :
    (r.startingAt q.name).render.1 = (q.outcome r).1 := by
  obtain ⟨-, s, hplain, -, hsame⟩ := h.exists_plain hnone
  have haccepted : (r.startingAt q.name).refusal? = none := by
    unfold refusal?
    rw [validate_startingAt (validate_of_refusal? h.accepted) (h.name_ne_empty hnone)]
    obtain ⟨entry, hentry⟩ := Option.isSome_iff_exists.1 hfound
    dsimp only
    rw [show (r.startingAt q.name).data.lookup (r.startingAt q.name).options.entryPoint = some entry
      from hentry]
  have hends : (r.startingAt q.name).render.1 ≠ .error .tooDeep := render_ne_tooDeep hnone
  unfold render at hends ⊢
  rw [renderWithin_eq, haccepted] at hends ⊢
  dsimp only at hends ⊢
  rw [outcome_startingAt hnone] at hends ⊢
  -- at any depth that is enough for both
  have hfresh : RenderState.Faithful r { fast := (r.startingAt q.name).options.fast } :=
    fun name result hkept => absurd hkept (by simp [RenderState.cached])
  have halone := resolve_eq_of_subset (steady_of_none hnone).past hplain hfresh
    (fun other hother => absurd hother List.not_mem_nil) (by rw [hsame]; exact hsettled)
    (Nat.le_refl q.depth)
  rw [hsame] at halone
  have hagree : (r.resolve (r.startingAt q.name).depthLimit q.name).outcome
        { fast := (r.startingAt q.name).options.fast }
      = (r.resolve q.depth q.name).outcome { fast := (r.startingAt q.name).options.fast } :=
    r.outcome_resolve_agree hends (by rw [halone]; exact hsettled.ne_tooDeep)
  show ((r.resolve _ q.name).outcome _).1 = _
  rw [hagree]
  exact halone

/-- **The value of a layer does not depend on where it is inserted.**  If a name amounts to a
result, or to an error that is no cycle, where results are not kept, it amounts to the same from
every state that has no other layers in progress, at every depth from there on, also where
results are kept that were found before.  All that a render keeps is of this kind.  So a layer
that a render enters amounts to what rendering the source from this layer gives. -/
theorem value_independent_of_place (data : Layered) (options : RenderOptions) :
    let r : Renderer := { data, options }
    (∀ depth name s t, s.Plain → t.Faithful r → (∀ other ∈ t.inProgress, other ∈ s.inProgress) →
        Settled ((r.resolve depth name).outcome s).1 →
          ∀ deeper, depth ≤ deeper →
            ((r.resolve deeper name).outcome t).1 = ((r.resolve depth name).outcome s).1)
      ∧ (∀ q, r.Requested r.depthLimit q → q.state.Faithful r)
      ∧ ∀ q, r.Requested r.depthLimit q → q.Enters → (data.lookup q.name).isSome = true →
          Settled (q.outcome r).1 →
            ({ data, options := { options with entryPoint := q.name } } : Renderer).render.1
              = (q.outcome r).1 := by
  intro r
  refine ⟨?_, ?_, ?_⟩
  · intro depth name s t hs ht hsubset hsettled deeper hd
    exact resolve_eq_of_subset GetterSet.ignoresPast_none hs ht hsubset hsettled hd
  · intro q hq
    exact (hq.exists_plain rfl).1
  · intro q hq _ hfound hsettled
    exact hq.render_startingAt rfl hfound hsettled

/-- Layers of which the last one is inserted in both of the others. -/
def sharedLayers : List (String × Value) :=
  [("start", .string "\x7b\x7b=a\x7d\x7d\x7b\x7b=b\x7d\x7d"),
    ("a", .string "\x7b\x7b=b\x7d\x7d"), ("b", .string "x")]

theorem value_independent_of_place_shared :
    let r : Renderer := { data := { inner := .ordered sharedLayers }, options := {} }
    let alone : Renderer :=
      { data := { inner := .ordered sharedLayers }, options := { entryPoint := "b" } }
    let inside : RenderState := { inProgress := ["start", "a"] }
    ((r.resolve 2 "b").outcome inside).1.isOk = true
      ∧ ((r.resolve 3 "b").outcome { inProgress := ["start"] }).1
          = ((r.resolve 2 "b").outcome inside).1
      ∧ ∃ q, r.Requested r.depthLimit q ∧ q.name = "b" ∧ q.state.Faithful r
          ∧ alone.render.1 = (q.outcome r).1 := by
  intro r alone inside
  obtain ⟨hplace, hfaithful, halone⟩ :=
    value_independent_of_place { inner := .ordered sharedLayers } {}
  have hok : ((r.resolve 2 "b").outcome inside).1.isOk = true := by decide +kernel
  refine ⟨hok, ?_, ?_⟩
  · exact hplace 2 "b" inside { inProgress := ["start"] } ⟨rfl, rfl⟩
      (fun name result hkept => absurd hkept (by simp [RenderState.cached]))
      (fun other hother => List.mem_of_mem_take (i := 1) hother) (settled_of_isOk hok) 3 (by decide)
  · have hvisited : "b" ∈ (r.renderWithin r.depthLimit).2.visited.toList := by decide +kernel
    have hrender : (r.renderWithin r.depthLimit).1.isOk = true := by decide +kernel
    obtain ⟨q, hq, henters, hname⟩ :=
      (r.mem_visited_iff r.depthLimit "b").1 hvisited
    -- the render ends with a result, so whatever it requests does
    have hsettled : Settled (q.outcome r).1 := by
      apply settled_of_isOk
      cases houtcome : (q.outcome r).1 with
      | ok result => rfl
      | error halt =>
          have hne : (r.renderWithin r.depthLimit).1 ≠ .error halt := by
            intro herror
            rw [herror] at hrender
            exact absurd hrender (by simp [Except.isOk, Except.toBool])
          exact absurd houtcome (hq.outcome_ne hne)
    have hvalue := halone q hq henters (by rw [hname]; rfl) hsettled
    rw [hname] at hvalue
    exact ⟨q, hq, hname, hfaithful q hq, hvalue⟩

end Renderer

end LayerTemplates
