/-
  LayerTemplates.Proofs.Render.Check
  ──────────────────────────────────
  What the check of a layer says about rendering it.

  The check parses a text and counts the parts of its placeholders.  A text that passes has
  nothing left in it that could stop a walk, hidden or not, so what stops a render is what
  its references lead to.  Conversely a walk that comes to its end has counted the parts of
  every placeholder on its way.

  Main statements:
    * `check_eq_ok` — the check passes the texts that parse with the right numbers of parts.
    * `resolve_halts` — where every text passes, only cycles stop a run.
    * `resolve_sees` — a run that ends with a result has entered only texts that pass.
    * `render_check` — both, for a source, options and a template.
-/
import LayerTemplates.Proofs.Render.Resolving
import LayerTemplates.Proofs.Render.TreeWalk

namespace LayerTemplates

/-! ## §1. The check. -/

theorem checkArity_eq_ok {layer : ParsedLayer} {text : String} {p : Placeholder} {d : Directive} :
    checkArity layer text p d = .ok () ↔ d.arity = .eq := by
  unfold checkArity
  cases d.arity <;> simp

theorem bind_eq_ok {ε α β : Type} {e : Except ε α} {f : α → Except ε β} {b : β} :
    e >>= f = .ok b ↔ ∃ a, e = .ok a ∧ f a = .ok b := by
  cases e with
  | error e =>
      constructor
      · intro h
        exact absurd h (by simp [bind, Except.bind])
      · rintro ⟨_, ha, -⟩
        exact absurd ha (by simp)
  | ok a =>
      constructor
      · intro h
        exact ⟨a, rfl, h⟩
      · rintro ⟨_, ha, h⟩
        obtain rfl := Except.ok.inj ha
        exact h

theorem forM_eq_ok {ε α : Type} {f : α → Except ε Unit} {l : List α} :
    l.forM f = .ok () ↔ ∀ a ∈ l, f a = .ok () := by
  induction l with
  | nil => exact ⟨fun _ a ha => absurd ha (by simp), fun _ => rfl⟩
  | cons a l ih =>
      show (f a >>= fun _ => l.forM f) = .ok () ↔ _
      rw [List.forall_mem_cons, bind_eq_ok, ← ih]
      constructor
      · rintro ⟨_, h⟩
        exact h
      · intro h
        exact ⟨⟨⟩, h⟩

/-- What goes through a list stops at the first element that is refused. -/
theorem forM_eq_error {ε α : Type} {f : α → Except ε Unit} {l : List α} {e : ε}
    (h : l.forM f = .error e) :
    ∃ before a after, l = before ++ a :: after ∧ (∀ b ∈ before, f b = .ok ()) ∧ f a = .error e := by
  induction l with
  | nil => exact absurd h (by simp [List.forM, pure, Except.pure])
  | cons a l ih =>
      replace h : (f a >>= fun _ => l.forM f) = .error e := h
      cases ha : f a with
      | error e' =>
          rw [ha] at h
          obtain rfl := Except.error.inj h
          exact ⟨[], a, l, rfl, fun b hb => absurd hb (by simp), ha⟩
      | ok u =>
          rw [ha] at h
          obtain ⟨before, b, after, rfl, hbefore, hb⟩ := ih h
          exact ⟨a :: before, b, after, rfl, List.forall_mem_cons.2 ⟨ha, hbefore⟩, hb⟩

namespace Renderer

variable (r : Renderer)

/-- A text parses, and its placeholders have the right numbers of parts.  The name under which
it is read does not matter. -/
def Passes (text : String) : Prop :=
  ∀ name, ∃ layer, ParsedLayer.parse name text r.options.tags = .ok layer ∧ layer.RightParts

variable {r}

theorem parse_eq_ok {name text : String} {layer : ParsedLayer} :
    r.parse name text = .ok layer
      ↔ ParsedLayer.parse name text r.options.tags = .ok layer := by
  unfold Renderer.parse
  cases ParsedLayer.parse name text r.options.tags <;> simp

/-- **The check passes the texts that parse with the right numbers of parts.** -/
theorem check_eq_ok {name text : String} :
    (∃ layer, r.check name text = .ok layer) ↔ r.Passes text := by
  constructor
  · rintro ⟨layer, hcheck⟩ other
    unfold check at hcheck
    obtain ⟨parsed, hparse, hrest⟩ := bind_eq_ok.1 hcheck
    obtain ⟨_, hcounted, -⟩ := bind_eq_ok.1 hrest
    refine ⟨_, ParsedLayer.parse_rename (parse_eq_ok.1 hparse) other, ?_⟩
    intro p hp d hd
    have hcount := forM_eq_ok.1 hcounted p hp
    rw [hd] at hcount
    exact checkArity_eq_ok.1 hcount
  · intro hpass
    obtain ⟨layer, hparse, hright⟩ := hpass name
    refine ⟨layer, bind_eq_ok.2 ⟨layer, parse_eq_ok.2 hparse, bind_eq_ok.2 ⟨⟨⟩, ?_, rfl⟩⟩⟩
    refine forM_eq_ok.2 fun p hp => ?_
    cases hd : p.directive with
    | none => rfl
    | some d => exact checkArity_eq_ok.2 (hright p hp d hd)

end Renderer

/-! ## §2. What stops a run. -/

namespace Run

variable {σ α β : Type}

/-- Whatever stops the run is one of the causes told. -/
def HaltsWith (run : Run σ α) (cause : Halt → Prop) : Prop :=
  ∀ s halt s', run.outcome s = (.error halt, s') → cause halt

theorem HaltsWith.pure (a : α) (cause : Halt → Prop) : (pure a : Run σ α).HaltsWith cause := by
  intro s halt s' h
  exact absurd (congrArg Prod.fst h) (by simp)

theorem HaltsWith.bind {run : Run σ α} {f : α → Run σ β} {cause : Halt → Prop}
    (h : run.HaltsWith cause) (hf : ∀ a, (f a).HaltsWith cause) : (run >>= f).HaltsWith cause := by
  intro s halt s' hb
  rw [outcome_bind] at hb
  rcases hr : run.outcome s with ⟨halt' | a, s₁⟩
  · rw [hr] at hb
    obtain ⟨hhalt, -⟩ := Prod.mk.inj hb
    obtain rfl := Except.error.inj hhalt
    exact h s halt' s₁ hr
  · rw [hr] at hb
    exact hf a s₁ halt s' hb

end Run

/-- Nothing stops the evaluation of items but what stops the resolver. -/
theorem Nested.evaluateItems_haltsWith {σ : Type} (a : Arena) {resolve : String → Run σ Rendered}
    {cause : Halt → Prop} (hr : ∀ name, (resolve name).HaltsWith cause)
    {steps : List ControlStep} {items : List Item} (h : Nested steps items) :
    (evaluateItems a resolve items).HaltsWith cause := by
  -- the resolver is asked through targets only
  have htarget : ∀ target, (resolveTarget a resolve target).HaltsWith cause := by
    intro target
    cases target with
    | none => exact Run.HaltsWith.pure _ _
    | some id => exact hr _
  induction h with
  | nil =>
      rw [evaluateItems_nil]
      exact Run.HaltsWith.pure _ _
  | text _ ih =>
      rw [evaluateItems_cons]
      unfold Item.evaluate
      exact (Run.HaltsWith.pure _ _).bind fun _ => ih.bind fun _ => Run.HaltsWith.pure _ _
  | insert _ _ ih =>
      rw [evaluateItems_cons]
      unfold Item.evaluate
      exact ((htarget _).bind fun _ => Run.HaltsWith.pure _ _).bind fun _ =>
        ih.bind fun _ => Run.HaltsWith.pure _ _
  | comment _ _ ih => exact ih
  | conditional _ _ _ _ ih₁ ih₂ =>
      rw [evaluateItems_cons, evaluate_branching]
      refine ((htarget _).bind fun result => ?_).bind fun _ =>
        ih₂.bind fun _ => Run.HaltsWith.pure _ _
      split
      · exact ih₁
      · rw [evaluateItems_nil]
        exact Run.HaltsWith.pure _ _
  | alternative _ _ _ _ _ _ ih₁ ih₂ ih₃ =>
      rw [evaluateItems_cons, evaluate_branching]
      refine ((htarget _).bind fun result => ?_).bind fun _ =>
        ih₃.bind fun _ => Run.HaltsWith.pure _ _
      split
      · exact ih₁
      · exact ih₂

namespace Renderer

variable {r : Renderer}

/-- If the name leads to a text, the text passes. -/
def PassesAt (r : Renderer) (name : String) : Prop :=
  ∀ entry text, r.data.lookup name = some entry → entry.value = .string text → r.Passes text

/-- Without getters a text is read and walked. -/
theorem run_plan_of_text (hg : r.getters = .none) {name : String} {entry : Entry} {text : String}
    (hl : r.data.lookup name = some entry) (hv : entry.value = .string text)
    (previous : List CallRecord) {σ : Type} (resolve : String → Run σ Rendered) :
    (r.plan previous name).run resolve
      = Run.ofExcept (r.parse name text) >>= fun layer => walk layer text resolve := by
  have htext : r.planText previous entry name text = .done text := by
    unfold planText
    rw [hg]
    rfl
  have hplan : r.plan previous name
      = Plan.ofExcept (r.parse name text) >>= fun layer => planWalk layer text := by
    unfold plan
    rw [hl]
    dsimp only
    rw [hv]
    dsimp only
    rw [htext]
    rfl
  rw [hplan, Plan.run_bind, Plan.run_ofExcept]
  congr 1
  funext layer
  exact run_planWalk layer text resolve

/-- A name that leads to no text has a result without asking for anything. -/
theorem plan_of_not_text {name : String}
    (h : ∀ entry text, r.data.lookup name = some entry → entry.value ≠ .string text) :
    ∃ result, ∀ previous, r.plan previous name = .done result := by
  unfold plan
  cases hl : r.data.lookup name with
  | none => exact ⟨_, fun _ => rfl⟩
  | some entry =>
      dsimp only
      cases hv : entry.value with
      | string text => exact absurd hv (h entry text hl)
      | null | bool _ | number _ | array _ | object _ => exact ⟨_, fun _ => rfl⟩

/-- Either a name leads to a text or it does not. -/
theorem text_or_not (r : Renderer) (name : String) :
    (∃ entry text, r.data.lookup name = some entry ∧ entry.value = .string text)
      ∨ ∃ result, ∀ previous, r.plan previous name = .done result := by
  by_cases h : ∃ entry text, r.data.lookup name = some entry ∧ entry.value = .string text
  · exact Or.inl h
  · exact Or.inr (plan_of_not_text fun entry text hl hv => h ⟨entry, text, hl, hv⟩)

theorem plan_haltsWith (hg : r.getters = .none) (h : ∀ name, r.PassesAt name) {σ : Type}
    {resolve : String → Run σ Rendered} {cause : Halt → Prop}
    (hr : ∀ name, (resolve name).HaltsWith cause) (previous : List CallRecord) (name : String) :
    ((r.plan previous name).run resolve).HaltsWith cause := by
  rcases r.text_or_not name with ⟨entry, text, hl, hv⟩ | ⟨result, hplan⟩
  · obtain ⟨layer, hparse, hright⟩ := h name entry text hl hv name
    have haccepted := ParsedLayer.accepted_of_parse hparse
    obtain ⟨items, hitems⟩ := haccepted.nested
    rw [run_plan_of_text hg hl hv, parse_eq_ok.2 hparse]
    show (pure layer >>= fun layer => walk layer text resolve).HaltsWith cause
    rw [pure_bind, walk_eq_evaluateItems haccepted text hright hitems]
    exact (hitems.evaluateItems_haltsWith _ hr).bind fun _ => Run.HaltsWith.pure _ _
  · rw [hplan]
    exact Run.HaltsWith.pure _ _

/-- **Where every text passes, only cycles stop a run.** -/
theorem resolve_halts (hg : r.getters = .none) (h : ∀ name, r.PassesAt name) (depth : Nat) :
    ∀ name, (r.resolve depth name).HaltsWith fun halt =>
      halt = .tooDeep ∨ ∃ chain, halt = .error (.cyclicDependence chain) := by
  -- on the depth: a plan has no error of its own, so it stops where an answer does
  induction depth with
  | zero =>
      intro name s halt s' hs
      exact Or.inl (Except.error.inj (Prod.mk.inj hs).1).symm
  | succ depth ih =>
      intro name s halt s' hs
      rw [outcome_resolve] at hs
      cases hc : s.cached name with
      | some result =>
          rw [hc] at hs
          exact absurd (congrArg Prod.fst hs) (by simp)
      | none =>
          rw [hc] at hs
          dsimp only at hs
          by_cases hp : name ∈ s.inProgress
          · rw [if_pos hp] at hs
            exact Or.inr ⟨_, (Except.error.inj (Prod.mk.inj hs).1).symm⟩
          · rw [if_neg hp] at hs
            obtain ⟨ho, -⟩ := Prod.mk.inj hs
            exact plan_haltsWith hg h ih _ name _ halt _ (Prod.ext ho rfl)

end Renderer

/-! ## §3. What a run has seen. -/

section Seen

variable {σ α β : Type}

theorem outcome_bind_ok {run : Run σ α} {f : α → Run σ β} {s s' : σ} {b : β}
    (h : (run >>= f).outcome s = (.ok b, s')) :
    ∃ a s₁, run.outcome s = (.ok a, s₁) ∧ (f a).outcome s₁ = (.ok b, s') := by
  rw [outcome_bind] at h
  rcases hr : run.outcome s with ⟨halt | a, s₁⟩
  · rw [hr] at h
    exact absurd (congrArg Prod.fst h) (by simp)
  · rw [hr] at h
    exact ⟨a, s₁, rfl, h⟩

theorem arity_of_walkDirective {layer : ParsedLayer} {text : String}
    {resolve : String → Run σ Rendered} {w w' : WalkState} {p : Placeholder} {d : Directive}
    {s s' : σ} (h : (walkDirective layer text resolve w p d).outcome s = (.ok w', s')) :
    d.arity = .eq := by
  unfold walkDirective at h
  obtain ⟨_, s₁, hcheck, -⟩ := outcome_bind_ok h
  cases harity : checkArity layer text p d with
  | ok u => exact checkArity_eq_ok.1 harity
  | error e =>
      rw [harity] at hcheck
      exact absurd (congrArg Prod.fst hcheck) (by simp)

/-- Segments that were walked to their end have the right numbers of parts. -/
theorem arity_of_foldlM_walkSegment {layer : ParsedLayer} {text : String}
    {resolve : String → Run σ Rendered} (segments : List Segment) :
    ∀ (w w' : WalkState) (s s' : σ),
      (segments.foldlM (walkSegment layer text resolve) w).outcome s = (.ok w', s') →
        ∀ p, .placeholder p ∈ segments → ∀ d, p.directive = some d → d.arity = .eq := by
  induction segments with
  | nil => intro _ _ _ _ _ p hp; exact absurd hp (by simp)
  | cons segment segments ih =>
      intro w w' s s' h p hp d hd
      rw [List.foldlM_cons] at h
      obtain ⟨w₁, s₁, hfirst, hrest⟩ := outcome_bind_ok h
      rcases List.mem_cons.1 hp with rfl | hp
      · unfold walkSegment at hfirst
        dsimp only at hfirst
        rw [hd] at hfirst
        exact arity_of_walkDirective hfirst
      · exact ih w₁ w' s₁ s' hrest p hp d hd

/-- A walk that comes to its end has counted the parts of every placeholder. -/
theorem rightParts_of_walk {layer : ParsedLayer} {text : String}
    {resolve : String → Run σ Rendered} {s s' : σ} {result : Rendered}
    (h : (walk layer text resolve).outcome s = (.ok result, s')) : layer.RightParts := by
  unfold walk at h
  obtain ⟨w, s₁, hsegments, -⟩ := outcome_bind_ok h
  intro p hp d hd
  exact arity_of_foldlM_walkSegment _ _ _ _ _ hsegments p (ParsedLayer.mem_placeholders.1 hp) d hd

/-- A plan comes to its end through questions that are answered. -/
theorem Plan.run_leaves {resolve : String → Run σ Rendered} {P : σ → σ → Prop}
    (refl : ∀ s, P s s) (trans : ∀ s t u, P s t → P t u → P s u)
    (h : ∀ name s answer s', (resolve name).outcome s = (.ok answer, s') → P s s')
    (p : Plan α) :
    ∀ s result s', (p.run resolve).outcome s = (.ok result, s') → P s s' := by
  induction p with
  | done a =>
      intro s result s' hs
      rw [outcome_done] at hs
      exact (Prod.mk.inj hs).2 ▸ refl s
  | stop e =>
      intro s result s' hs
      exact absurd (congrArg Prod.fst hs) (by simp)
  | ask name next ih =>
      intro s result s' hs
      obtain ⟨answer, s₁, hanswer, hnext⟩ := outcome_bind_ok hs
      exact trans s s₁ s' (h name s answer s₁ hanswer) (ih answer s₁ result s' hnext)

end Seen

namespace Renderer

variable {r : Renderer}

/-- What was entered between the two states passes. -/
def Sees (r : Renderer) (s s' : RenderState) : Prop :=
  ∀ name ∈ s'.visited.toList, name ∈ s.visited.toList ∨ r.PassesAt name

theorem Sees.trans {s t u : RenderState} (h : r.Sees s t) (h' : r.Sees t u) : r.Sees s u := by
  intro name hname
  rcases h' name hname with hname | hpass
  · exact h name hname
  · exact Or.inr hpass

/-- A name that was expanded to its end passes. -/
theorem passesAt_of_run (hg : r.getters = .none) {σ : Type} {resolve : String → Run σ Rendered}
    {previous : List CallRecord} {name : String} {s s' : σ} {result : Rendered}
    (h : ((r.plan previous name).run resolve).outcome s = (.ok result, s')) : r.PassesAt name := by
  intro entry text hl hv
  rw [run_plan_of_text hg hl hv] at h
  obtain ⟨layer, s₁, hparse, hwalk⟩ := outcome_bind_ok h
  cases hparsed : r.parse name text with
  | error e =>
      rw [hparsed] at hparse
      exact absurd (congrArg Prod.fst hparse) (by simp)
  | ok parsed =>
      rw [hparsed] at hparse
      obtain rfl : parsed = layer := Except.ok.inj (Prod.mk.inj hparse).1
      have hright : parsed.RightParts := rightParts_of_walk hwalk
      exact fun other => ⟨_, ParsedLayer.parse_rename (parse_eq_ok.1 hparsed) other, hright⟩

/-- **A run that ends with a result has entered only texts that pass.** -/
theorem resolve_sees (hg : r.getters = .none) (depth : Nat) :
    ∀ name s result s', (r.resolve depth name).outcome s = (.ok result, s') → r.Sees s s' := by
  -- on the depth: the layer was walked to its end, and so was all that it asked for
  induction depth with
  | zero =>
      intro name s result s' hs
      exact absurd (congrArg Prod.fst hs) (by simp [resolve])
  | succ depth ih =>
      intro name s result s' hs
      rw [outcome_resolve] at hs
      cases hc : s.cached name with
      | some kept =>
          rw [hc] at hs
          obtain rfl := (Prod.mk.inj hs).2
          exact fun _ hname => Or.inl hname
      | none =>
          rw [hc] at hs
          dsimp only at hs
          by_cases hp : name ∈ s.inProgress
          · rw [if_pos hp] at hs
            exact absurd (congrArg Prod.fst hs) (by simp)
          · rw [if_neg hp] at hs
            rcases hrun : ((r.plan s.calls.toList name).run (r.resolve depth)).outcome
              (r.noted name (s.entered name)) with ⟨o, t⟩
            rw [hrun] at hs
            obtain ⟨rfl, rfl⟩ := Prod.mk.inj hs
            have hpass : r.PassesAt name := passesAt_of_run hg hrun
            have hinner : r.Sees (r.noted name (s.entered name)) t :=
              Plan.run_leaves (fun _ _ hname => Or.inl hname) (fun _ _ _ h h' => h.trans h') ih
                (r.plan s.calls.toList name) _ _ _ hrun
            -- a name is new because it was entered here or further inside
            intro other hother
            rw [RenderState.left_visited] at hother
            rcases hinner other hother with hother | hother
            · rw [r.noted_visited, RenderState.entered_visited] at hother
              rcases List.mem_append.1 hother with hother | hother
              · exact Or.inl hother
              · rw [List.mem_singleton.1 hother]
                exact Or.inr hpass
            · exact Or.inr hother

/-! ## §4. Renders. -/

/-- Every name of a render leads to the template or to an entry of the source. -/
theorem make_passesAt {data : DataSource} {options : RenderOptions} {template : Option String}
    {getters : GetterSet}
    (hentries : ∀ entry ∈ data.entries, ∀ text, entry.value = .string text →
      (make data options template getters).Passes text)
    (htemplate : ∀ text, template = some text →
      (make data options template getters).Passes text) (name : String) :
    (make data options template getters).PassesAt name := by
  have hinner : ∀ entry text, data.lookup name = some entry → entry.value = .string text →
      (make data options template getters).Passes text := by
    intro entry text hl hv
    obtain ⟨other, hother, hsame⟩ := DataSource.mem_entries_of_lookup hl
    exact hentries other hother text (by rw [hsame, hv])
  intro entry text hl hv
  cases template with
  | none => exact hinner entry text hl hv
  | some written =>
      -- the template stands in front of an entry of its name
      replace hl : (if options.entryPoint = name
          then some { key := options.entryPoint, value := .string written : Entry }
          else data.lookup name) = some entry := hl
      by_cases hname : options.entryPoint = name
      · rw [if_pos hname] at hl
        obtain rfl := Option.some.inj hl
        obtain rfl : written = text := Value.string.inj hv
        exact htemplate written rfl
      · rw [if_neg hname] at hl
        exact hinner entry text hl hv

/-- **The check says what can go wrong.**  If it passes every text of a source, and the template,
then nothing but a missing entry point or a cycle makes a render fail; and it passes every text
that a render enters on its way to a result.  The depth is any depth. -/
theorem render_check (data : DataSource) (options : RenderOptions)
    (valid : options.validate = .ok ()) (template : Option String) (depth : Nat) :
    let r := make data options template .none
    ((∀ entry ∈ data.entries, ∀ text, entry.value = .string text →
          ∃ layer, r.check entry.key text = .ok layer) →
        (∀ text, template = some text → ∃ layer, r.check options.entryPoint text = .ok layer) →
        ∀ e, (r.renderWithin depth).1 = .error (.error e) →
          e = .missingEntryPoint options.entryPoint ∨ ∃ chain, e = .cyclicDependence chain)
      ∧ ∀ result, (r.renderWithin depth).1 = .ok result →
        ∀ name ∈ (r.renderWithin depth).2.visited.toList, ∀ entry text,
          r.data.lookup name = some entry → entry.value = .string text →
            ∃ layer, r.check name text = .ok layer := by
  intro r
  -- the options are valid, so only a missing entry point refuses the render
  have hvalid : r.options.validate = .ok () := valid
  rw [renderWithin_eq]
  unfold refusal?
  rw [hvalid]
  cases r.data.lookup r.options.entryPoint with
  | none =>
      refine ⟨fun _ _ e he => Or.inl ?_, fun result hresult => ?_⟩
      · exact (Halt.error.inj (Except.error.inj he)).symm
      · exact absurd hresult (by simp)
  | some found =>
      dsimp only
      constructor
      · intro hentries htemplate e he
        have hpass : ∀ name, r.PassesAt name := make_passesAt
          (fun entry hentry text hv => check_eq_ok.1 (hentries entry hentry text hv))
          (fun text htext => check_eq_ok.1 (htemplate text htext))
        have hhalts := resolve_halts rfl hpass depth r.options.entryPoint
          { fast := r.options.fast } (.error e) _ (Prod.ext he rfl)
        rcases hhalts with hdeep | ⟨chain, hchain⟩
        · exact absurd hdeep (by simp)
        · exact Or.inr ⟨chain, Halt.error.inj hchain⟩
      · intro result hresult name hname entry text hl hv
        have hsees := resolve_sees rfl depth r.options.entryPoint
          { fast := r.options.fast } result _ (Prod.ext hresult rfl)
        rcases hsees name hname with hold | hpass
        · exact absurd hold (by simp)
        · exact check_eq_ok.2 (hpass entry text hl hv)

/-- Two layers that are needed to render each other; the check passes both. -/
def mutualSource : DataSource :=
  .ordered
    [("start", .string "\x7b\x7b=page\x7d\x7d"),
     ("page", .string "\x7b\x7bif start\x7d\x7dx\x7b\x7bend\x7d\x7d")]

theorem render_check_mutualSource :
    ({} : RenderOptions).validate = .ok ()
      ∧ (∀ e, ((make mutualSource {} none .none).renderWithin 5).1 = .error (.error e) →
          e = .missingEntryPoint "start" ∨ ∃ chain, e = .cyclicDependence chain)
      ∧ ∀ result, ((make mutualSource {} none .none).renderWithin 5).1 = .ok result →
          ∀ name ∈ ((make mutualSource {} none .none).renderWithin 5).2.visited.toList,
            ∀ entry text, (make mutualSource {} none .none).data.lookup name = some entry →
              entry.value = .string text →
                ∃ layer, (make mutualSource {} none .none).check name text = .ok layer := by
  have hentries : ∀ entry ∈ mutualSource.entries, ∀ text, entry.value = .string text →
      ∃ layer, (make mutualSource {} none .none).check entry.key text = .ok layer := by
    intro entry hentry text hv
    rcases List.mem_cons.1 hentry with rfl | hentry
    · obtain rfl := Value.string.inj hv
      exact ⟨_, rfl⟩
    · obtain rfl := List.mem_singleton.1 hentry
      obtain rfl := Value.string.inj hv
      exact ⟨_, rfl⟩
  have hmain := render_check mutualSource {} rfl none 5
  exact ⟨rfl, hmain.1 hentries (by simp), hmain.2⟩

end Renderer

end LayerTemplates
