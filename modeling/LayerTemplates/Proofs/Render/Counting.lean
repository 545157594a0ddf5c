/-
  LayerTemplates.Proofs.Render.Counting
  ─────────────────────────────────────
  Which placeholder is named for a wrong number of parts.

  The check counts the parts of one placeholder after another and stops at the first one that has
  too few or too many.  A walk counts them too, before it does anything else with a placeholder
  and whether text is written there or not.  So a walk cannot get past that placeholder: it comes
  there and stops with the error of the check, or a name that it has asked for stops it before.

  Main statements:
    * `planWalk_counts` — a walk stops by itself where the check does, and nowhere else.
    * `Renderer.exists_first_of_check` — the check names the first placeholder, with a window.
    * `Renderer.check_names_first` — all of it, for every layer that is accepted.
-/
import LayerTemplates.Proofs.Render.Check
import LayerTemplates.Proofs.Render.Excerpts
import LayerTemplates.Proofs.Render.Requests
import LayerTemplates.Proofs.Render.Termination

namespace LayerTemplates

/-! ## §1. Counting. -/

/-- A placeholder has the wrong number of parts. -/
def Placeholder.Miscounted (p : Placeholder) : Prop :=
  ∃ d, p.directive = some d ∧ d.parts ≠ d.operator.expectedParts

/-- The error for a directive with the wrong number of parts. -/
inductive Directive.Refused (d : Directive) (layer shown : String) : RenderError → Prop
  | tooFew (few : d.parts < d.operator.expectedParts) :
      Refused d layer shown (.tooFewParts layer shown)
  | tooMany (many : d.operator.expectedParts < d.parts) :
      Refused d layer shown (.tooManyParts layer shown)

/-- The first placeholder with the wrong number of parts: every other one stands behind it. -/
structure ParsedLayer.FirstMiscounted (layer : ParsedLayer) (p : Placeholder) : Prop where
  mem : p ∈ layer.placeholders
  miscounted : p.Miscounted
  first : ∀ q ∈ layer.placeholders, q.Miscounted → q = p ∨ p.span.stop ≤ q.span.start

section Counting

variable {layer : ParsedLayer} {text : String} {p : Placeholder} {d : Directive} {e : RenderError}

theorem checkArity_eq_error :
    checkArity layer text p d = .error e
      ↔ d.Refused layer.name (excerpt text p layer.name) e := by
  unfold checkArity
  constructor
  · intro h
    cases harity : d.arity <;> rw [harity] at h
    · obtain rfl := Except.error.inj h
      exact .tooFew (Nat.compare_eq_lt.1 harity)
    · exact absurd h (by simp)
    · obtain rfl := Except.error.inj h
      exact .tooMany (Nat.compare_eq_gt.1 harity)
  · intro h
    cases h with
    | tooFew few => rw [show d.arity = .lt from Nat.compare_eq_lt.2 few]
    | tooMany many => rw [show d.arity = .gt from Nat.compare_eq_gt.2 many]

variable (layer text)

/-- Counts the parts of a placeholder, if it says anything. -/
def ParsedLayer.countParts (p : Placeholder) : Except RenderError Unit :=
  match p.directive with
  | some d => checkArity layer text p d
  | none => .ok ()

/-- Counts the parts of a segment, if it is a placeholder. -/
def ParsedLayer.countSegment : Segment → Except RenderError Unit
  | .text _ => .ok ()
  | .placeholder p => layer.countParts text p

variable {layer text}

theorem ParsedLayer.countParts_eq_ok : layer.countParts text p = .ok () ↔ ¬ p.Miscounted := by
  unfold countParts Placeholder.Miscounted
  cases hd : p.directive with
  | none => simp
  | some d =>
      dsimp only
      rw [checkArity_eq_ok]
      simp [Directive.arity]

theorem ParsedLayer.countParts_eq_error :
    layer.countParts text p = .error e
      ↔ ∃ d, p.directive = some d ∧ d.Refused layer.name (excerpt text p layer.name) e := by
  unfold countParts
  cases hd : p.directive with
  | none => simp
  | some d => simp [checkArity_eq_error]

/-- Counting the parts of segments is counting those of the placeholders among them. -/
theorem ParsedLayer.forM_countSegment (segments : List Segment) :
    segments.forM (layer.countSegment text)
      = (segments.filterMap Segment.placeholder?).forM (layer.countParts text) := by
  induction segments with
  | nil => rfl
  | cons segment segments ih =>
      show (layer.countSegment text segment >>= fun _ => segments.forM (layer.countSegment text))
        = _
      rw [ih]
      cases segment <;> rfl

end Counting

/-! ## §2. Walks. -/

section Walks

variable {layer : ParsedLayer} (text : String)

theorem not_isArity_of_flip {s : OpenConditionals} {entry : String} {e : RenderError}
    (h : s.flip entry = .error e) : ¬ e.IsArity layer.name := by
  unfold OpenConditionals.flip at h
  split at h
  · obtain rfl := Except.error.inj h
    exact id
  · split at h
    · obtain rfl := Except.error.inj h
      exact id
    · exact absurd h (by simp)

theorem not_isArity_of_pop {s : OpenConditionals} {entry : String} {e : RenderError}
    (h : s.pop entry = .error e) : ¬ e.IsArity layer.name := by
  unfold OpenConditionals.pop at h
  split at h
  · obtain rfl := Except.error.inj h
    exact id
  · exact absurd h (by simp)

/-- A placeholder counts its parts first, and has a target to ask for if they are right. -/
theorem planDirective_counts {w : WalkState} {p : Placeholder} {d : Directive}
    (hclassify : Directive.classify layer.arena p.roots = some d) :
    (planDirective layer text w p d).Meets (fun _ => True)
      (fun e => checkArity layer text p d = .error e ∨ ¬ e.IsArity layer.name)
      fun _ => checkArity layer text p d = .ok () := by
  unfold planDirective
  cases hcheck : checkArity layer text p d with
  | error e => exact Or.inl rfl
  | ok u =>
      -- once the parts are counted there is a target, so asking for it does not fail
      have htarget : d.operator.expectedParts = 2 →
          ∃ name, requireTarget layer text p d = .ok name := by
        intro hparts
        obtain ⟨id, hid⟩ := Directive.target_of_arity hclassify (checkArity_eq_ok.1 hcheck) hparts
        unfold requireTarget Directive.targetName
        rw [hid]
        exact ⟨_, rfl⟩
      cases hop : d.operator with
      | insert | ifTrue | ifFalse =>
          dsimp only
          split
          · obtain ⟨name, hname⟩ := htarget (by rw [hop]; rfl)
            rw [hname]
            exact ⟨trivial, fun _ => rfl⟩
          · exact rfl
      | otherwise =>
          exact (Plan.meets_ofExcept (fun _ _ => trivial)
            fun e he => Or.inr (not_isArity_of_flip he)).bind fun _ (_ : True) => rfl
      | endBlock =>
          exact (Plan.meets_ofExcept (fun _ _ => trivial)
            fun e he => Or.inr (not_isArity_of_pop he)).bind fun _ (_ : True) => rfl
      | comment => exact rfl

/-- A segment whose step fits stops by itself where its parts are counted, and nowhere else. -/
theorem planSegment_counts (h : layer.Accepted) {segment : Segment} {w : WalkState}
    {rest : List Segment} (hmem : segment ∈ layer.segments)
    (hcloses : Closes w.stack.flags ((segment :: rest).filterMap Segment.step?)) :
    (planSegment layer text w segment).Meets (fun _ => True)
      (fun e => layer.countSegment text segment = .error e)
      fun w' => layer.countSegment text segment = .ok ()
        ∧ Closes w'.stack.flags (rest.filterMap Segment.step?) := by
  have hcounts : (planSegment layer text w segment).Meets (fun _ => True)
      (fun e => layer.countSegment text segment = .error e ∨ ¬ e.IsArity layer.name)
      fun _ => layer.countSegment text segment = .ok () := by
    cases segment with
    | text id => exact rfl
    | placeholder p =>
        unfold planSegment ParsedLayer.countSegment ParsedLayer.countParts
        dsimp only
        cases hd : p.directive with
        | none => exact rfl
        | some d =>
            have hclassified := h.classified p (ParsedLayer.mem_placeholders.2 hmem)
            exact planDirective_counts text (by rw [← hclassified, hd])
  -- what is left besides the count would be a conditional that is not closed
  exact (hcounts.and (planSegment_meets text hmem hcloses)).mono (fun _ _ => trivial)
    (fun e he => he.1.resolve_right (not_not_intro he.2)) fun _ hw => hw

/-- Segments stop by themselves where the first wrong number of parts is. -/
theorem foldlM_planSegment_counts (h : layer.Accepted) (segments : List Segment) :
    ∀ w : WalkState, (∀ segment ∈ segments, segment ∈ layer.segments) →
      Closes w.stack.flags (segments.filterMap Segment.step?) →
        (segments.foldlM (planSegment layer text) w).Meets (fun _ => True)
          (fun e => segments.forM (layer.countSegment text) = .error e)
          fun w' => segments.forM (layer.countSegment text) = .ok () ∧ w'.stack.flags = [] := by
  induction segments with
  | nil => exact fun w _ hclosed => ⟨rfl, hclosed⟩
  | cons segment rest ih =>
      intro w hmem hclosed
      obtain ⟨hsegment, hrest⟩ := List.forall_mem_cons.1 hmem
      have hcons : (segment :: rest).forM (layer.countSegment text)
          = layer.countSegment text segment >>= fun _ => rest.forM (layer.countSegment text) := rfl
      rw [List.foldlM_cons, hcons]
      have hfirst := planSegment_counts text h hsegment hclosed
      refine (hfirst.mono (fun _ asked => asked) (fun e he => ?_) fun _ hw => hw).bind
        fun w' hw' => ?_
      · rw [he]
        rfl
      · rw [hw'.1]
        exact ih w' hrest hw'.2

/-- **A walk stops by itself where the check does**, and comes to its end only if the check
does. -/
theorem planWalk_counts (h : layer.Accepted) :
    (planWalk layer text).Meets (fun _ => True)
      (fun e => layer.placeholders.forM (layer.countParts text) = .error e)
      fun _ => layer.placeholders.forM (layer.countParts text) = .ok () := by
  obtain ⟨items, hitems⟩ := h.nested
  have hwalk := foldlM_planSegment_counts text h layer.segments
    { stack := { layer := layer.name } } (fun _ hmem => hmem) hitems.closes
  rw [ParsedLayer.forM_countSegment] at hwalk
  unfold planWalk
  refine hwalk.bind fun w hw => ?_
  rw [w.stack.finish_eq_ok_iff.2 hw.2]
  exact hw.1

end Walks

/-! ## §3. The check. -/

namespace Renderer

variable {r : Renderer} {name text : String} {layer : ParsedLayer}

/-- The check of a layer that is accepted counts its parts. -/
theorem check_eq (h : ParsedLayer.parse name text r.options.tags = .ok layer) :
    r.check name text
      = layer.placeholders.forM (layer.countParts text) >>= fun _ => .ok layer := by
  unfold check
  rw [parse_eq_ok.2 h]
  rfl

theorem check_eq_error (h : ParsedLayer.parse name text r.options.tags = .ok layer)
    {e : RenderError} :
    r.check name text = .error e ↔ layer.placeholders.forM (layer.countParts text) = .error e := by
  rw [check_eq h]
  cases layer.placeholders.forM (layer.countParts text) with
  | ok u => exact iff_of_false (by simp [bind, Except.bind]) (by simp)
  | error e' =>
      show (Except.error e' : Except RenderError ParsedLayer) = .error e ↔ _
      rw [Except.error.injEq, Except.error.injEq]

theorem check_eq_ok_of_counted (h : ParsedLayer.parse name text r.options.tags = .ok layer)
    (hcounted : layer.placeholders.forM (layer.countParts text) = .ok ()) :
    r.check name text = .ok layer := by
  rw [check_eq h, hcounted]
  rfl

/-- The check fails where some number of parts is wrong. -/
theorem exists_check_eq_error_iff (h : ParsedLayer.parse name text r.options.tags = .ok layer) :
    (∃ e, r.check name text = .error e) ↔ ∃ p ∈ layer.placeholders, p.Miscounted := by
  simp only [check_eq_error h]
  cases hcount : layer.placeholders.forM (layer.countParts text) with
  | ok u =>
      refine iff_of_false (by simp) ?_
      rintro ⟨p, hp, hwrong⟩
      exact ParsedLayer.countParts_eq_ok.1 (forM_eq_ok.1 hcount p hp) hwrong
  | error e =>
      refine iff_of_true ⟨e, rfl⟩ ?_
      obtain ⟨before, p, after, hsplit, -, hp⟩ := forM_eq_error hcount
      refine ⟨p, by rw [hsplit]; simp, ?_⟩
      by_contra hright
      rw [ParsedLayer.countParts_eq_ok.2 hright] at hp
      exact absurd hp (by simp)

/-- **The check names the first placeholder with the wrong number of parts**, and shows a window
on it. -/
theorem exists_first_of_check (hvisible : r.options.tags.Visible)
    (h : ParsedLayer.parse name text r.options.tags = .ok layer) {e : RenderError}
    (he : r.check name text = .error e) :
    ∃ p d, layer.FirstMiscounted p ∧ p.directive = some d
      ∧ ∃ w : Window, w.On text p ∧ d.Refused name (w.excerpt name) e := by
  have hname : layer.name = name := by rw [ParsedLayer.eq_layer_of_parse hvisible h]
  have hordered := ParsedLayer.pairwise_placeholders hvisible h
  obtain ⟨before, p, after, hsplit, hbefore, hp⟩ := forM_eq_error ((check_eq_error h).1 he)
  obtain ⟨d, hd, hrefused⟩ := ParsedLayer.countParts_eq_error.1 hp
  have hmem : p ∈ layer.placeholders := by rw [hsplit]; simp
  obtain ⟨w, hw, hexcerpt⟩ :=
    (ParsedLayer.cutFrom_of_parse hvisible h p hmem).exists_window layer.name
  rw [hexcerpt, hname] at hrefused
  refine ⟨p, d, ⟨hmem, ⟨d, hd, ?_⟩, fun q hq hwrong => ?_⟩, hd, w, hw, hrefused⟩
  · cases hrefused <;> omega
  · -- the placeholders in front of this one are right
    rw [hsplit] at hq hordered
    rcases List.mem_append.1 hq with hq | hq
    · exact absurd hwrong (ParsedLayer.countParts_eq_ok.1 (hbefore q hq))
    · rcases List.mem_cons.1 hq with rfl | hq
      · exact Or.inl rfl
      · exact Or.inr ((List.pairwise_cons.1 (List.pairwise_append.1 hordered).2.1).1 q hq)

/-- **An error about the number of parts names the first placeholder and shows a true window.**
For a layer that is accepted, the check fails exactly if some placeholder has the wrong number of
parts.  Its error is about the first of them, and says of it whether there are too few or too
many; the excerpt is a piece of the text with the margins of that placeholder.  A walk of the
layer, whatever its names are resolved to, ends with the same error, unless it passes on what has
stopped a name that it asked for; in particular it comes to its end only if the check does. -/
theorem check_names_first (r : Renderer) (valid : r.options.validate = .ok ())
    {name text : String} {layer : ParsedLayer}
    (accepted : ParsedLayer.parse name text r.options.tags = .ok layer) :
    ((∃ e, r.check name text = .error e) ↔ ∃ p ∈ layer.placeholders, p.Miscounted)
      ∧ (∀ e, r.check name text = .error e →
          ∃ p d, layer.FirstMiscounted p ∧ p.directive = some d
            ∧ ∃ w : Window, w.On text p ∧ d.Refused name (w.excerpt name) e)
      ∧ ∀ (σ : Type) (resolve : String → Run σ Rendered) (s : σ),
          match ((walk layer text resolve).outcome s).1 with
          | .ok _ => r.check name text = .ok layer
          | .error halt =>
              (planWalk layer text).PassesOn resolve s halt
                ∨ ∃ e, halt = .error e ∧ r.check name text = .error e := by
  refine ⟨exists_check_eq_error_iff accepted,
    fun e he => exists_first_of_check (r.visible_of_validate valid) accepted he,
    fun σ resolve s => ?_⟩
  have hends := (planWalk_counts text (ParsedLayer.accepted_of_parse accepted)).ends resolve s
  rw [run_planWalk] at hends
  rcases hrun : ((walk layer text resolve).outcome s).1 with halt | result <;> rw [hrun] at hends
  · refine hends.imp_right ?_
    rintro ⟨e, rfl, he⟩
    exact ⟨e, rfl, (check_eq_error accepted).2 he⟩
  · exact check_eq_ok_of_counted accepted hends

/-- Too many parts in a hidden branch, too few behind it, and characters of two and three bytes in
front. -/
def offerText : String :=
  "\u00e9\u00e8 costs 5 \u20ac, or \x7b\x7bif off\x7d\x7d\x7b\x7b= a b\x7d\x7d"
    ++ "\x7b\x7bend\x7d\x7d\x7b\x7b=\x7d\x7d"

/-- The offer as it is parsed. -/
def offer : ParsedLayer :=
  match ParsedLayer.parse "page" offerText {} with
  | .ok layer => layer
  | .error _ => default

/-- What is wrong with the offer. -/
def offerError : RenderError :=
  .tooManyParts "page"
    ("...s 5 \u20ac, or \x7b\x7bif off\x7d\x7d\x7b\x7b= a b\x7d\x7d\x7b\x7bend\x7d\x7d"
      ++ "\x7b\x7b=\x7d\x7d [layer: \"page\", placeholder: \"\x7b\x7b= a b\x7d\x7d\"]")

theorem check_names_first_offer :
    ({} : RenderOptions).validate = .ok ()
      ∧ ParsedLayer.parse "page" offerText {} = .ok offer
      ∧ (make (.ordered []) {} none .none).check "page" offerText = .error offerError
      ∧ (∃ p d, offer.FirstMiscounted p ∧ p.directive = some d
          ∧ ∃ w : Window, w.On offerText p ∧ d.Refused "page" (w.excerpt "page") offerError)
      ∧ ((walk offer offerText fun _ => (pure .absent : Run Unit Rendered)).outcome ()).1
        = .error (.error offerError) := by
  have hparse : ParsedLayer.parse "page" offerText {} = .ok offer := by decide +kernel
  have hcheck : (make (.ordered []) {} none .none).check "page" offerText = .error offerError := by
    decide +kernel
  obtain ⟨-, hnamed, hwalks⟩ := check_names_first (make (.ordered []) {} none .none) rfl hparse
  refine ⟨rfl, hparse, hcheck, hnamed _ hcheck, ?_⟩
  -- every name is answered, so the walk can only stop by itself
  have hends := hwalks Unit (fun _ => pure .absent) ()
  rcases hrun : ((walk offer offerText fun _ => (pure .absent : Run Unit Rendered)).outcome ()).1
    with halt | result <;> rw [hrun] at hends
  · rcases hends with ⟨asked, t, -, hstop⟩ | ⟨e, rfl, he⟩
    · exact absurd hstop (by simp)
    · rw [hcheck] at he
      rw [Except.error.inj he]
  · rw [hcheck] at hends
    exact absurd hends (by simp)

end Renderer

end LayerTemplates
