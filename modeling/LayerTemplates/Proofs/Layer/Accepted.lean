/-
  LayerTemplates.Proofs.Layer.Accepted
  ────────────────────────────────────
  What is known of a layer that was accepted.

  A layer is accepted when its text was scanned and its tree built without a fault.  Then
  every placeholder was closed and classified, the builder has seen every segment, and what
  it has seen is well nested.

  Main statements:
    * `ParsedLayer.accepted_of_parse` — what an accepted layer is made of.
    * `ParsedLayer.parse_rename` — the name of a layer does not matter to its being accepted.
    * `Directive.target_of_arity` — the right number of parts includes the target.
-/
import LayerTemplates.Proofs.Control.Faults

namespace LayerTemplates

/-! ## §1. Closed placeholders. -/

theorem mem_pushText {arena : Arena} {chars : List Char} {start : Nat} {segment : Segment}
    (h : segment ∈ (pushText arena chars start).2) : ∃ id, segment = .text id := by
  unfold pushText at h
  split at h
  · exact absurd h (by simp)
  · exact ⟨_, by simpa using h⟩

/-- A text that is scanned without a fault has no placeholder that its end cuts off. -/
theorem terminated_of_scanFrom (tags : Tags) (fuel : Nat) :
    ∀ (position : Nat) (chars : List Char) (arena : Arena),
      (scanFrom tags fuel position chars arena).faults = [] →
      ∀ p, .placeholder p ∈ (scanFrom tags fuel position chars arena).segments →
        p.terminated = true := by
  -- along the scan: a placeholder without a closing tag is the last one and leaves a fault
  induction fuel with
  | zero =>
      intro position chars arena _ p hp
      exact absurd hp (by simp [scanFrom])
  | succ fuel ih =>
      intro position chars arena hfaults p hp
      unfold scanFrom at hfaults hp
      dsimp only at hfaults hp
      generalize breakAt tags.openTag.toList chars = broken at hfaults hp
      obtain ⟨before, after⟩ := broken
      cases after with
      | nil =>
          obtain ⟨id, hid⟩ := mem_pushText hp
          exact absurd hid (by simp)
      | cons c after =>
          dsimp only at hfaults hp
          generalize readBody tags.closeTag.toList _ _ _ = body at hfaults hp
          cases hclosing : body.closing with
          | none =>
              rw [hclosing] at hfaults
              exact absurd hfaults (by simp [openPlaceholder])
          | some closing =>
              rw [hclosing] at hfaults hp
              dsimp only at hfaults hp
              rcases List.mem_append.1 hp with hp | hp
              · obtain ⟨id, hid⟩ := mem_pushText hp
                exact absurd hid (by simp)
              · rcases List.mem_cons.1 hp with hp | hp
                · cases hp
                  rfl
                · exact ih _ _ _ (List.append_eq_nil_iff.1 hfaults).2 p hp

/-! ## §2. Accepted layers. -/

/-- The steps that a layer takes the builder and the walk through. -/
def ParsedLayer.steps (layer : ParsedLayer) : List ControlStep :=
  layer.segments.filterMap Segment.step?

/-- The tree of a layer is built from its steps, which are well nested, and every placeholder is
classified. -/
structure ParsedLayer.Accepted (layer : ParsedLayer) : Prop where
  tree : layer.tree = (layer.steps.foldl TreeBuilder.addStep {}).tree
  nested : ∃ items, Nested layer.steps items
  classified : ∀ p ∈ layer.placeholders, p.directive = Directive.classify layer.arena p.roots

/-- The builder takes a segment for its step, if the placeholder was closed. -/
theorem TreeBuilder.addSegment_eq (b : TreeBuilder) {segment : Segment}
    (h : ∀ p, segment = .placeholder p → p.terminated = true) :
    b.addSegment segment = match segment.step? with
      | some step => b.addStep step
      | none => b := by
  cases segment with
  | text id => rfl
  | placeholder p =>
      unfold TreeBuilder.addSegment Segment.step?
      dsimp only
      rw [h p rfl]
      cases p.directive <;> rfl

theorem TreeBuilder.foldl_addSegment {segments : List Segment} :
    ∀ b : TreeBuilder, (∀ p, .placeholder p ∈ segments → p.terminated = true) →
      segments.foldl TreeBuilder.addSegment b
        = (segments.filterMap Segment.step?).foldl TreeBuilder.addStep b := by
  induction segments with
  | nil => intro b _; rfl
  | cons segment segments ih =>
      intro b h
      have hrest := fun b => ih b fun p hp => h p (List.mem_cons_of_mem _ hp)
      rw [List.foldl_cons, b.addSegment_eq fun p hp => h p (by rw [hp]; exact List.mem_cons_self),
        List.filterMap_cons, hrest]
      cases segment.step? <;> rfl

namespace ParsedLayer

/-- Every placeholder of the classified segments is classified. -/
theorem classified_of_mem {a : Arena} {segments : List Segment} {p : Placeholder}
    (h : .placeholder p ∈ segments.map (Segment.classified a)) :
    ∃ q, .placeholder q ∈ segments ∧ p = { q with directive := Directive.classify a q.roots } := by
  obtain ⟨segment, hmem, heq⟩ := List.mem_map.1 h
  cases segment with
  | text id => exact absurd heq (by simp [Segment.classified])
  | placeholder q => exact ⟨q, hmem, by simpa [Segment.classified] using heq.symm⟩

theorem mem_placeholders {layer : ParsedLayer} {p : Placeholder} :
    p ∈ layer.placeholders ↔ .placeholder p ∈ layer.segments := by
  unfold placeholders
  rw [List.mem_filterMap]
  constructor
  · rintro ⟨segment, hmem, hp⟩
    cases segment with
    | text id => exact absurd hp (by simp [Segment.placeholder?])
    | placeholder q =>
        obtain rfl : q = p := by simpa [Segment.placeholder?] using hp
        exact hmem
  · intro h
    exact ⟨_, h, rfl⟩

/-- **An accepted layer is well nested, and its tree is built from its steps.** -/
theorem accepted_of_parse {name text : String} {tags : Tags} {layer : ParsedLayer}
    (h : parse name text tags = .ok layer) : layer.Accepted := by
  unfold parse at h
  dsimp only at h
  split at h
  · next hfaults =>
      -- no fault in the scan, and none in the builder
      obtain ⟨hscan, hbuilder⟩ := List.append_eq_nil_iff.1 (List.isEmpty_iff.1 hfaults)
      have hterminated : ∀ p,
          .placeholder p ∈ (scan text tags).segments.map
            (Segment.classified (scan text tags).arena) → p.terminated = true := by
        intro p hp
        obtain ⟨q, hq, rfl⟩ := classified_of_mem hp
        exact terminated_of_scanFrom tags _ _ _ _ hscan q hq
      rw [TreeBuilder.foldl_addSegment {} hterminated] at h hbuilder
      injection h with h
      subst h
      refine ⟨rfl, TreeBuilder.nested_of_allFaults hbuilder, ?_⟩
      intro p hp
      obtain ⟨q, -, rfl⟩ := classified_of_mem (mem_placeholders.1 hp)
      rfl
  · exact absurd h (by simp)

/-- **The name of a layer does not matter to its being accepted.** -/
theorem parse_rename {name text : String} {tags : Tags} {layer : ParsedLayer}
    (h : parse name text tags = .ok layer) (other : String) :
    parse other text tags = .ok { layer with name := other } := by
  unfold parse at h ⊢
  dsimp only at h ⊢
  split at h
  · next hfaults =>
      rw [if_pos hfaults]
      injection h with h
      subst h
      rfl
  · exact absurd h (by simp)

end ParsedLayer

/-! ## §3. The right number of parts. -/

/-- Every placeholder of a layer has the right number of parts. -/
def ParsedLayer.RightParts (layer : ParsedLayer) : Prop :=
  ∀ p ∈ layer.placeholders, ∀ d, p.directive = some d → d.arity = .eq

instance (layer : ParsedLayer) : Decidable layer.RightParts :=
  inferInstanceAs (Decidable (∀ p ∈ layer.placeholders, ∀ d, p.directive = some d → d.arity = .eq))

/-- **The right number of parts includes the target**, where the operator takes one. -/
theorem Directive.target_of_arity {a : Arena} {roots : List LexemeId} {d : Directive}
    (h : classify a roots = some d) (harity : d.arity = .eq)
    (htakes : d.operator.expectedParts = 2) : ∃ id, d.target = some id := by
  unfold classify at h
  split at h
  · exact absurd h (by simp)
  · next first others =>
      split at h
      · next operator _ =>
          obtain rfl := Option.some.inj h
          have hparts : others.length + 1 = operator.expectedParts :=
            Nat.compare_eq_eq.1 harity
          -- the operator itself is one of the two parts
          rw [show operator.expectedParts = 2 from htakes] at hparts
          cases others with
          | nil => exact absurd hparts (by simp)
          | cons target rest => exact ⟨target, rfl⟩
      · obtain rfl := Option.some.inj h
        exact ⟨first, rfl⟩

end LayerTemplates
