/-
  LayerTemplates.Proofs.Render.Termination
  ────────────────────────────────────────
  Rendering without getters always ends.

  Names are entered without end only where references name new ones without end.  The texts of
  a source are finitely many, also where a pattern answers to every name, and so are the names
  that they refer to.  The layers in progress are a path without repetition, and all of its
  names but the entry point are such references; so no run goes deeper than their number, and
  the limit that a render sets itself is never reached.

  Main statements:
    * `Scans.length_segments_le` — a text has no more segments than characters.
    * `Path.length_le` — a path is no longer than the number of references allows.
    * `renderWithin_ne_tooDeep` — a render that may go deeper than that ends.
    * `render_ends` — every render ends, for a source, options and a template.
-/
import Mathlib.Data.Finset.Card
import LayerTemplates.Proofs.Layer.Scanning
import LayerTemplates.Proofs.Render.References

namespace LayerTemplates

/-! ## §1. References in texts. -/

/-- The names that a text refers to, if it is accepted. -/
def referencesIn (tags : Tags) (text : String) : List String :=
  match ParsedLayer.parse "" text tags with
  | .ok layer => layer.references
  | .error _ => []

/-- The names that the accepted ones of some texts refer to. -/
def referenceNames (tags : Tags) (texts : List String) : List String :=
  texts.flatMap (referencesIn tags)

theorem length_pushText_le (arena : Arena) (chars : List Char) (start : Nat) :
    (pushText arena chars start).2.length ≤ chars.length := by
  unfold pushText
  split
  · exact Nat.zero_le _
  · next hne =>
      have hpos : 0 < chars.length := List.length_pos_iff.2 fun hnil => hne (by simp [hnil])
      rw [List.length_singleton]
      exact hpos

/-- **A text has no more segments than characters**, unless both tags are empty. -/
theorem Scans.length_segments_le {tags : Tags} (hvisible : tags.Visible) {position : Nat}
    {chars : List Char} {arena : Arena} {scanned : Scanned}
    (h : Scans tags position chars arena scanned) :
    scanned.segments.length ≤ chars.length := by
  induction h with
  | @done position chars arena plain => exact length_pushText_le arena chars position
  | @cutOff position start before arena body plain start_eq read closing nonempty =>
      have htext := length_pushText_le arena before position
      have hpos := List.length_pos_iff.2 nonempty
      simp only [List.length_append, List.length_singleton] at hpos ⊢
      omega
  | @closed position start before rest arena body scanned plain start_eq read closing scans ih =>
      have htext := length_pushText_le arena before position
      have hpos := hvisible.length_pos
      simp only [List.length_append, List.length_cons]
      omega

/-- Every reference of a text takes a character. -/
theorem length_referencesIn_le {tags : Tags} (hvisible : tags.Visible) (text : String) :
    (referencesIn tags text).length ≤ text.length := by
  unfold referencesIn
  cases hparse : ParsedLayer.parse "" text tags with
  | error report => exact Nat.zero_le _
  | ok layer =>
      have hsegments : layer.segments.length = (scan text tags).segments.length := by
        unfold ParsedLayer.parse at hparse
        dsimp only at hparse
        split at hparse
        · obtain rfl := Except.ok.inj hparse
          exact List.length_map _
        · exact absurd hparse (by simp)
      have hscan := (scans_scan hvisible text).length_segments_le hvisible
      calc layer.references.length
          ≤ layer.placeholders.length := List.length_filterMap_le _ _
        _ ≤ layer.segments.length := List.length_filterMap_le _ _
        _ = (scan text tags).segments.length := hsegments
        _ ≤ text.toList.length := hscan
        _ = text.length := String.length_toList

theorem length_referenceNames_le {tags : Tags} (hvisible : tags.Visible) (texts : List String) :
    (referenceNames tags texts).length
      ≤ texts.foldr (fun text total => text.length + total) 0 := by
  unfold referenceNames
  induction texts with
  | nil => exact Nat.le_refl _
  | cons text texts ih =>
      have htext := length_referencesIn_le hvisible text
      simp only [List.flatMap_cons, List.length_append, List.foldr_cons]
      omega

/-! ## §2. References of names. -/

/-- A text that a name leads to is among the texts. -/
theorem Layered.mem_texts_of_lookup {l : Layered} {name text : String} {entry : Entry}
    (h : l.lookup name = some entry) (hv : entry.value = .string text) : text ∈ l.texts := by
  have hinner : ∀ e, l.inner.lookup name = some e → e.value = .string text → text ∈ l.texts := by
    intro e he hevalue
    obtain ⟨other, hother, hsame⟩ := DataSource.mem_entries_of_lookup he
    refine List.mem_filterMap.2 ⟨other, List.mem_append_right _ hother, ?_⟩
    simp [Entry.text?, hsame, hevalue]
  unfold lookup at h
  cases htemplate : l.template with
  | none =>
      rw [htemplate] at h
      exact hinner entry h hv
  | some template =>
      rw [htemplate] at h
      dsimp only at h
      split at h
      · obtain rfl := Option.some.inj h
        refine List.mem_filterMap.2 ⟨template, List.mem_append_left _ (by simp [htemplate]), ?_⟩
        simp [Entry.text?, hv]
      · exact hinner entry h hv

namespace Renderer

variable {r : Renderer}

theorem Refers.mem_referenceNames {name other : String} (h : r.Refers name other) :
    other ∈ referenceNames r.options.tags r.data.texts := by
  obtain ⟨entry, text, layer, hl, hv, hparse, hother⟩ := h
  refine List.mem_flatMap.2 ⟨text, Layered.mem_texts_of_lookup hl hv, ?_⟩
  unfold referencesIn
  rw [ParsedLayer.parse_rename hparse ""]
  exact hother

/-- What stands behind the first name of a path is referred to. -/
theorem mem_referenceNames_of_links {first : String} {rest : List String}
    (h : (first :: rest).IsChain r.Refers) :
    ∀ name ∈ rest, name ∈ referenceNames r.options.tags r.data.texts := by
  induction rest generalizing first with
  | nil =>
      intro name hname
      exact absurd hname (by simp)
  | cons next rest ih =>
      intro name hname
      obtain ⟨hrefers, hrest⟩ := List.isChain_cons_cons.1 h
      rcases List.mem_cons.1 hname with rfl | hname
      · exact hrefers.mem_referenceNames
      · exact ih hrest name hname

/-- How deep a run goes at most: the entry point, and every name that texts refer to. -/
def depthBound (r : Renderer) : Nat :=
  1 + (referenceNames r.options.tags r.data.texts).toFinset.card

/-- **A path is no longer than the number of references allows.** -/
theorem Path.length_le {names : List String} (h : r.Path names) :
    names.length ≤ r.depthBound := by
  unfold depthBound
  cases names with
  | nil => exact Nat.zero_le _
  | cons first rest =>
      have hdistinct : rest.Nodup := (List.nodup_cons.1 h.distinct).2
      have hmem := mem_referenceNames_of_links h.links
      have hsubset : rest.toFinset
          ⊆ (referenceNames r.options.tags r.data.texts).toFinset := by
        intro name hname
        rw [List.mem_toFinset] at hname ⊢
        exact hmem name hname
      have hcard : rest.length
          ≤ (referenceNames r.options.tags r.data.texts).toFinset.card := by
        rw [← List.toFinset_card_of_nodup hdistinct]
        exact Finset.card_le_card hsubset
      rw [List.length_cons]
      omega

/-! ## §3. Renders. -/

/-- **A render that may go deeper than paths are long ends.** -/
theorem renderWithin_ne_tooDeep (hnone : r.getters = .none) {depth : Nat}
    (hdepth : r.depthBound < depth) : (r.renderWithin depth).1 ≠ .error .tooDeep := by
  intro hdeep
  obtain ⟨names, hpath, hlength⟩ := r.renderWithin_caused hnone depth hdeep
  have hle := hpath.length_le
  omega

/-- Depths at which renders end agree. -/
theorem renderWithin_agree {depth other : Nat}
    (h : (r.renderWithin depth).1 ≠ .error .tooDeep)
    (h' : (r.renderWithin other).1 ≠ .error .tooDeep) :
    r.renderWithin depth = r.renderWithin other := by
  rw [renderWithin_eq] at h h' ⊢
  rw [renderWithin_eq]
  cases hrefusal : r.refusal? with
  | some e => rfl
  | none =>
      rw [hrefusal] at h h'
      exact r.outcome_resolve_agree h h'

theorem visible_of_validate (h : r.options.validate = .ok ()) : r.options.tags.Visible := by
  unfold RenderOptions.validate at h
  split at h
  · exact absurd h (by simp)
  · split at h
    · exact absurd h (by simp)
    · next hopen =>
        left
        intro hempty
        exact hopen (by rw [hempty]; rfl)

/-- The limit that a render sets itself is beyond the length of paths, unless it is refused. -/
theorem depthBound_lt_depthLimit (hnone : r.getters = .none) (hvisible : r.options.tags.Visible) :
    r.depthBound < r.depthLimit := by
  have hlimit : r.depthLimit = r.textLength + 2 := by
    unfold depthLimit
    rw [hnone]
  have hcard := (referenceNames r.options.tags r.data.texts).toFinset_card_le
  have hlength := length_referenceNames_le hvisible r.data.texts
  unfold depthBound
  rw [hlimit]
  unfold textLength
  omega

theorem render_ne_tooDeep (hnone : r.getters = .none) : r.render.1 ≠ .error .tooDeep := by
  by_cases hvalid : r.options.validate = .ok ()
  · have hlimit := depthBound_lt_depthLimit hnone (visible_of_validate hvalid)
    exact renderWithin_ne_tooDeep hnone hlimit
  · -- options that no render can work with are refused at once
    unfold render
    rw [renderWithin_eq]
    unfold refusal?
    cases hreason : r.options.validate with
    | error reason => simp
    | ok u => exact absurd hreason hvalid

/-- **Rendering without getters always ends**, with a value or an error: the limit that is set
makes no difference, as no greater one does.  At every moment of every run no more layers are in
progress than one and the distinct names that accepted texts refer to. -/
theorem render_ends (data : DataSource) (options : RenderOptions) (template : Option String) :
    let r := make data options template .none
    let texts := template.toList ++ data.entries.filterMap Entry.text?
    let bound := 1 + (referenceNames options.tags texts).toFinset.card
    ((∃ result, r.render.1 = .ok result) ∨ ∃ e, r.render.1 = .error (.error e))
      ∧ (∀ depth, bound < depth → r.renderWithin depth = r.render)
      ∧ ∀ depth, ∀ s ∈ r.renderMoments depth, s.depth ≤ bound := by
  intro r texts bound
  have htexts : r.data.texts = texts := by
    unfold Layered.texts
    cases template <;> rfl
  have hbound : r.depthBound = bound := by
    unfold depthBound
    rw [htexts]
    rfl
  have hends : r.render.1 ≠ .error .tooDeep := render_ne_tooDeep rfl
  refine ⟨?_, ?_, ?_⟩
  · rcases hrun : r.render.1 with (e | _) | result
    · exact Or.inr ⟨e, rfl⟩
    · exact absurd hrun hends
    · exact Or.inl ⟨result, rfl⟩
  · intro depth hdepth
    rw [← hbound] at hdepth
    exact renderWithin_agree (renderWithin_ne_tooDeep rfl hdepth) hends
  · intro depth s hs
    have hpath := r.renderMoments_path rfl depth s hs
    rw [← hbound]
    exact hpath.length_le

/-- A key that answers to infinitely many names, under each of which it asks for one of them. -/
def userSource : DataSource :=
  .patterns ((PatternSource.ofFields?
    [("start", .string "\x7b\x7b=user_1\x7d\x7d"),
     ("/^user_/", .string "\x7b\x7bif user_2\x7d\x7dx\x7b\x7bend\x7d\x7d")]).getD {})

theorem render_ends_userSource :
    (referenceNames {} (userSource.entries.filterMap Entry.text?)).toFinset.card = 2
      ∧ (make userSource {} none .none).renderWithin 4 = (make userSource {} none .none).render
      ∧ ∀ s ∈ (make userSource {} none .none).renderMoments 4, s.depth ≤ 3 := by
  have hcard : (referenceNames {} (userSource.entries.filterMap Entry.text?)).toFinset.card = 2 := by
    decide +kernel
  obtain ⟨-, hsame, hdepth⟩ := render_ends userSource {} none
  dsimp only [Option.toList_none, List.nil_append] at hsame hdepth
  rw [hcard] at hsame hdepth
  exact ⟨hcard, hsame 4 (by decide), hdepth 4⟩

end Renderer

end LayerTemplates
