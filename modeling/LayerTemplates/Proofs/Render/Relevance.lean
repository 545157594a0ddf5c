/-
  LayerTemplates.Proofs.Render.Relevance
  ──────────────────────────────────────
  A render depends on the layers that it enters, and on nothing else of its source.

  What a name plans is read off its value alone.  Two renders whose sources have the same
  values for the layers that the first one enters therefore run the same plans: they ask for
  the same names, find the same results and stop with the same errors.  Which layers these are
  is for the first run to say; a layer that it displays no reference to is not among them.

  Main statements:
    * `resolve_congr` — two renderers that plan alike what is entered resolve a name alike.
    * `render_congr` — so do they render, whatever limit each of them sets itself.
    * `lookup_perm`, `lookup_setKey` — values of maps in another order, and of longer maps.
    * `render_depends_on_entered` — what this means for orders, hidden branches and templates.
-/
import LayerTemplates.Proofs.Render.Displaying
import LayerTemplates.Proofs.Render.Termination

namespace LayerTemplates

/-! ## §1. Sources that agree. -/

namespace Layered

/-- Both sources have the same value for a name, or none. -/
def SameAt (l l' : Layered) (name : String) : Prop :=
  (l.lookup name).map Entry.value = (l'.lookup name).map Entry.value

variable {l l' : Layered} {name : String}

theorem SameAt.isSome (h : l.SameAt l' name) :
    (l.lookup name).isSome = (l'.lookup name).isSome := by
  rw [← Option.isSome_map (f := Entry.value), show (l.lookup name).map Entry.value = _ from h,
    Option.isSome_map]

end Layered

namespace Renderer

theorem callOf?_eq_none {r : Renderer} (hnone : r.getters = .none) (name : String) :
    r.callOf? name = none := by
  unfold callOf?
  rw [hnone]
  split
  · next hfind => exact absurd hfind (by simp [GetterSet.find])
  · rfl

/-- Both renderers do the same to expand a name. -/
structure AgreesAt (r r' : Renderer) (name : String) : Prop where
  plan : ∀ previous, r'.plan previous name = r.plan previous name
  callOf? : r'.callOf? name = r.callOf? name

theorem AgreesAt.noted {r r' : Renderer} {name : String} (h : r.AgreesAt r' name)
    (s : RenderState) : r'.noted name s = r.noted name s := by
  unfold Renderer.noted
  rw [h.callOf?]

variable {r r' : Renderer}

/-- Without getters names with the same value are expanded alike. -/
theorem agreesAt_of_sameAt (hnone : r.getters = .none) (hnone' : r'.getters = .none)
    (hoptions : r'.options = r.options) {name : String} (h : r.data.SameAt r'.data name) :
    r.AgreesAt r' name where
  plan previous := by
    have hsubstitute : r'.substitute = r.substitute := by
      unfold substitute
      rw [hoptions]
    have hparse : ∀ text, r'.parse name text = r.parse name text := by
      intro text
      unfold parse
      rw [hoptions]
    rw [plan_eq hnone, plan_eq hnone', ← show (r.data.lookup name).map Entry.value = _ from h,
      hsubstitute]
    simp only [hparse]
  callOf? := by rw [callOf?_eq_none hnone, callOf?_eq_none hnone']

end Renderer

/-! ## §2. Two runs. -/

/-- A plan runs alike with two resolvers that give the same for all that it asks for. -/
theorem Plan.run_congr {σ α : Type} {resolve resolve' : String → Run σ Rendered} (p : Plan α) :
    ∀ s, (∀ name t, p.Asks resolve s name t →
        (resolve' name).outcome t = (resolve name).outcome t) →
      (p.run resolve').outcome s = (p.run resolve).outcome s := by
  induction p with
  | done a => intro s _; rfl
  | stop e => intro s _; rfl
  | ask name next ih =>
      intro s h
      rw [outcome_ask, outcome_ask, h name s (.first name next s)]
      rcases ha : (resolve name).outcome s with ⟨halt | answer, s'⟩
      · rfl
      · exact ih answer s' fun other t hasks => h other t (.later ha hasks)

namespace Renderer

variable {r r' : Renderer}

/-- **Two renderers that expand alike whatever a request enters answer it alike.** -/
theorem resolve_congr (depth : Nat) :
    ∀ (name : String) (s : RenderState),
      (∀ x, r.LeadsInto ⟨depth, name, s⟩ x → r.AgreesAt r' x) →
        (r'.resolve depth name).outcome s = (r.resolve depth name).outcome s := by
  -- on the depth; the layer that is entered is one of those on which the two agree, and what its
  -- plan asks for leads into others of them
  induction depth with
  | zero => intro name s _; rfl
  | succ depth ih =>
      intro name s h
      rw [outcome_resolve, outcome_resolve]
      cases hc : s.cached name with
      | some result => rfl
      | none =>
          dsimp only
          by_cases hp : name ∈ s.inProgress
          · rw [if_pos hp, if_pos hp]
          · rw [if_neg hp, if_neg hp]
            have hsame := h name ((r.leadsInto_succ hc hp).2 (Or.inl rfl))
            have hasked : ∀ other t,
                (r.plan s.calls.toList name).Asks (r.resolve depth) (r.noted name (s.entered name))
                  other t →
                  (r'.resolve depth other).outcome t = (r.resolve depth other).outcome t := by
              intro other t hasks
              refine ih other t fun x hleads => ?_
              exact h x ((r.leadsInto_succ hc hp).2 (Or.inr ⟨other, t, hasks, hleads⟩))
            rw [hsame.plan, hsame.noted, Plan.run_congr (r.plan s.calls.toList name) _ hasked]

/-- What refuses a render looks at the options and at the entry point. -/
theorem refusal?_congr (hoptions : r'.options = r.options)
    (hentry : r.data.SameAt r'.data r.options.entryPoint) : r'.refusal? = r.refusal? := by
  have hsome := hentry.isSome
  unfold refusal?
  rw [hoptions]
  cases r.options.validate with
  | error reason => rfl
  | ok u =>
      dsimp only
      cases hl : r.data.lookup r.options.entryPoint with
      | none =>
          rw [hl] at hsome
          rw [Option.isSome_eq_false_iff.1 hsome.symm |> Option.isNone_iff_eq_none.1]
      | some entry =>
          rw [hl] at hsome
          obtain ⟨entry', hl'⟩ := Option.isSome_iff_exists.1 hsome.symm
          rw [hl']

theorem renderWithin_congr (hnone : r.getters = .none) (hnone' : r'.getters = .none)
    (hoptions : r'.options = r.options) (hentry : r.data.SameAt r'.data r.options.entryPoint)
    (depth : Nat)
    (hentered : ∀ name ∈ (r.renderWithin depth).2.visited.toList, r.data.SameAt r'.data name) :
    r'.renderWithin depth = r.renderWithin depth := by
  have hmem := r.mem_visited_resolve
  rw [renderWithin_eq r] at hentered ⊢
  rw [renderWithin_eq r', refusal?_congr hoptions hentry, hoptions]
  cases hrefusal : r.refusal? with
  | some e => rfl
  | none =>
      rw [hrefusal] at hentered
      -- whatever the render leads into it has visited in the end
      refine resolve_congr depth _ _ fun x hleads => ?_
      have hvisited := (hmem x depth r.options.entryPoint { fast := r.options.fast }).2
        (Or.inr hleads)
      exact agreesAt_of_sameAt hnone hnone' hoptions (hentered x hvisited)

/-- **Two renderers whose sources agree on what the first one enters render alike**, although
each sets itself a limit for its own source. -/
theorem render_congr (hnone : r.getters = .none) (hnone' : r'.getters = .none)
    (hoptions : r'.options = r.options) (hentry : r.data.SameAt r'.data r.options.entryPoint)
    (hentered : ∀ name ∈ r.render.2.visited.toList, r.data.SameAt r'.data name) :
    r'.render = r.render := by
  have hsame : r'.renderWithin r.depthLimit = r.render :=
    renderWithin_congr hnone hnone' hoptions hentry r.depthLimit hentered
  have hends : (r'.renderWithin r.depthLimit).1 ≠ .error .tooDeep := by
    rw [hsame]
    exact render_ne_tooDeep hnone
  have hends' : (r'.renderWithin r'.depthLimit).1 ≠ .error .tooDeep := render_ne_tooDeep hnone'
  calc r'.render
      = r'.renderWithin r.depthLimit := renderWithin_agree hends' hends
    _ = r.render := hsame

end Renderer

/-! ## §3. Maps. -/

theorem lookup_cons_eq (key name : String) (value : Value) (rest : List (String × Value)) :
    ((key, value) :: rest).lookup name
      = if name = key then some value else rest.lookup name := by
  rw [List.lookup_cons]
  by_cases hname : name = key
  · simp [hname]
  · rw [beq_false_of_ne hname, if_neg hname]

/-- A map that has every key once holds the values that stand in it. -/
theorem lookup_eq_some_iff_mem {fields : List (String × Value)}
    (hkeys : (fields.map Prod.fst).Nodup) {name : String} {value : Value} :
    fields.lookup name = some value ↔ (name, value) ∈ fields := by
  refine ⟨DataSource.mem_of_lookup, fun hmem => ?_⟩
  -- on the fields; the key of the first one does not come again, so it hides nothing
  induction fields with
  | nil => exact absurd hmem (by simp)
  | cons field rest ih =>
      obtain ⟨key, held⟩ := field
      obtain ⟨hnew, hrest⟩ := List.nodup_cons.1 hkeys
      rw [lookup_cons_eq]
      rcases List.mem_cons.1 hmem with heq | hmem
      · obtain ⟨rfl, rfl⟩ := Prod.mk.inj heq
        rw [if_pos rfl]
      · have hne : name ≠ key := by
          intro heq
          exact hnew (List.mem_map.2 ⟨_, hmem, heq⟩)
        rw [if_neg hne]
        exact ih hrest hmem

/-- A map holds the same in any order. -/
theorem lookup_perm {fields fields' : List (String × Value)} (hperm : fields.Perm fields')
    (hkeys : (fields.map Prod.fst).Nodup) (name : String) :
    fields'.lookup name = fields.lookup name := by
  have hkeys' : (fields'.map Prod.fst).Nodup := (hperm.map Prod.fst).nodup_iff.1 hkeys
  refine Option.ext fun value => ?_
  rw [lookup_eq_some_iff_mem hkeys, lookup_eq_some_iff_mem hkeys', hperm.mem_iff]

/-- Setting a key changes what the map holds there, and nothing else. -/
theorem lookup_setKey (fields : List (String × Value)) (key : String) (value : Value)
    (name : String) :
    (setKey fields key value).lookup name
      = if name = key then some value else fields.lookup name := by
  induction fields with
  | nil => exact lookup_cons_eq key name value []
  | cons field rest ih =>
      obtain ⟨other, held⟩ := field
      unfold setKey
      by_cases hother : other = key
      · rw [if_pos hother, lookup_cons_eq, lookup_cons_eq, hother]
        by_cases hname : name = key
        · rw [if_pos hname, if_pos hname]
        · rw [if_neg hname, if_neg hname, if_neg hname]
      · rw [if_neg hother, lookup_cons_eq, lookup_cons_eq, ih]
        by_cases hname : name = other
        · rw [if_pos hname, if_pos hname, if_neg (by rw [hname]; exact hother)]
        · rw [if_neg hname, if_neg hname]

/-- A map of layers, in its own order or without one. -/
inductive DataSource.IsMap (fields : List (String × Value)) : DataSource → Prop
  | ordered : IsMap fields (.ordered fields)
  | unordered : IsMap fields (.unordered fields)

theorem DataSource.IsMap.lookup_eq {fields : List (String × Value)} {data : DataSource}
    (h : data.IsMap fields) (name : String) : data.lookup name = lookupIn fields name := by
  cases h <;> rfl

namespace Layered

variable {source source' : DataSource} {fields fields' : List (String × Value)}

/-- A map in another order has the same values, with the same template or none. -/
theorem sameAt_of_perm (hmap : source.IsMap fields) (hmap' : source'.IsMap fields')
    (hperm : fields.Perm fields') (hkeys : (fields.map Prod.fst).Nodup) (template : Option Entry)
    (name : String) :
    SameAt { template, inner := source } { template, inner := source' } name := by
  have hinner : source'.lookup name = source.lookup name := by
    rw [hmap.lookup_eq, hmap'.lookup_eq]
    unfold DataSource.lookupIn
    rw [lookup_perm hperm hkeys]
  unfold SameAt lookup
  rw [hinner]

/-- A template has the place that its text takes in a map. -/
theorem sameAt_setKey (hmap : source.IsMap fields) {entryPoint text : String}
    (hmap' : source'.IsMap (setKey fields entryPoint (.string text))) (name : String) :
    SameAt { template := some ⟨entryPoint, .string text⟩, inner := source }
      { inner := source' } name := by
  unfold SameAt lookup
  dsimp only
  rw [hmap.lookup_eq, hmap'.lookup_eq]
  unfold DataSource.lookupIn
  rw [lookup_setKey]
  by_cases hname : entryPoint = name
  · rw [if_pos hname, if_pos hname.symm]
    rfl
  · rw [if_neg hname, if_neg (Ne.symm hname)]

end Layered

/-! ## §4. What renders depend on. -/

namespace Renderer

/-- **A render depends only on the layers that it enters.**  Where another source has the same
values for the entry point and for these layers, or none just as the first one, rendering it ends
alike and enters the same layers in the same order, whatever the kinds of the sources and their
templates are.  So it makes no difference to give the entries of a map in another order, to change
or to remove a layer that is referred to in hidden branches only, or to store the text of a
template under the entry point of the map. -/
theorem render_depends_on_entered (options : RenderOptions) :
    (∀ data data' : Layered,
        let r : Renderer := { data, options }
        data.SameAt data' options.entryPoint →
        (∀ name ∈ r.render.2.visited.toList, data.SameAt data' name) →
          ({ data := data', options } : Renderer).render = r.render)
      ∧ (∀ source source' fields fields' template,
          source.IsMap fields → source'.IsMap fields' →
          fields.Perm fields' → (fields.map Prod.fst).Nodup →
            (make source' options template .none).render
              = (make source options template .none).render)
      ∧ (∀ (data data' : Layered) (hidden : String),
          let r : Renderer := { data, options }
          hidden ≠ options.entryPoint →
          (∀ q, r.Requested r.depthLimit q → ¬ r.Displays q hidden) →
          (∀ name, name ≠ hidden → data.SameAt data' name) →
            ({ data := data', options } : Renderer).render = r.render)
      ∧ ∀ source source' fields text,
          source.IsMap fields →
          source'.IsMap (setKey fields options.entryPoint (.string text)) →
            (make source' options none .none).render
              = (make source options (some text) .none).render := by
  refine ⟨?_, ?_, ?_, ?_⟩
  · intro data data' r hentry hentered
    exact render_congr rfl rfl rfl hentry hentered
  · intro source source' fields fields' template hmap hmap' hperm hkeys
    have hsame := Layered.sameAt_of_perm hmap hmap' hperm hkeys
      (template.map fun text => ⟨options.entryPoint, .string text⟩)
    exact render_congr rfl rfl rfl (hsame options.entryPoint) fun name _ => hsame name
  · intro data data' hidden r hentry hhidden hsame
    -- a layer that is referred to from hidden places only is never entered
    have hunseen := not_mem_visited (r := r) rfl hentry hhidden
    refine render_congr rfl rfl rfl (hsame _ hentry.symm) fun name hname => ?_
    apply hsame
    rintro rfl
    exact hunseen hname
  · intro source source' fields text hmap hmap'
    have hsame := Layered.sameAt_setKey hmap hmap'
    exact render_congr rfl rfl rfl (hsame options.entryPoint) fun name _ => hsame name

/-- The text of a layer with a part that is written for drafts only. -/
def draftText : String :=
  "\x7b\x7b=title\x7d\x7d\x7b\x7bif draft\x7d\x7d\x7b\x7b=notes\x7d\x7d\x7b\x7bend\x7d\x7d"

/-- Layers for it, of which the last one would lead back to it. -/
def draftParts : List (String × Value) :=
  [("title", .string "T"), ("draft", .bool false), ("notes", .string "\x7b\x7b=start\x7d\x7d")]

theorem render_depends_on_entered_draft :
    let fields := ("start", .string draftText) :: draftParts
    let written := (make (.ordered fields) {} none .none).render
    written.2.visited = #["start", "title", "draft"]
      ∧ (make (.unordered (("notes", .null) :: fields)) {} none .none).render = written
      ∧ (make (.unordered fields.reverse) {} none .none).render = written
      ∧ (make (.ordered (fields.take 3)) {} none .none).render = written
      ∧ (make (.ordered (setKey draftParts "start" (.string draftText))) {} none .none).render
          = (make (.ordered draftParts) {} (some draftText) .none).render := by
  intro fields written
  obtain ⟨hentered, hperm, hhidden, htemplate⟩ := render_depends_on_entered {}
  have hvisited : written.2.visited = #["start", "title", "draft"] := by decide +kernel
  refine ⟨hvisited, ?_, ?_, ?_, ?_⟩
  · refine hentered { inner := .ordered fields } _ rfl fun name hname => ?_
    replace hname : name ∈ written.2.visited.toList := hname
    rw [hvisited] at hname
    simp only [List.mem_cons, List.not_mem_nil, or_false] at hname
    rcases hname with rfl | rfl | rfl <;> rfl
  · exact hperm _ _ fields fields.reverse none .ordered .unordered (List.reverse_perm fields).symm
      (by decide)
  · -- the render has a result, so what it displays it visits
    refine hhidden { inner := .ordered fields } _ "notes" (by decide) ?_ ?_
    · have hok : ∃ result, written.1 = .ok result := by
        have htext : (match written.1 with
            | .ok (.text text) => some text
            | _ => none) = some "T" := by decide +kernel
        split at htext
        · next text hresult => exact ⟨_, hresult⟩
        · exact absurd htext (by simp)
      obtain ⟨result, hresult⟩ := hok
      intro q hq hdisplays
      have hnotes := (mem_visited_iff_displays rfl rfl hresult "notes").2
        (Or.inr ⟨q, hq, hdisplays⟩)
      replace hnotes : "notes" ∈ written.2.visited.toList := hnotes
      rw [hvisited] at hnotes
      exact absurd hnotes (by decide)
    · intro name hname
      simp [Layered.SameAt, Layered.lookup, DataSource.lookup, DataSource.lookupIn, fields,
        draftParts, lookup_cons_eq, hname]
  · exact htemplate _ _ draftParts draftText .ordered .ordered

end Renderer

end LayerTemplates
